import HistoricalFigures.Proofs.Outcome
import HistoricalFigures.Proofs.Turtle.Escape
import HistoricalFigures.Proofs.Turtle.Grammar
import HistoricalFigures.Turtle.Reading

/-!
**The tokens that a written document consists of.** A lexeme is the text of a token in front of the
text that follows it: what follows decides how far the token reaches.

* `IsLexeme`: a text is a token of a kind in front of another text.
* `isLexeme_iri`, `isLexeme_name`, `isLexeme_string`, `isLexeme_language`, `isLexeme_directive`,
  `isLexeme_datatypeMark`, `isLexeme_point`: the lexemes that are written.
* `isLexeme_namespaceName`, `isLexeme_word`: the lexemes of a declaration in words.
* `Reads`: a text in front of another takes a reading to another.
* `Reads.lexeme`, `Reads.blank`, `Reads.append`: a lexeme, a blank, and one text behind another.
* `Refuses`: a text in front of which a reading ends with a fault of grammar.
-/
namespace HistoricalFigures.Turtle

open Rdf (Namespaces)

/-- A text is a token of a kind in front of what follows it. -/
def IsLexeme (kind : TokenKind) (lexeme rest : List Char) : Prop :=
  ∃ c body, lexeme = c :: body ∧ extent? c (body ++ rest) = some (some kind, body.length)

/-! ### Resources -/

/-- A written resource between angle brackets is a lexeme whatever follows. -/
theorem isLexeme_iri (text rest : List Char) :
    IsLexeme .iri ('<' :: text.flatMap formatIriChar ++ ['>']) rest := by
  refine ⟨'<', text.flatMap formatIriChar ++ ['>'], rfl, ?_⟩
  rw [List.append_assoc, List.singleton_append, extent?, if_neg (by decide), if_neg (by decide),
    if_pos rfl, iriExtent?_formatIriChars, List.length_append]
  rfl

/-- What may stand behind the colon of a name reaches up to the next space. -/
theorem localExtent_append {text : List Char} (safe : text = [] ∨ isSafeLocal text = true)
    (rest : List Char) : localExtent (text ++ ' ' :: rest) = text.length := by
  have stops : Stops '.' isLocalChar (' ' :: rest) := by
    intro c first
    obtain rfl : ' ' = c := by simpa using first
    exact ⟨by decide, by decide⟩
  rcases safe with rfl | safe
  · rw [List.nil_append, localExtent, if_neg]
    · rfl
    · rw [List.head?_cons, Option.any_some, (stops ' ' rfl).1]
      exact Bool.false_ne_true
  · have belongs := isLocalChar_of_isSafeLocal safe
    rw [localExtent, if_pos]
    · exact dottedExtent_append (isDotted_of_forall belongs) stops
    · obtain ⟨first, later, rfl⟩ : ∃ first later, text = first :: later := by
        cases text with
        | nil => exact absurd safe Bool.false_ne_true
        | cons first later => exact ⟨first, later, rfl⟩
      rw [List.cons_append, List.head?_cons, Option.any_some]
      exact belongs first List.mem_cons_self

theorem extent?_letter {letter : Char} (isLetter : letter.isAlpha = true) (rest : List Char) :
    extent? letter rest = some (some (letterExtent rest).1, (letterExtent rest).2) := by
  have plain := Unicode.isAlphanum_of_isAlpha isLetter
  have other : ∀ c : Char, c.isAlpha = false → letter ≠ c := fun c unlike same =>
    Bool.false_ne_true (unlike.symm.trans (same ▸ isLetter))
  rw [extent?, Unicode.isBlank_of_isAlphanum plain, if_neg Bool.false_ne_true,
    if_neg (other '#' (by decide)), if_neg (other '<' (by decide)),
    if_neg (not_or.mpr ⟨other '\x22' (by decide), other '\x27' (by decide)⟩),
    if_neg (other '@' (by decide)), if_neg (other '^' (by decide)),
    if_neg (not_or.mpr ⟨other '+' (by decide), other '-' (by decide)⟩),
    Unicode.isDigit_of_isAlpha isLetter, if_neg Bool.false_ne_true,
    if_neg (other ':' (by decide)), if_pos isLetter]

/-- **A name in a namespace is a lexeme in front of a space.** -/
theorem isLexeme_name {name text : List Char} (grammar : IsNamespaceName name)
    (safe : text = [] ∨ isSafeLocal text = true) (rest : List Char) :
    IsLexeme .name (name ++ ':' :: text) (' ' :: rest) := by
  rcases grammar with rfl | ⟨letter, body, rfl, isLetter, dotted⟩
  · refine ⟨':', text, rfl, ?_⟩
    rw [extent?, if_neg (by decide), if_neg (by decide), if_neg (by decide), if_neg (by decide),
      if_neg (by decide), if_neg (by decide), if_neg (by decide), if_neg (by decide),
      if_pos rfl, localExtent_append safe]
  · refine ⟨letter, body ++ ':' :: text, rfl, ?_⟩
    have stops : Stops '.' isNameChar (':' :: (text ++ ' ' :: rest)) := by
      intro c first
      obtain rfl : ':' = c := by simpa using first
      exact ⟨by decide, by decide⟩
    have reach := dottedExtent_append dotted stops
    rw [extent?_letter isLetter, List.append_assoc, List.cons_append, letterExtent, reach,
      List.drop_left]
    simp only [localExtent_append safe, List.length_append, List.length_cons]
    rw [Nat.add_assoc, Nat.add_comm 1]

/-- **The name of a namespace is a lexeme in front of what does not continue it.** -/
theorem isLexeme_namespaceName {name rest : List Char} (grammar : IsNamespaceName name)
    (stops : rest.head?.any isLocalChar = false) : IsLexeme .name (name ++ [':']) rest := by
  have nothing : localExtent rest = 0 := by rw [localExtent, stops, if_neg Bool.false_ne_true]
  rcases grammar with rfl | ⟨letter, body, rfl, isLetter, dotted⟩
  · refine ⟨':', [], rfl, ?_⟩
    rw [List.nil_append, extent?, if_neg (by decide), if_neg (by decide), if_neg (by decide),
      if_neg (by decide), if_neg (by decide), if_neg (by decide), if_neg (by decide),
      if_neg (by decide), if_pos rfl, nothing]
    rfl
  · refine ⟨letter, body ++ [':'], rfl, ?_⟩
    have colon : Stops '.' isNameChar (':' :: rest) := fun c first => by
      obtain rfl : ':' = c := by simpa using first
      exact ⟨by decide, by decide⟩
    have reach := dottedExtent_append dotted colon
    rw [extent?_letter isLetter, List.append_assoc, List.singleton_append, letterExtent, reach,
      List.drop_left]
    simp only [nothing, List.length_append, List.length_singleton, Nat.add_zero]

/-- **A word is a lexeme where no character of a name follows**, nor a point or a colon. -/
theorem isLexeme_word {letter : Char} {body rest : List Char} (isLetter : letter.isAlpha = true)
    (belongs : ∀ c ∈ body, isNameChar c = true)
    (stops : ∀ c ∈ rest.head?, isNameChar c = false ∧ c ≠ '.' ∧ c ≠ ':') :
    IsLexeme .word (letter :: body) rest := by
  refine ⟨letter, body, rfl, ?_⟩
  have ends : Stops '.' isNameChar rest := fun c first =>
    ⟨(stops c first).1, (stops c first).2.1⟩
  have reach := dottedExtent_append (isDotted_of_forall belongs) ends
  have taken : (body ++ rest).takeWhile isNameChar = body := by
    rw [List.takeWhile_append_of_pos belongs]
    cases rest with
    | nil => rw [List.takeWhile_nil, List.append_nil]
    | cons c later =>
      rw [List.takeWhile_cons_of_neg (by rw [(stops c rfl).1]; exact Bool.false_ne_true),
        List.append_nil]
  rw [extent?_letter isLetter, letterExtent, reach, List.drop_left]
  split
  · exact absurd rfl (stops ':' rfl).2.2
  · rw [taken]

/-! ### Strings and what follows them -/

/-- **A written string is a lexeme in front of anything but a quote.** The empty string is the one
whose two quotes could begin a long string. -/
theorem isLexeme_string (text : List Char) {rest : List Char} (next : rest.head? ≠ some '\x22') :
    IsLexeme .string ('\x22' :: text.flatMap formatStringChar ++ ['\x22']) rest := by
  refine ⟨'\x22', text.flatMap formatStringChar ++ ['\x22'], rfl, ?_⟩
  have short : ((text.flatMap formatStringChar ++ '\x22' :: rest).take 2 = ['\x22', '\x22']) → False := by
    intro twice
    cases text with
    | nil =>
      cases rest with
      | nil => simp at twice
      | cons c later => exact next (by simpa using twice)
    | cons c later =>
      apply head?_formatStringChars (c :: later) ('\x22' :: rest) (List.cons_ne_nil c later)
      have first := congrArg List.head? twice
      rwa [List.head?_take, if_neg (by decide)] at first
  rw [List.append_assoc, List.singleton_append, extent?, if_neg (by decide), if_neg (by decide),
    if_neg (by decide), if_pos (.inl rfl), stringExtent?, if_neg short]
  simp only [shortExtent?_formatStringChars, Option.map_some, List.length_append,
    List.length_singleton]

theorem isLexeme_datatypeMark (rest : List Char) : IsLexeme .datatypeMark ['^', '^'] rest := by
  refine ⟨'^', ['^'], rfl, ?_⟩
  rw [extent?, if_neg (by decide), if_neg (by decide), if_neg (by decide), if_neg (by decide),
    if_neg (by decide), if_pos rfl]
  rfl

theorem isLexeme_point (rest : List Char) : IsLexeme .punctuation ['.'] rest := by
  refine ⟨'.', [], rfl, ?_⟩
  rw [extent?, if_neg (by decide), if_neg (by decide), if_neg (by decide), if_neg (by decide),
    if_neg (by decide), if_neg (by decide), if_neg (by decide), if_neg (by decide),
    if_neg (by decide), if_neg (by decide), if_neg (by decide), if_neg (by decide), if_pos (.inl rfl)]
  rfl

theorem isLexeme_at {kind : TokenKind} {text rest : List Char}
    (found : atExtent? (text ++ rest) = some (kind, text.length)) :
    IsLexeme kind ('@' :: text) rest := by
  refine ⟨'@', text, rfl, ?_⟩
  rw [extent?, if_neg (by decide), if_neg (by decide), if_neg (by decide), if_neg (by decide),
    if_pos rfl, found]
  rfl

/-- **The word of a directive is a lexeme where its word ends.** -/
theorem isLexeme_directive {word rest : List Char} (member : word ∈ directiveWords)
    (edge : ∀ c ∈ rest.head?, Unicode.isWord c = false) :
    IsLexeme .directive ('@' :: word) rest := by
  have ends : rest.head?.any Unicode.isWord = false := by
    cases first : rest.head? with
    | none => rfl
    | some c => exact edge c first
  have found : directiveWords.find? (fun other =>
      other.isPrefixOf (word ++ rest) &&
        !((word ++ rest).drop other.length).head?.any Unicode.isWord) = some word := by
    simp only [directiveWords, List.mem_cons, List.not_mem_nil, or_false] at member ⊢
    rcases member with rfl | rfl
    · rw [List.find?_cons_of_pos]
      simp [ends]
    · rw [List.find?_cons_of_neg (by simp [List.isPrefixOf]), List.find?_cons_of_pos]
      simp [ends]
  exact isLexeme_at (by simp only [atExtent?, found])

/-- What is the start of a text with a stop in it, and has no stop, is the start of what stands
before the stop. -/
theorem prefix_of_prefix_append_cons {stop : Char} {word text rest : List Char}
    (absent : stop ∉ word) (start : word <+: text ++ stop :: rest) : word <+: text := by
  rcases Nat.lt_or_ge text.length word.length with long | short
  · have behind : text ++ [stop] <+: text ++ stop :: rest := ⟨rest, by simp⟩
    have longer : (text ++ [stop]).length ≤ word.length := by
      rw [List.length_append]
      exact long
    have inside := List.prefix_of_prefix_length_le behind start longer
    exact absurd (inside.subset (by simp)) absent
  · exact List.prefix_of_prefix_length_le start (List.prefix_append text _) short

/-- No word of a directive stands on its own at the start of a language that is not reserved. -/
theorem find?_directiveWords {tag : List Char} (language : IsLanguageTag tag)
    (free : ¬ IsReservedTag tag) (rest : List Char) :
    directiveWords.find? (fun word => word.isPrefixOf (tag ++ ' ' :: rest) &&
      !((tag ++ ' ' :: rest).drop word.length).head?.any Unicode.isWord) = none := by
  rw [List.find?_eq_none]
  intro word member stands
  rw [Bool.and_eq_true, Bool.not_eq_true', List.isPrefixOf_iff_prefix] at stands
  obtain ⟨start, edge⟩ := stands
  have spaceless : ' ' ∉ word := by
    simp only [directiveWords, List.mem_cons, List.not_mem_nil, or_false] at member
    rcases member with rfl | rfl <;> decide
  obtain ⟨more, rfl⟩ := prefix_of_prefix_append_cons spaceless start
  cases more with
  | nil => exact free ⟨word, member, .inl (List.append_nil word)⟩
  | cons c later =>
    rcases language.forall_mem c (by simp) with rfl | belongs
    · refine free ⟨word, member, .inr ?_⟩
      rw [List.isPrefixOf_iff_prefix]
      exact ⟨later, by simp⟩
    · rw [List.append_assoc, List.drop_left, List.cons_append, List.head?_cons, Option.any_some,
        Unicode.isWord_of_isAlphanum (isAlphanum_of_isTagChar belongs)] at edge
      exact Bool.false_ne_true edge.symm

/-- **A language that is not reserved is a lexeme in front of a space.** -/
theorem isLexeme_language {tag : List Char} (language : IsLanguageTag tag)
    (free : ¬ IsReservedTag tag) (rest : List Char) :
    IsLexeme .language ('@' :: tag) (' ' :: rest) := by
  have reach := languageExtent_append language rest
  have positive : tag.length ≠ 0 := by
    obtain ⟨letters, parts, rfl, nonempty, _⟩ := language
    simp [nonempty]
  refine isLexeme_at ?_
  simp only [atExtent?, find?_directiveWords language free, reach, if_neg positive]

/-- **A reserved language begins with a directive.** -/
theorem isLexeme_reserved {tag : List Char} (reserved : IsReservedTag tag) (rest : List Char) :
    ∃ word more, tag = word ++ more ∧
      IsLexeme .directive ('@' :: word) (more ++ ' ' :: rest) := by
  obtain ⟨word, member, rfl | start⟩ := reserved
  · refine ⟨tag, [], (List.append_nil tag).symm, isLexeme_directive member fun c first => ?_⟩
    obtain rfl : ' ' = c := by simpa using first
    decide
  · rw [List.isPrefixOf_iff_prefix] at start
    obtain ⟨later, rfl⟩ := start
    refine ⟨word, '-' :: later, by simp, isLexeme_directive member fun c first => ?_⟩
    obtain rfl : '-' = c := by simpa using first
    decide

/-! ### Reading a document lexeme by lexeme -/

/-- The reading behind a text that begins on a line, or the first error in it. -/
def readOn (reading : Reading) (line : Nat) (text : List Char) : Except Error Reading :=
  (tokensFrom line 0 text).bind fun found => found.foldlM Reading.step reading

/-- The line behind a text. -/
def lineBehind (line : Nat) (text : List Char) : Nat := text.foldl lineAfter line

/-- A text without line breaks ends on the line that it begins on. -/
theorem lineBehind_eq_self {text : List Char} (plain : '\n' ∉ text) (line : Nat) :
    lineBehind line text = line := by
  induction text generalizing line with
  | nil => rfl
  | cons c later found =>
    obtain ⟨other, others⟩ := List.ne_and_not_mem_of_not_mem_cons plain
    rw [lineBehind, List.foldl_cons, lineAfter, if_neg (Ne.symm other)]
    exact found others line

/-- A text in front of another takes a reading to another, on whichever line it begins. -/
def Reads (reading : Reading) (text rest : List Char) (next : Reading) : Prop :=
  ∀ line, readOn reading line (text ++ rest) = readOn next (lineBehind line text) rest

/-- A document is read from its first line on, and then its end has to be allowed. -/
theorem read_eq_readOn (known : Namespaces) (text : String) :
    read known text = (readOn ⟨known, [], .sentence⟩ 1 text.toList).bind Reading.finish := by
  simp only [read, tokens, readOn, bind]
  cases tokensFrom 1 0 text.toList <;> rfl

theorem tokensFrom_skip (line : Nat) (skipped rest : List Char) :
    tokensFrom line skipped.length (skipped ++ rest) =
      tokensFrom (lineBehind line skipped) 0 rest := by
  induction skipped generalizing line with
  | nil => rfl
  | cons c later found => exact found (lineAfter line c)

/-- The tokens from a character on that belongs to no earlier token. -/
theorem tokensFrom_cons (line : Nat) (c : Char) (rest : List Char) :
    tokensFrom line 0 (c :: rest) =
      match extent? c rest with
      | none => .error (.noToken line (Unicode.firstLine ((c :: rest).take 20)))
      | some (none, extent) => tokensFrom (lineAfter line c) extent rest
      | some (some kind, extent) =>
        (tokensFrom (lineAfter line c) extent rest).map
          (⟨kind, c :: rest.take extent, line⟩ :: ·) := by
  rfl

theorem tokensFrom_lexeme {kind : TokenKind} {lexeme rest : List Char}
    (isLexeme : IsLexeme kind lexeme rest) (line : Nat) :
    tokensFrom line 0 (lexeme ++ rest) =
      (tokensFrom (lineBehind line lexeme) 0 rest).map (⟨kind, lexeme, line⟩ :: ·) := by
  obtain ⟨c, body, rfl, extent⟩ := isLexeme
  rw [List.cons_append, tokensFrom_cons, extent]
  simp only [List.take_left, tokensFrom_skip, lineBehind, List.foldl_cons]

/-- The reading goes on behind the step over the first token. -/
theorem readOn_lexeme {kind : TokenKind} {lexeme rest : List Char} (isLexeme : IsLexeme kind lexeme rest)
    {reading next : Reading} {line : Nat} (step : reading.step ⟨kind, lexeme, line⟩ = .ok next) :
    readOn reading line (lexeme ++ rest) = readOn next (lineBehind line lexeme) rest := by
  rw [readOn, tokensFrom_lexeme isLexeme, readOn]
  cases tokensFrom (lineBehind line lexeme) 0 rest with
  | error cause => simp only [Except.map, Except.bind]
  | ok found => simp only [Except.map, Except.bind, List.foldlM_cons, step, bind]

/-- **Where a text is read its first token takes one step.** -/
theorem exists_of_readOn_lexeme {kind : TokenKind} {lexeme rest : List Char}
    (isLexeme : IsLexeme kind lexeme rest) {reading last : Reading} {line : Nat}
    (reads : readOn reading line (lexeme ++ rest) = .ok last) :
    ∃ next, reading.step ⟨kind, lexeme, line⟩ = .ok next ∧
      readOn next (lineBehind line lexeme) rest = .ok last := by
  rw [readOn, tokensFrom_lexeme isLexeme] at reads
  obtain ⟨_, lexed, reads⟩ := eq_ok_of_bind reads
  obtain ⟨found, behind, rfl⟩ := eq_ok_of_map lexed
  rw [List.foldlM_cons] at reads
  obtain ⟨next, step, run⟩ := eq_ok_of_bind reads
  refine ⟨next, step, ?_⟩
  rw [readOn, behind]
  exact run

namespace Reads

theorem nil (reading : Reading) (rest : List Char) : Reads reading [] rest reading := by
  intro line
  rw [List.nil_append, lineBehind, List.foldl_nil]

theorem append {reading middle last : Reading} {first second rest : List Char}
    (before : Reads reading first (second ++ rest) middle) (behind : Reads middle second rest last) :
    Reads reading (first ++ second) rest last := by
  intro line
  rw [List.append_assoc, before line, behind, lineBehind, lineBehind, lineBehind, List.foldl_append]

theorem blank (reading : Reading) {c : Char} (isBlank : Unicode.isBlank c = true)
    (rest : List Char) : Reads reading [c] rest reading := by
  intro line
  have nothing : extent? c rest = some (none, 0) := by rw [extent?, if_pos isBlank]
  rw [List.singleton_append, readOn, tokensFrom_cons, nothing, readOn, lineBehind]
  simp only [List.foldl_cons, List.foldl_nil]

theorem blanks (reading : Reading) {text : List Char}
    (areBlanks : ∀ c ∈ text, Unicode.isBlank c = true) (rest : List Char) :
    Reads reading text rest reading := by
  induction text with
  | nil => exact Reads.nil reading rest
  | cons c later found =>
    obtain ⟨here, behind⟩ := List.forall_mem_cons.mp areBlanks
    rw [← List.singleton_append]
    exact (Reads.blank reading here _).append (found behind)

/-- **A lexeme takes one step of the reading.** -/
theorem lexeme {reading next : Reading} {kind : TokenKind} {text rest : List Char}
    (isLexeme : IsLexeme kind text rest)
    (step : ∀ line, reading.step ⟨kind, text, line⟩ = .ok next) : Reads reading text rest next :=
  fun line => readOn_lexeme isLexeme (step line)

/-- A document that takes a reading to one that may end there is read to its end. -/
theorem readOn_eq {reading next : Reading} {text : List Char} (reads : Reads reading text [] next)
    (line : Nat) : readOn reading line text = .ok next := by
  have here := reads line
  rw [List.append_nil] at here
  exact here

end Reads

/-! ### Refusals -/

/-- A reading finds a fault of grammar in a text, on whichever line it begins. -/
def Refuses (reading : Reading) (text : List Char) : Prop :=
  ∀ line, ∃ cause, readOn reading line text = .error cause ∧ cause.isGrammar = true

/-- Where no token begins the text does not fit the grammar. -/
theorem isGrammar_of_tokensFrom {line skipped : Nat} {text : List Char} {cause : Error}
    (fault : tokensFrom line skipped text = .error cause) : cause.isGrammar = true := by
  -- A fault behind a token is that of the later tokens.
  induction text generalizing line skipped with
  | nil => cases skipped <;> cases fault
  | cons c rest found =>
    cases skipped with
    | succ skipped => exact found fault
    | zero =>
      rw [tokensFrom_cons] at fault
      split at fault
      · cases fault
        rfl
      · exact found fault
      · rename_i kind extent _
        cases later : tokensFrom (lineAfter line c) extent rest with
        | ok tokens =>
          rw [later] at fault
          cases fault
        | error cause' =>
          rw [later] at fault
          cases fault
          exact found later

/-- **A text is refused where the step over its first lexeme is.** -/
theorem Refuses.lexeme {reading : Reading} {kind : TokenKind} {text rest : List Char}
    (isLexeme : IsLexeme kind text rest)
    (refuses : ∀ line, ∃ cause, reading.step ⟨kind, text, line⟩ = .error cause ∧
      cause.isGrammar = true) : Refuses reading (text ++ rest) := by
  intro line
  obtain ⟨cause, fault, grammar⟩ := refuses line
  rw [readOn, tokensFrom_lexeme isLexeme]
  cases later : tokensFrom (lineBehind line text) 0 rest with
  | error cause' => exact ⟨cause', rfl, isGrammar_of_tokensFrom later⟩
  | ok found =>
    refine ⟨cause, ?_, grammar⟩
    simp only [Except.map, Except.bind, List.foldlM_cons, fault, bind]

theorem Reads.refuses {reading next : Reading} {text rest : List Char}
    (reads : Reads reading text rest next) (later : Refuses next rest) :
    Refuses reading (text ++ rest) := by
  intro line
  rw [reads line]
  exact later (lineBehind line text)

end HistoricalFigures.Turtle
