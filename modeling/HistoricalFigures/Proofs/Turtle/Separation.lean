import HistoricalFigures.Proofs.Turtle.TokenShape

/-!
**What stands behind a token.** A token that is no string may be followed by anything that begins with
an edge, and a string by anything that does not begin with its quote.

* `TokenKind.isString`: the kinds of strings, which are told by their first characters.
* `IsLexeme.cases_of_noString`: what a token looks like that is no string.
* `IsLexeme.forall_mem`: it has neither blanks nor double quotes.
* `IsLexeme.transfer`: behind an edge what follows a token may be changed.
* `IsLexeme.alone`, `IsLexeme.string_append`: a string is a token whatever follows but its quote.
* `mayFollow_of_readOn`: what follows a string in a text that is read.
-/
namespace HistoricalFigures.Turtle

open Rdf (Namespaces Statement)

/-- The kinds of strings. -/
def TokenKind.isString : TokenKind → Bool
  | .string | .longString => true
  | _ => false

/-- **A string begins with a quote**, and nothing else does. -/
theorem isString_of_extent? {c : Char} {text : List Char} {kind : TokenKind} {extent : Nat}
    (found : extent? c text = some (some kind, extent)) :
    kind.isString = true ↔ c = '\x22' ∨ c = '\x27' := by
  have isReader := isTokenReader c
  generalize extent? c = reader at isReader found
  have plain : ∀ d, d ≠ '\x22' ∧ d ≠ '\x27' → ∀ kind : TokenKind, kind.isString = false →
      (kind.isString = true ↔ d = '\x22' ∨ d = '\x27') := fun d other kind noString =>
    iff_of_false (by rw [noString]; exact Bool.false_ne_true) (not_or.mpr other)
  cases isReader with
  | blank | comment | other => cases found
  | iri =>
    obtain ⟨_, _, same⟩ := Option.map_eq_some_iff.mp found
    cases same
    exact plain '<' (by decide) _ rfl
  | string quote isQuote =>
    obtain ⟨⟨kind, count⟩, reaches, same⟩ := Option.map_eq_some_iff.mp found
    cases same
    refine iff_of_true ?_ isQuote
    rcases stringExtent?_cases reaches with rfl | ⟨rfl, _⟩ <;> rfl
  | at_ =>
    obtain ⟨⟨kind, count⟩, reaches, same⟩ := Option.map_eq_some_iff.mp found
    cases same
    refine plain '@' (by decide) _ ?_
    unfold atExtent? at reaches
    dsimp only at reaches
    split at reaches
    · cases reaches
      rfl
    · split at reaches <;> cases reaches
      rfl
  | mark =>
    dsimp only at found
    split at found <;> cases found
    exact plain '^' (by decide) _ rfl
  | sign _ isSign =>
    dsimp only at found
    split at found <;> cases found
    exact plain _ (by rcases isSign with rfl | rfl <;> decide) _ rfl
  | digit _ isDigit =>
    cases found
    refine plain _ ⟨?_, ?_⟩ _ rfl <;> (rintro rfl; exact absurd isDigit (by decide +kernel))
  | colon =>
    cases found
    exact plain ':' (by decide) _ rfl
  | letter _ isLetter =>
    cases found
    refine plain _ ⟨?_, ?_⟩ _ ?_
    · rintro rfl
      exact absurd isLetter (by decide)
    · rintro rfl
      exact absurd isLetter (by decide)
    · unfold letterExtent
      dsimp only
      split <;> rfl
  | lowLine =>
    dsimp only at found
    split at found <;> cases found
    exact plain '_' (by decide) _ rfl
  | bracket _ isBracket =>
    cases found
    exact plain _ (by rcases isBracket with rfl | rfl | rfl | rfl <;> decide) _ rfl
  | punctuation _ isMark =>
    cases found
    exact plain _ (by rcases isMark with rfl | rfl | rfl <;> decide) _ rfl

/-! ### Tokens that are no strings -/

/-- **What a token looks like that is no string**: a resource between angle brackets, or points and
characters that stand outside. -/
theorem IsLexeme.cases_of_noString {kind : TokenKind} {lexeme rest : List Char}
    (isLexeme : IsLexeme kind lexeme rest) (noString : kind.isString = false) :
    (kind = .iri ∧ ∃ raw, IsRawIri raw ∧ lexeme = '<' :: raw ++ ['>']) ∨
      ∀ c ∈ lexeme, c = '.' ∨ standsOutside c = true := by
  obtain ⟨c, body, rfl, reach⟩ := isLexeme
  have noQuote := mt (isString_of_extent? reach).mpr (by rw [noString]; exact Bool.false_ne_true)
  by_cases iri : c = '<'
  · subst iri
    obtain ⟨isIri, raw, isRaw, rfl⟩ := exists_rawIri_of_extent? reach
    exact .inl ⟨isIri, raw, isRaw, rfl⟩
  by_cases point : c = '.'
  · subst point
    have single : extent? '.' (body ++ rest) = some (some .punctuation, 0) := rfl
    rw [single] at reach
    obtain rfl := List.length_eq_zero_iff.mp (Prod.mk.inj (Option.some.inj reach)).2.symm
    exact .inr fun d member => .inl (List.mem_singleton.mp member)
  · have comment : c ≠ '#' := by
      rintro rfl
      cases reach
    have other : opensText c = false := by simpa [opensText, iri, comment] using noQuote
    exact .inr (isDotted_of_extent? reach other point).forall_mem

/-- **A token that is no string has neither blanks nor double quotes.** -/
theorem IsLexeme.forall_mem {kind : TokenKind} {lexeme rest : List Char}
    (isLexeme : IsLexeme kind lexeme rest) (noString : kind.isString = false) :
    ∀ c ∈ lexeme, Unicode.isBlank c = false ∧ c ≠ '\x22' := by
  rcases isLexeme.cases_of_noString noString with ⟨_, raw, isRaw, rfl⟩ | shape
  · intro d member
    have inside : d = '<' ∨ d ∈ raw ∨ d = '>' := by simpa using member
    rcases inside with rfl | among | rfl
    · decide
    · rcases isRaw.forall_mem d among with safe | rfl
      · simp only [isIriChar, Bool.not_eq_true', Bool.or_eq_false_iff, decide_eq_false_iff_not] at safe
        exact ⟨safe.2, safe.1.1.1.1.1.1.1.2⟩
      · decide
    · decide
  · intro d member
    rcases shape d member with rfl | outside
    · decide
    · rw [standsOutside, Bool.and_eq_true, Bool.not_eq_true', decide_eq_true_eq] at outside
      exact ⟨outside.1, fun quote => outside.2 (by simp [quote])⟩

/-- **Behind an edge what follows a token may be changed**, unless the token is a string. -/
theorem IsLexeme.transfer {kind : TokenKind} {lexeme text first second : List Char}
    (isLexeme : IsLexeme kind lexeme (text ++ first)) (noString : kind.isString = false)
    (edged : IsEdged first) (edgedToo : IsEdged second) : IsLexeme kind lexeme (text ++ second) := by
  obtain ⟨c, body, rfl, reach⟩ := isLexeme
  have noQuote := mt (isString_of_extent? reach).mpr (by rw [noString]; exact Bool.false_ne_true)
  by_cases iri : c = '<'
  · subst iri
    obtain ⟨rfl, raw, isRaw, rfl⟩ := exists_rawIri_of_extent? reach
    exact isLexeme_rawIri isRaw _
  · have comment : c ≠ '#' := by
      rintro rfl
      cases reach
    have other : opensText c = false := by simpa [opensText, iri, comment] using noQuote
    refine ⟨c, body, rfl, ?_⟩
    rw [← List.append_assoc, extent?_append_edged edged other] at reach
    rw [← List.append_assoc, extent?_append_edged edgedToo other, reach]

/-! ### Strings -/

/-- A short string ends with its quote. -/
theorem getLast?_of_shortExtent? {quote : Char} {skipped : Nat} {body rest : List Char}
    (found : shortExtent? quote skipped (body ++ rest) = some body.length) :
    body.getLast? = some quote := by
  induction body generalizing skipped with
  | nil => exact absurd (pos_of_shortExtent? found) (Nat.lt_irrefl 0)
  | cons c later shorter =>
    rcases shortExtent?_cons found with ⟨alone, rfl, _⟩ | ⟨_, count, length, _, there, _⟩
    · rw [List.length_eq_zero_iff.mp (Nat.succ.inj alone), List.getLast?_singleton]
    · rw [← Nat.succ.inj length] at there
      rw [List.getLast?_cons, shorter there, Option.getD_some]

/-- A long string has three quotes before it and reaches up to three closing ones. -/
theorem stringExtent?_eq_long_iff {quote : Char} {text : List Char} {extent : Nat} :
    stringExtent? quote text = some (.longString, extent) ↔ text.take 2 = [quote, quote] ∧
      ∃ count, longExtent? quote 0 (text.drop 2) = some count ∧ count + 2 = extent := by
  unfold stringExtent?
  dsimp only
  constructor
  · intro found
    split at found
    · rename_i count long
      cases found
      split at long
      · rename_i opens
        exact ⟨opens, count, long, rfl⟩
      · cases long
    · obtain ⟨_, _, same⟩ := Option.map_eq_some_iff.mp found
      cases same
  · rintro ⟨opens, count, closes, rfl⟩
    rw [if_pos opens, closes]

/-- **A string is a token on its own.** -/
theorem IsLexeme.alone {kind : TokenKind} {lexeme rest : List Char}
    (isLexeme : IsLexeme kind lexeme rest) (isString : kind.isString = true) :
    IsLexeme kind lexeme [] := by
  obtain ⟨c, body, rfl, reach⟩ := isLexeme
  have isQuote := (isString_of_extent? reach).mp isString
  refine ⟨c, body, rfl, ?_⟩
  rw [extent?_quote isQuote] at reach ⊢
  obtain ⟨⟨kind, count⟩, reaches, same⟩ := Option.map_eq_some_iff.mp reach
  cases same
  have closed : stringExtent? c body = some (kind, body.length) := by
    rcases stringExtent?_cases reaches with rfl | ⟨rfl, _⟩
    · obtain ⟨opens, count, closes, length⟩ := stringExtent?_eq_long_iff.mp reaches
      have long : 2 ≤ body.length := length ▸ Nat.le_add_left 2 count
      rw [List.take_append_of_le_length long] at opens
      rw [List.drop_append_of_le_length long] at closes
      refine stringExtent?_eq_long_iff.mpr ⟨opens, count, longExtent?_of_append closes ?_, length⟩
      rw [List.length_drop]
      omega
    · exact stringExtent?_of_append reaches (Nat.le_refl _)
  rw [List.append_nil, closed, Option.map_some]

/-- **A string is a token whatever follows but its quote.** -/
theorem IsLexeme.string_append {kind : TokenKind} {lexeme : List Char}
    (isLexeme : IsLexeme kind lexeme []) (isString : kind.isString = true) {rest : List Char}
    (next : rest.head? ≠ lexeme.head?) : IsLexeme kind lexeme rest := by
  obtain ⟨c, body, rfl, reach⟩ := isLexeme
  have isQuote := (isString_of_extent? reach).mp isString
  refine ⟨c, body, rfl, ?_⟩
  rw [extent?_quote isQuote] at reach ⊢
  obtain ⟨⟨kind, count⟩, reaches, same⟩ := Option.map_eq_some_iff.mp reach
  cases same
  rw [List.append_nil] at reaches
  have closed : stringExtent? c (body ++ rest) = some (kind, body.length) := by
    rcases stringExtent?_cases reaches with rfl | ⟨rfl, short, _⟩
    · obtain ⟨opens, count, closes, length⟩ := stringExtent?_eq_long_iff.mp reaches
      have long : 2 ≤ body.length := length ▸ Nat.le_add_left 2 count
      refine stringExtent?_eq_long_iff.mpr ⟨?_, count, ?_, length⟩
      · rw [List.take_append_of_le_length long, opens]
      · rw [List.drop_append_of_le_length long, longExtent?_append closes]
    · -- A second quote before what follows would close the string, and nothing else would be left.
      have noLong : (body ++ rest).take 2 ≠ [c, c] := by
        intro twice
        cases body with
        | nil => cases short
        | cons d more =>
          obtain rfl : d = c := by simpa using congrArg List.head? twice
          have plain : d ≠ '\\' := by rcases isQuote with rfl | rfl <;> decide
          rw [shortExtent?, if_neg plain, if_pos rfl] at short
          have nothing : more = [] := by simpa using short.symm
          subst nothing
          cases rest with
          | nil => cases twice
          | cons e later => exact next (by simpa using twice)
      unfold stringExtent?
      simp only [if_neg noLong, shortExtent?_append short, Option.map_some]
  rw [closed, Option.map_some]

/-! ### What follows a string -/

/-- The characters that may follow a string in a document. -/
def mayFollow (c : Char) : Bool :=
  Unicode.isBlank c || c ∈ ['#', '@', '^', '.', ';', ',']

/-- The number of quotes before a string and behind it. -/
def TokenKind.quoteCount : TokenKind → Nat
  | .longString => 3
  | _ => 1

/-- **A string is taken as an object alone.** -/
theorem exists_of_step_string {kind : TokenKind} {lexeme : List Char} {line : Nat}
    (isString : kind.isString = true) {reading next : Reading}
    (step : reading.step ⟨kind, lexeme, line⟩ = .ok next) :
    ∃ subject predicate value, reading.expecting = .object subject predicate ∧
      Reading.stringValue kind.quoteCount ⟨kind, lexeme, line⟩ = .ok value ∧
      next = { reading with expecting := .suffix subject predicate value } := by
  cases kind <;> try cases isString
  all_goals
    unfold Reading.step at step
    cases expecting : reading.expecting with
    | object subject predicate =>
      rw [expecting] at step
      obtain ⟨value, reads, rfl⟩ := eq_ok_of_map step
      exact ⟨subject, predicate, value, rfl, reads, rfl⟩
    | _ =>
      rw [expecting] at step
      cases step

/-- Behind a string there is a language, a datatype or a mark. -/
theorem kind_of_step_suffix {token : Token} {reading next : Reading}
    {subject predicate value : String} (expecting : reading.expecting = .suffix subject predicate value)
    (step : reading.step token = .ok next) :
    token.kind = .language ∨ token.kind = .datatypeMark ∨ token.kind = .punctuation := by
  rw [Reading.step, expecting] at step
  simp only [Reading.takeSuffix, Reading.takeSeparator, Reading.takePoint] at step
  split at step
  · exact .inl ‹_›
  split at step
  · exact .inr (.inl ‹_›)
  have punctuation : ∀ mark, Reading.isMark token mark = true → token.kind = .punctuation :=
    fun mark isMark => of_decide_eq_true (Bool.and_eq_true_iff.mp isMark).1
  split at step
  · exact .inr (.inr (punctuation _ ‹_›))
  split at step
  · exact .inr (.inr (punctuation _ ‹_›))
  split at step
  · exact .inr (.inr (punctuation _ ‹_›))
  · cases step

/-- The first characters of the tokens behind a string. -/
theorem mayFollow_of_extent? {c : Char} {text : List Char} {kind : TokenKind} {extent : Nat}
    (found : extent? c text = some (some kind, extent))
    (follows : kind = .language ∨ kind = .datatypeMark ∨ kind = .punctuation) :
    mayFollow c = true := by
  have isReader := isTokenReader c
  generalize extent? c = reader at isReader found
  cases isReader with
  | at_ | mark => decide
  | punctuation _ isMark => rcases isMark with rfl | rfl | rfl <;> decide
  | blank | comment | other => cases found
  | iri =>
    obtain ⟨_, _, same⟩ := Option.map_eq_some_iff.mp found
    cases same
    simp at follows
  | string =>
    obtain ⟨⟨kind, count⟩, reaches, same⟩ := Option.map_eq_some_iff.mp found
    cases same
    rcases stringExtent?_cases reaches with rfl | ⟨rfl, _⟩ <;> simp at follows
  | letter =>
    cases found
    unfold letterExtent at follows
    dsimp only at follows
    split at follows <;> simp at follows
  | sign | lowLine =>
    dsimp only at found
    split at found <;> cases found
    simp at follows
  | digit | colon | bracket =>
    cases found
    simp at follows

/-- What is no token is a blank or a comment. -/
theorem isBlank_of_extent? {c : Char} {text : List Char} {extent : Nat}
    (found : extent? c text = some (none, extent)) (noComment : c ≠ '#') :
    Unicode.isBlank c = true := by
  have isReader := isTokenReader c
  generalize extent? c = reader at isReader found
  cases isReader with
  | blank _ isBlank => exact isBlank
  | comment => exact absurd rfl noComment
  | iri | string | at_ =>
    obtain ⟨_, _, same⟩ := Option.map_eq_some_iff.mp found
    cases same
  | mark | sign | lowLine =>
    dsimp only at found
    split at found <;> cases found
  | digit | colon | letter | bracket | punctuation | other => cases found

/-- **What follows a string in a text that is read**: a blank, a comment, a language, a datatype or the
mark behind an object. -/
theorem mayFollow_of_readOn {kind : TokenKind} {lexeme rest : List Char} (isString : kind.isString = true)
    {reading next last : Reading} {line line' : Nat}
    (step : reading.step ⟨kind, lexeme, line⟩ = .ok next) (reads : readOn next line' rest = .ok last) :
    ∀ c ∈ rest.head?, mayFollow c = true := by
  obtain ⟨subject, predicate, value, _, _, rfl⟩ := exists_of_step_string isString step
  intro c first
  obtain ⟨more, rfl⟩ := List.head?_eq_some_iff.mp first
  obtain ⟨found, lexed, run⟩ := eq_ok_of_bind reads
  rw [tokensFrom_cons] at lexed
  split at lexed
  · cases lexed
  · rename_i extent reach
    by_cases comment : c = '#'
    · rw [comment]
      decide
    · have isBlank : Unicode.isBlank c = true := isBlank_of_extent? reach comment
      rw [mayFollow, isBlank, Bool.true_or]
  · rename_i kind extent reach
    obtain ⟨later, _, rfl⟩ := eq_ok_of_map lexed
    rw [List.foldlM_cons] at run
    obtain ⟨after, step, _⟩ := eq_ok_of_bind run
    exact mayFollow_of_extent? reach (kind_of_step_suffix rfl step)

/-- What may follow a string does not begin with its quote. -/
theorem IsLexeme.head?_ne {kind : TokenKind} {lexeme text rest : List Char}
    (isLexeme : IsLexeme kind lexeme text) (isString : kind.isString = true)
    (follows : ∀ c ∈ rest.head?, mayFollow c = true) : rest.head? ≠ lexeme.head? := by
  obtain ⟨c, body, rfl, reach⟩ := isLexeme
  intro same
  have quote := follows c same
  rcases (isString_of_extent? reach).mp isString with rfl | rfl <;> cases quote

end HistoricalFigures.Turtle
