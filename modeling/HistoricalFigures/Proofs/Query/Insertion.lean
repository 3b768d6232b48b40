import HistoricalFigures.Proofs.Query.Kind
import HistoricalFigures.Proofs.Query.Prologue

/-!
**Queries that insert a block behind declarations.** Whatever the block holds, the query is read as
the insertion of the triples in it.

* `Insertion`: such a query, with everything that it is written with.
* `trim_append`: the blanks around a text.
* `Declaration.misses_core`: the words before the block are not found in a declaration.
* `Insertion.parse_text`: the query that the text writes.
-/
namespace HistoricalFigures.Query

/-- Declarations and, behind the words of an insertion, a block between braces. -/
structure Insertion where
  lead : Blanks
  prologue : List Declaration
  phrase : List Char
  space : Blanks
  block : List Char
  trail : Blanks
  isPhrase : Unicode.IsInAnyCase "insert data".toList phrase

namespace Insertion

variable (insertion : Insertion)

/-- The block between its braces. -/
def braced : List Char := '\x7b' :: (insertion.block ++ ['\x7d'])

/-- An insertion as it is written, without the blanks around it. -/
def core : List Char :=
  insertion.prologue.flatMap Declaration.text ++
    (insertion.phrase ++ (insertion.space.val ++ insertion.braced))

/-- An insertion as it is written. -/
def text : List Char := insertion.lead.val ++ (insertion.core ++ insertion.trail.val)

end Insertion

/-! ### Blanks around a text -/

/-- **The blanks around a text are cut off** that neither begins nor ends with one. -/
theorem trim_append (lead trail : Blanks) {c d : Char} {behind before text : List Char}
    (first : text = c :: behind) (last : text = before ++ [d])
    (notFirst : Unicode.isBlank c = false) (notLast : Unicode.isBlank d = false) :
    Unicode.trim (lead.val ++ (text ++ trail.val)) = text := by
  have start : Unicode.trimStart (lead.val ++ (text ++ trail.val)) = text ++ trail.val := by
    rw [trimStart_append, first]
    exact trimStart_cons notFirst _
  have blank : ∀ e ∈ trail.val.reverse, Unicode.isBlank e = true := fun e member =>
    trail.property e (List.mem_reverse.mp member)
  have reversed : text.reverse = d :: before.reverse := by
    rw [last, List.reverse_append, List.reverse_singleton, List.singleton_append]
  rw [Unicode.trim, start, Unicode.trimEnd, Unicode.dropEndWhile, List.reverse_append,
    List.dropWhile_append_of_pos blank, reversed,
    List.dropWhile_cons_of_neg (by rw [notLast]; exact Bool.false_ne_true), ← reversed,
    List.reverse_reverse]

/-! ### The words before the block -/

theorem looksAhead_blockOf (first second : String) : Text.LooksAhead (blockOf first second) :=
  fun _ _ => rfl

/-- What stands before a text without the blanks at its start. -/
theorem exists_of_trimStart (text : List Char) :
    ∃ blanks : Blanks, text = blanks.val ++ Unicode.trimStart text :=
  ⟨⟨text.takeWhile Unicode.isBlank, List.all_eq_true.mp List.all_takeWhile⟩,
    List.takeWhile_append_dropWhile.symm⟩

/-- What two words and a brace behind them consist of. -/
theorem exists_of_blockOf {first second : String} {text : List Char}
    (found : (blockOf first second none text).isSome = true) :
    ∃ front rest, text = front ++ '\x7b' :: rest ∧
      ∀ c ∈ front, Unicode.isBlank c = true ∨
        ∃ letter ∈ first.toList ++ second.toList, Text.sameLetter letter c = true := by
  obtain ⟨result, found⟩ := Option.isSome_iff_exists.mp found
  obtain ⟨afterFirst, isFirst, follows⟩ := Option.bind_eq_some_iff.mp found
  obtain ⟨beforeSecond, areBlanks, follows⟩ := Option.bind_eq_some_iff.mp follows
  obtain ⟨afterSecond, isSecond, opens⟩ := Option.bind_eq_some_iff.mp follows
  obtain ⟨front, rfl, letters⟩ := Text.exists_of_dropWord? isFirst
  simp only [afterBlanks?, Option.ite_none_right_eq_some, Option.some.injEq] at areBlanks
  obtain ⟨_, rfl⟩ := areBlanks
  obtain ⟨gap, whole⟩ := exists_of_trimStart afterFirst
  obtain ⟨middle, same, letters'⟩ := Text.exists_of_dropWord? isSecond
  obtain ⟨space, whole'⟩ := exists_of_trimStart afterSecond
  split at opens
  · rename_i rest begins
    refine ⟨front ++ (gap.val ++ (middle ++ space.val)), rest, ?_, ?_⟩
    · rw [begins] at whole'
      rw [whole, same, whole']
      simp only [List.append_assoc]
    · intro c member
      simp only [List.mem_append] at member
      rcases member with inside | blank | inside | blank
      · obtain ⟨letter, among, same⟩ := letters c inside
        exact .inr ⟨letter, List.mem_append_left _ among, same⟩
      · exact .inl (gap.property c blank)
      · obtain ⟨letter, among, same⟩ := letters' c inside
        exact .inr ⟨letter, List.mem_append_right _ among, same⟩
      · exact .inl (space.property c blank)
  · cases opens

/-- The words before a block begin with a letter. -/
theorem blockOf_of_isBlank {c : Char} (blank : Unicode.isBlank c = true) (later : List Char) :
    blockOf "insert" "data" none (c :: later) = none := by
  have other : Text.sameLetter 'i' c = false := by
    refine Bool.eq_false_iff.mpr fun same => ?_
    rw [Text.isBlank_of_sameLetter (by decide) same] at blank
    cases blank
  have drops : Text.dropWord? "insert".toList (c :: later) = none := by
    rw [show "insert".toList = 'i' :: "nsert".toList from rfl, Text.dropWord?, other,
      if_neg Bool.false_ne_true]
  simp only [blockOf, drops, Option.bind_eq_bind, Option.bind_none]

/-- A declaration has no brace. -/
theorem Declaration.brace_notMem_core (d : Declaration) : '\x7b' ∉ d.core := by
  have blanks : ∀ blanks : Blanks, '\x7b' ∉ blanks.val := fun blanks member =>
    absurd (blanks.property _ member) (by decide)
  have word : '\x7b' ∉ d.word := fun member =>
    absurd (Unicode.isAlpha_of_isInAnyCase d.isWord (by decide) _ member) (by decide)
  have name : '\x7b' ∉ d.name := by
    rcases d.isName with empty | ⟨letter, body, same, isLetter, dotted⟩
    · rw [empty]
      exact List.not_mem_nil
    · rw [same, List.mem_cons, not_or]
      refine ⟨?_, fun member => ?_⟩
      · rintro rfl
        exact absurd isLetter (by decide)
      · exact (dotted.forall_mem _ member).elim (by decide) (by decide)
  have raw : '\x7b' ∉ d.raw := fun member =>
    (d.isRawIri.forall_mem _ member).elim (by decide) (by decide)
  simp only [Declaration.core, List.mem_append, List.mem_cons, List.not_mem_nil, not_or]
  exact ⟨word, blanks d.gap, name, by decide, blanks d.space, by decide, raw, by decide, not_false⟩

/-- **The words before the block are not found in a declaration**: it ends with a bracket that they
do not have, and has no brace before it. -/
theorem Declaration.misses_core (d : Declaration) (rest : List Char) :
    Text.Misses (blockOf "insert" "data") d.core rest := by
  intro suffix nonempty behind
  have closed : d.core = (d.word ++ (d.gap.val ++ (d.name ++ ':' ::
      (d.space.val ++ '<' :: d.raw)))) ++ ['>'] := by
    simp only [Declaration.core, List.append_assoc, List.cons_append]
  have bracket : '>' ∈ suffix := by
    rw [closed, List.suffix_concat_iff] at behind
    rcases behind with empty | ⟨inner, rfl, _⟩
    · exact absurd empty nonempty
    · exact List.mem_append_right _ List.mem_cons_self
  have noBracket : ∀ c, (Unicode.isBlank c = true ∨ ∃ letter ∈ "insert".toList ++ "data".toList,
      Text.sameLetter letter c = true) → c ≠ '>' := by
    have others := Unicode.forall_mem_of_all
      (by decide : ("insert".toList ++ "data".toList).all fun letter =>
        decide (Text.sameLetter letter '>' = false))
    rintro c (blank | ⟨letter, among, same⟩) rfl
    · exact absurd blank (by decide)
    · rw [others letter among] at same
      cases same
  refine Option.not_isSome_iff_eq_none.mp fun found => ?_
  obtain ⟨front, later, whole, belongs⟩ := exists_of_blockOf found
  rcases List.append_eq_append_iff.mp whole with ⟨more, rfl, _⟩ | ⟨more, rfl, same⟩
  · exact noBracket '>' (belongs '>' (List.mem_append_left _ bracket)) rfl
  · rcases List.mem_append.mp bracket with inside | inside
    · exact noBracket '>' (belongs '>' inside) rfl
    · cases more with
      | nil => cases inside
      | cons c more =>
        obtain ⟨rfl, _⟩ := List.cons.inj same
        exact d.brace_notMem_core (behind.subset (by simp))

theorem misses_blanks (blanks : Blanks) (rest : List Char) :
    Text.Misses (blockOf "insert" "data") blanks.val rest := by
  intro suffix nonempty behind
  obtain ⟨c, later, rfl⟩ := List.exists_cons_of_ne_nil nonempty
  exact blockOf_of_isBlank (blanks.property c (behind.subset List.mem_cons_self)) _

theorem findFirst_prologue (prologue : List Declaration) (rest : List Char) :
    Text.findFirst (blockOf "insert" "data") (prologue.flatMap Declaration.text ++ rest) =
      Text.findFirst (blockOf "insert" "data") rest := by
  induction prologue with
  | nil => rfl
  | cons first later found =>
    rw [List.flatMap_cons, Declaration.text, List.append_assoc, List.append_assoc,
      Text.findFirst_append_of_misses (looksAhead_blockOf _ _) (first.misses_core _),
      Text.findFirst_append_of_misses (looksAhead_blockOf _ _) (misses_blanks first.behind _), found]

/-- What stands up to the last brace of a text that ends with one. -/
theorem upToLastBrace?_append (block : List Char) :
    upToLastBrace? (block ++ ['\x7d']) = some block := by
  have reversed : (block ++ ['\x7d']).reverse.dropWhile (· ≠ '\x7d') = (block ++ ['\x7d']).reverse := by
    rw [List.reverse_append, List.reverse_singleton, List.singleton_append,
      List.dropWhile_cons_of_neg (by decide)]
  simp only [upToLastBrace?, reversed, List.reverse_reverse, List.append_eq_nil_iff,
    List.cons_ne_nil, and_false, if_false, List.dropLast_concat]

namespace Insertion

variable (insertion : Insertion)

/-- The words of an insertion, one after the other. -/
theorem exists_phrase_eq : ∃ first second, insertion.phrase = first ++ ' ' :: second ∧
    Unicode.IsInAnyCase "insert".toList first ∧ Unicode.IsInAnyCase "data".toList second := by
  have whole : "insert data".toList = "insert".toList ++ ' ' :: "data".toList := by decide
  have isPhrase := insertion.isPhrase
  rw [Unicode.IsInAnyCase, whole] at isPhrase
  obtain ⟨first, later, same, isFirst, isLater⟩ := List.map_eq_append_iff.mp isPhrase
  obtain ⟨space, second, rfl, isSpace, isSecond⟩ := List.map_eq_cons_iff.mp isLater
  obtain rfl : space = ' ' := by
    rcases Unicode.eq_or_eq_of_toLower isSpace (by decide) with same | same
    · exact same
    · exact same
  exact ⟨first, second, same, isFirst, isSecond⟩

/-- The words of an insertion are found, with what follows their brace. -/
theorem blockOf_phrase : blockOf "insert" "data" none
    (insertion.phrase ++ (insertion.space.val ++ insertion.braced)) =
      some (Text.endingAt (insertion.phrase ++ (insertion.space.val ++ insertion.braced))
        (insertion.block ++ ['\x7d']) (insertion.block ++ ['\x7d'])) := by
  obtain ⟨first, second, phrase, isFirst, isSecond⟩ := insertion.exists_phrase_eq
  have letters := Unicode.isAlpha_of_isInAnyCase isSecond (by decide)
  obtain ⟨c, later, rfl⟩ := List.exists_cons_of_ne_nil (l := second) (by
    rintro rfl
    cases isSecond)
  have start : Unicode.trimStart (c :: later ++ (insertion.space.val ++ insertion.braced)) =
      c :: later ++ (insertion.space.val ++ insertion.braced) :=
    trimStart_cons (Unicode.isBlank_of_isAlphanum
      (Unicode.isAlphanum_of_isAlpha (letters c List.mem_cons_self))) _
  let blank := Blanks.of [' '] rfl
  have isSome : blank.val ≠ [] := List.cons_ne_nil _ _
  have gap := afterBlanks?_append isSome (c :: later ++ (insertion.space.val ++ insertion.braced))
  rw [start, List.singleton_append] at gap
  have opens : Unicode.trimStart (insertion.space.val ++ insertion.braced) =
      '\x7b' :: (insertion.block ++ ['\x7d']) := by
    rw [trimStart_append]
    exact trimStart_cons (by decide) _
  rw [phrase, List.append_assoc, List.cons_append]
  simp only [blockOf, Text.dropWord?_append isFirst (by decide), Option.bind_eq_bind,
    Option.bind_some, gap, Text.dropWord?_append isSecond (by decide), opens]

theorem insertBlock?_core : insertBlock? insertion.core = some insertion.block := by
  have nonempty : insertion.phrase ++ (insertion.space.val ++ insertion.braced) ≠ [] := by
    simp [braced]
  rw [insertBlock?, core, findFirst_prologue, Text.findFirst_of_found nonempty insertion.blockOf_phrase,
    Option.bind_some, upToLastBrace?_append]

theorem exists_core_eq : ∃ letter rest, insertion.core = letter :: rest ∧ letter.isAlpha = true := by
  rw [core]
  cases insertion.prologue with
  | nil =>
    obtain ⟨first, second, phrase, isFirst, _⟩ := insertion.exists_phrase_eq
    have letters := Unicode.isAlpha_of_isInAnyCase isFirst (by decide)
    cases first with
    | nil => cases isFirst
    | cons letter body => exact ⟨letter, _, by rw [phrase]; rfl, letters letter List.mem_cons_self⟩
  | cons d later =>
    obtain ⟨letter, body, begins, isLetter⟩ := d.exists_core_eq
    exact ⟨letter, _, by rw [List.flatMap_cons, Declaration.text, begins]; rfl, isLetter⟩

theorem trim_text : Unicode.trim insertion.text = insertion.core := by
  obtain ⟨letter, rest, begins, isLetter⟩ := insertion.exists_core_eq
  have ends : insertion.core = (insertion.prologue.flatMap Declaration.text ++ (insertion.phrase ++
      (insertion.space.val ++ '\x7b' :: insertion.block))) ++ ['\x7d'] := by
    simp only [core, braced, List.append_assoc, List.cons_append]
  exact trim_append _ _ begins ends
    (Unicode.isBlank_of_isAlphanum (Unicode.isAlphanum_of_isAlpha isLetter)) (by decide)

theorem classify_text : classify (String.ofList insertion.text) = .ok .insert := by
  have upper := Unicode.uppercase_of_isInAnyCase insertion.isPhrase (by decide)
  have inside : insertion.phrase <:+: insertion.core :=
    ⟨insertion.prologue.flatMap Declaration.text, insertion.space.val ++ insertion.braced, by
      rw [core, List.append_assoc]⟩
  have told := isInfix_uppercase inside
  rw [upper, show "insert data".toList.map Char.toUpper = "INSERT DATA".toList by decide] at told
  unfold classify
  rw [String.toList_ofList, insertion.trim_text]
  dsimp only
  rw [if_pos (Text.contains_of_infix told)]

/-- **The query that the text writes**, whatever the block holds. -/
theorem parse_text : parse (String.ofList insertion.text) =
    .ok ⟨declaredNamespaces insertion.core, .insert (splitTriples (String.ofList insertion.block))⟩ := by
  have trimmed : Unicode.trim (String.ofList insertion.text).toList = insertion.core := by
    rw [String.toList_ofList, insertion.trim_text]
  have reads : parseBody .insert (declaredNamespaces (Unicode.trim
      (String.ofList insertion.text).toList)) (Unicode.trim (String.ofList insertion.text).toList) =
        .ok (.insert (splitTriples (String.ofList insertion.block))) := by
    rw [trimmed, parseBody, insertion.insertBlock?_core]
  have parsed := parse_of_classify insertion.classify_text reads
  rwa [trimmed] at parsed

end Insertion

end HistoricalFigures.Query
