import HistoricalFigures.Proofs.Query.Deletion
import HistoricalFigures.Proofs.Query.Selection

/-!
**The kind that a text is told to be, and the blocks that it has outside its literals.** A deletion
and a selection are told by words that their blocks begin with. An insertion is told by two words with
one space between them, while its block may have other blanks there, and all words count within
literals too.

* `emptied`: a text whose literals are emptied.
* `isInfix_of_emptied`: what has no quotes stands in the text itself.
* `classify_eq_insert_iff`, `classify_eq_delete_iff`, `classify_eq_select_iff`: the words that tell
  the kind of a text.
* `HasInsertion`, `HasDeletion`, `HasSelection`: the blocks of a text outside its literals.
* `ClassifiesBlocks`: a text is told to be what its blocks make of it.
* `classifiesBlocks_iff`: which texts are.
-/
namespace HistoricalFigures

namespace Query

open Unicode (isBlank trim uppercase uppercaseChar)

/-! ### Texts with empty literals -/

/-- The quotes of literals. -/
def isQuote (c : Char) : Bool := c = '\x22' || c = '\x27'

/-- A resource between angle brackets, which stays, and a literal, of which its quotes are left. -/
def literalEmptied : Text.Finder (List Char) := fun _ text =>
  match text with
  | [] => none
  | c :: rest =>
    if c = '<' then
      (Turtle.iriExtent? 0 rest).map fun extent => (c :: rest.take extent, extent)
    else if isQuote c then
      (Turtle.stringExtent? c rest).map fun (_, extent) => ([c, c], extent)
    else none

/-- A text whose literals are emptied. -/
def emptied (text : List Char) : List Char := Text.replaceAll literalEmptied text

theorem looksAhead_literalEmptied : Text.LooksAhead literalEmptied := fun _ _ => rfl

/-- At a place there is nothing to be emptied, or a resource, or a literal. -/
theorem literalEmptied_cases (c : Char) (rest : List Char) :
    literalEmptied none (c :: rest) = none ∨ ∃ extent,
      literalEmptied none (c :: rest) = some (c :: rest.take extent, extent) ∨
        isQuote c = true ∧ literalEmptied none (c :: rest) = some ([c, c], extent) := by
  unfold literalEmptied
  dsimp only
  split
  · cases Turtle.iriExtent? 0 rest with
    | none => exact .inl rfl
    | some extent => exact .inr ⟨extent, .inl rfl⟩
  · split
    · rename_i quote
      cases Turtle.stringExtent? c rest with
      | none => exact .inl rfl
      | some found => exact .inr ⟨found.2, .inr ⟨quote, rfl⟩⟩
    · exact .inl rfl

/-- **From one literal to the next**: a property of a text and of the text with empty literals is
that of its three cases. -/
theorem emptied_induction {motive : List Char → List Char → Prop} (nil : motive [] [])
    (char : ∀ c rest, motive rest (emptied rest) → motive (c :: rest) (c :: emptied rest))
    (resource : ∀ part later, motive later (emptied later) →
      motive (part ++ later) (part ++ emptied later))
    (literal : ∀ quote part later, isQuote quote = true → motive later (emptied later) →
      motive (quote :: (part ++ later)) (quote :: quote :: emptied later))
    (text : List Char) : motive text (emptied text) := by
  induction length : text.length using Nat.strong_induction_on generalizing text with
  | _ count found =>
    subst length
    cases text with
    | nil => exact nil
    | cons c rest =>
      have shorter : ∀ extent, (rest.drop extent).length < (c :: rest).length := fun extent =>
        Nat.lt_succ_of_le (List.length_drop ▸ Nat.sub_le _ _)
      have whole : ∀ extent, rest.take extent ++ rest.drop extent = rest :=
        fun extent => List.take_append_drop extent rest
      rcases literalEmptied_cases c rest with nothing | ⟨extent, stays | ⟨quote, empties⟩⟩
      · rw [emptied, Text.replaceAll_cons_of_none looksAhead_literalEmptied nothing]
        exact char c rest (found _ (Nat.lt_succ_self _) rest rfl)
      · rw [emptied, Text.replaceAll_cons_of_some looksAhead_literalEmptied stays]
        have behind := resource (c :: rest.take extent) _ (found _ (shorter extent) _ rfl)
        rwa [List.cons_append, whole] at behind
      · rw [emptied, Text.replaceAll_cons_of_some looksAhead_literalEmptied empties]
        have behind := literal c (rest.take extent) _ quote (found _ (shorter extent) _ rfl)
        rwa [whole] at behind

/-- What has no quotes does not begin with one. -/
theorem eq_nil_of_prefix_quote {stretch rest : List Char} {quote : Char}
    (isQuote_ : isQuote quote = true) (plain : ∀ c ∈ stretch, isQuote c = false)
    (start : stretch <+: quote :: rest) : stretch = [] := by
  cases stretch with
  | nil => rfl
  | cons c later =>
    obtain ⟨rfl, _⟩ := List.cons_prefix_cons.mp start
    rw [plain c List.mem_cons_self] at isQuote_
    cases isQuote_

/-- What has no quotes and begins a text with empty literals begins the text itself. -/
theorem isPrefix_of_emptied (text : List Char) : ∀ stretch : List Char,
    (∀ c ∈ stretch, isQuote c = false) → stretch <+: emptied text → stretch <+: text := by
  refine emptied_induction (motive := fun text short => ∀ stretch : List Char,
    (∀ c ∈ stretch, isQuote c = false) → stretch <+: short → stretch <+: text) ?_ ?_ ?_ ?_ text
  · exact fun _ _ start => start
  · intro c rest found stretch plain start
    rcases List.prefix_cons_iff.mp start with rfl | ⟨later, rfl, behind⟩
    · exact List.nil_prefix
    · exact List.cons_prefix_cons.mpr ⟨rfl, found later (List.forall_mem_cons.mp plain).2 behind⟩
  · intro part later found stretch plain start
    rcases List.prefix_or_prefix_of_prefix start (List.prefix_append part _) with
      inside | ⟨rest, rfl⟩
    · exact inside.trans (List.prefix_append part later)
    · have behind := (List.prefix_append_right_inj part).mp start
      exact (List.prefix_append_right_inj part).mpr
        (found rest (fun c member => plain c (List.mem_append_right part member)) behind)
  · intro quote part later isQuote_ found stretch plain start
    rw [eq_nil_of_prefix_quote isQuote_ plain start]
    exact List.nil_prefix

/-- **What has no quotes and stands in a text with empty literals stands in the text itself.** -/
theorem isInfix_of_emptied (text : List Char) : ∀ stretch : List Char,
    (∀ c ∈ stretch, isQuote c = false) → stretch <:+: emptied text → stretch <:+: text := by
  refine emptied_induction (motive := fun text short => ∀ stretch : List Char,
    (∀ c ∈ stretch, isQuote c = false) → stretch <:+: short → stretch <:+: text) ?_ ?_ ?_ ?_ text
  · exact fun _ _ inside => inside
  · intro c rest found stretch plain inside
    rcases List.infix_cons_iff.mp inside with start | behind
    · rcases List.prefix_cons_iff.mp start with rfl | ⟨later, rfl, first⟩
      · exact List.nil_infix
      · have follows := isPrefix_of_emptied rest later (List.forall_mem_cons.mp plain).2 first
        exact (List.cons_prefix_cons.mpr ⟨rfl, follows⟩).isInfix
    · exact (found stretch plain behind).trans (List.suffix_cons c rest).isInfix
  · intro part later found stretch plain inside
    rcases List.infix_append_iff.mp inside with before | behind | ⟨front, back, rfl, isEnd, start⟩
    · exact before.trans List.infix_append_left
    · exact (found stretch plain behind).trans List.infix_append_right
    · have follows := isPrefix_of_emptied later back
        (fun c member => plain c (List.mem_append_right front member)) start
      exact List.infix_append_iff.mpr (.inr (.inr ⟨front, back, rfl, isEnd, follows⟩))
  · intro quote part later isQuote_ found stretch plain inside
    -- A stretch that begins at one of the two quotes is empty.
    rcases List.infix_cons_iff.mp inside with start | inner
    · rw [eq_nil_of_prefix_quote isQuote_ plain start]
      exact List.nil_infix
    · rcases List.infix_cons_iff.mp inner with start | behind
      · rw [eq_nil_of_prefix_quote isQuote_ plain start]
        exact List.nil_infix
      · exact ((found stretch plain behind).trans List.infix_append_right).trans
          (List.suffix_cons quote _).isInfix

/-! ### Words in upper case -/

/-- A character that is a small letter in any case has its capital as upper case, but for the letters
that others than those of the alphabet pass for. -/
theorem uppercaseChar_of_sameLetter {letter c : Char} (small : letter.isLower = true)
    (notI : letter ≠ 'i') (notK : letter ≠ 'k') (same : Text.sameLetter letter c = true) :
    uppercaseChar c = [letter.toUpper] := by
  have plain : letter.toNat < 128 :=
    Unicode.lt_of_isAlphanum (Unicode.isAlphanum_of_isAlpha (Turtle.isAlpha_of_isLower small))
  have both := Unicode.eq_true_of_ascii (p := fun d => !d.isLower ||
    (uppercaseChar d = [d.toUpper] && uppercaseChar d.toUpper = [d.toUpper])) (by decide +kernel) plain
  simp only [small, Bool.not_true, Bool.false_or, Bool.and_eq_true, decide_eq_true_eq] at both
  simp only [Text.sameLetter, Bool.or_eq_true, Bool.and_eq_true, beq_iff_eq] at same
  rcases same with (((rfl | rfl) | ⟨rfl, _⟩) | ⟨rfl, rfl⟩) | ⟨rfl, _⟩
  · exact both.1
  · exact both.2
  · exact absurd rfl notI
  · decide
  · exact absurd rfl notK

/-- The words that have the same upper case in any case. -/
def isSteady (word : List Char) : Bool :=
  word.all fun letter => letter.isLower && letter ≠ 'i' && letter ≠ 'k'

/-- **A word that is found in any case has its capitals as upper case.** -/
theorem exists_uppercase_of_dropWord? {word text rest : List Char} (steady : isSteady word = true)
    (drops : Text.dropWord? word text = some rest) :
    ∃ front, text = front ++ rest ∧ uppercase front = word.map Char.toUpper := by
  induction word generalizing text with
  | nil =>
    cases drops
    exact ⟨[], rfl, rfl⟩
  | cons letter word found =>
    simp only [isSteady, List.all_cons, Bool.and_eq_true, decide_eq_true_eq] at steady
    cases text with
    | nil => cases drops
    | cons c later =>
      rw [Text.dropWord?] at drops
      split at drops
      · rename_i same
        obtain ⟨front, rfl, upper⟩ := found steady.2 drops
        refine ⟨c :: front, rfl, ?_⟩
        rw [uppercase, List.flatMap_cons,
          uppercaseChar_of_sameLetter steady.1.1.1 steady.1.1.2 steady.1.2 same]
        exact congrArg (letter.toUpper :: ·) upper
      · cases drops

/-- A blank is its own upper case. -/
theorem uppercase_of_blanks {blanks : List Char} (areBlanks : ∀ c ∈ blanks, isBlank c = true) :
    uppercase blanks = blanks := by
  have each : ∀ code ∈ Unicode.blankCodes,
      uppercaseChar (Char.ofNat code) = [Char.ofNat code] := by decide +kernel
  induction blanks with
  | nil => rfl
  | cons c later found =>
    obtain ⟨here, others⟩ := List.forall_mem_cons.mp areBlanks
    have own := each _ (Unicode.toNat_mem_blankCodes here)
    rw [Char.ofNat_toNat] at own
    rw [uppercase, List.flatMap_cons, own]
    exact congrArg (c :: ·) (found others)

/-- A text whose upper case has no quotes has none. -/
theorem isQuote_of_uppercase {text : List Char} (plain : ∀ c ∈ uppercase text, isQuote c = false) :
    ∀ c ∈ text, isQuote c = false := by
  intro c member
  refine Bool.eq_false_iff.mpr fun quote => ?_
  have own : uppercaseChar c = [c] := by
    simp only [isQuote, Bool.or_eq_true, decide_eq_true_eq] at quote
    rcases quote with rfl | rfl <;> decide
  have there : c ∈ uppercase text :=
    List.mem_flatMap.mpr ⟨c, member, own ▸ List.mem_singleton_self c⟩
  rw [plain c there] at quote
  cases quote

/-- **Words that are found outside literals stand in the text**, in upper case. -/
theorem isInfix_uppercase_of_emptied {stretch : List Char} {text : String}
    (plain : ∀ c ∈ uppercase stretch, isQuote c = false)
    (inside : stretch <:+: emptied text.toList) : uppercase stretch <:+: uppercase text.toList :=
  isInfix_uppercase (isInfix_of_emptied _ _ (isQuote_of_uppercase plain) inside)

/-! ### Words that tell a kind -/

/-- A text mentions a deletion, in whatever case. -/
def MentionsDeletion (text : String) : Prop :=
  ∃ blanks, blanks ≠ [] ∧ (∀ c ∈ blanks, isBlank c = true) ∧
    "DELETE".toList ++ (blanks ++ "WHERE".toList) <:+: uppercase text.toList

/-- A text mentions a selection, in whatever case. -/
def MentionsSelection (text : String) : Prop := "SELECT".toList <:+: uppercase text.toList

/-- What does not begin with a blank does not begin among blanks. -/
theorem infix_of_infix_blanks_append {phrase blanks rest : List Char}
    (starts : phrase.head?.any isBlank = false) (nonempty : phrase ≠ [])
    (areBlanks : ∀ c ∈ blanks, isBlank c = true) (inside : phrase <:+: blanks ++ rest) :
    phrase <:+: rest := by
  induction blanks with
  | nil => exact inside
  | cons c later found =>
    obtain ⟨here, others⟩ := List.forall_mem_cons.mp areBlanks
    rcases List.infix_cons_iff.mp inside with start | behind
    · obtain ⟨first, word, rfl⟩ := List.exists_cons_of_ne_nil nonempty
      obtain ⟨rfl, _⟩ := List.cons_prefix_cons.mp start
      rw [List.head?_cons, Option.any_some, here] at starts
      cases starts
    · exact found others behind

/-- What does not end with a blank does not end among blanks. -/
theorem infix_of_infix_append_blanks {phrase blanks front : List Char}
    (ends : phrase.getLast?.any isBlank = false) (nonempty : phrase ≠ [])
    (areBlanks : ∀ c ∈ blanks, isBlank c = true) (inside : phrase <:+: front ++ blanks) :
    phrase <:+: front := by
  rw [← List.reverse_infix] at inside ⊢
  rw [List.reverse_append] at inside
  refine infix_of_infix_blanks_append ?_ (mt List.reverse_eq_nil_iff.mp nonempty) ?_ inside
  · rwa [List.head?_reverse]
  · exact fun c member => areBlanks c (List.mem_reverse.mp member)

/-- **The blanks around a text do not matter for a phrase** that neither begins nor ends with one. -/
theorem isInfix_uppercase_trim_iff {phrase : List Char} (nonempty : phrase ≠ [])
    (starts : phrase.head?.any isBlank = false) (ends : phrase.getLast?.any isBlank = false)
    (text : List Char) : phrase <:+: uppercase (trim text) ↔ phrase <:+: uppercase text := by
  refine ⟨fun inside => inside.trans (isInfix_uppercase (Unicode.isInfix_trim text)), fun inside => ?_⟩
  obtain ⟨lead, front⟩ := exists_of_trimStart text
  obtain ⟨trail, back, areBlanks⟩ := Unicode.exists_trimEnd_append (Unicode.trimStart text)
  have append : ∀ first second, uppercase (first ++ second) = uppercase first ++ uppercase second :=
    fun _ _ => List.flatMap_append
  have whole : uppercase text = lead.val ++ (uppercase (trim text) ++ trail) := by
    have parts : text = lead.val ++ (trim text ++ trail) := by
      rw [trim, ← back]
      exact front
    calc uppercase text
      _ = uppercase (lead.val ++ (trim text ++ trail)) := congrArg uppercase parts
      _ = uppercase lead.val ++ (uppercase (trim text) ++ uppercase trail) := by
        rw [append, append]
      _ = lead.val ++ (uppercase (trim text) ++ trail) := by
        rw [uppercase_of_blanks lead.property, uppercase_of_blanks areBlanks]
  rw [whole] at inside
  exact infix_of_infix_append_blanks ends nonempty areBlanks
    (infix_of_infix_blanks_append starts nonempty lead.property inside)

/-- The words of a deletion are found where they stand with blanks between them. -/
theorem wordPair_append {blanks : List Char} (nonempty : blanks ≠ [])
    (areBlanks : ∀ c ∈ blanks, isBlank c = true) (rest : List Char) :
    (wordPair "DELETE" "WHERE" none
      ("DELETE".toList ++ (blanks ++ ("WHERE".toList ++ rest)))).isSome = true := by
  have first : afterWord? "DELETE".toList ("DELETE".toList ++ (blanks ++ ("WHERE".toList ++ rest))) =
      some (blanks ++ ("WHERE".toList ++ rest)) := rfl
  have between : afterBlanks? (blanks ++ ("WHERE".toList ++ rest)) =
      some ("WHERE".toList ++ rest) :=
    @afterBlanks?_append ⟨blanks, areBlanks⟩ nonempty _
  have second : afterWord? "WHERE".toList ("WHERE".toList ++ rest) = some rest := rfl
  rw [wordPair, first, Option.bind_some, between, Option.bind_some, second]
  rfl

section Told

variable {text : String}

theorem contains_insertion_iff :
    Text.contains "INSERT DATA".toList (uppercase (trim text.toList)) = true ↔
      MentionsInsertion text :=
  (Iff.intro Text.infix_of_contains Text.contains_of_infix).trans
    (isInfix_uppercase_trim_iff (by decide) (by decide) (by decide) _)

theorem contains_selection_iff :
    Text.contains "SELECT".toList (uppercase (trim text.toList)) = true ↔
      MentionsSelection text :=
  (Iff.intro Text.infix_of_contains Text.contains_of_infix).trans
    (isInfix_uppercase_trim_iff (by decide) (by decide) (by decide) _)

theorem findFirst_deletion_iff :
    (Text.findFirst (wordPair "DELETE" "WHERE") (uppercase (trim text.toList))).isSome = true ↔
      MentionsDeletion text := by
  have phrase : ∀ blanks : List Char,
      "DELETE".toList ++ (blanks ++ "WHERE".toList) <:+: uppercase (trim text.toList) ↔
        "DELETE".toList ++ (blanks ++ "WHERE".toList) <:+: uppercase text.toList := by
    intro blanks
    refine isInfix_uppercase_trim_iff ?_ rfl ?_ _
    · exact List.append_ne_nil_of_left_ne_nil (by decide) _
    · rw [← List.append_assoc, List.getLast?_append]
      rfl
  constructor
  · intro found
    obtain ⟨before, rest, behind, here⟩ := Text.exists_of_findFirst found
    obtain ⟨blanks, nonempty, areBlanks, start⟩ := prefix_of_wordPair here
    exact ⟨blanks, nonempty, areBlanks, (phrase blanks).mp (start.isInfix.trans behind.isInfix)⟩
  · rintro ⟨blanks, nonempty, areBlanks, inside⟩
    obtain ⟨front, rest, whole⟩ := (phrase blanks).mpr inside
    have here := wordPair_append nonempty areBlanks rest
    refine Text.isSome_findFirst_of_suffix (fun _ _ => rfl) ?_ ⟨front, ?_⟩ here
    · exact List.append_ne_nil_of_left_ne_nil (by decide) _
    · rw [← whole]
      simp only [List.append_assoc]

/-- **The words that tell the kind of a text**, the first ones first. -/
theorem classify_cases (text : String) :
    MentionsInsertion text ∧ classify text = .ok .insert ∨
      ¬ MentionsInsertion text ∧ (MentionsDeletion text ∧ classify text = .ok .delete ∨
        ¬ MentionsDeletion text ∧ (MentionsSelection text ∧ classify text = .ok .select ∨
          ¬ MentionsSelection text ∧ classify text = .error (.unsupported .kind))) := by
  rw [← contains_insertion_iff, ← findFirst_deletion_iff, ← contains_selection_iff]
  unfold classify
  dsimp only
  split
  · rename_i inserts
    exact .inl ⟨inserts, rfl⟩
  · rename_i noInsertion
    refine .inr ⟨noInsertion, ?_⟩
    split
    · rename_i deletes
      exact .inl ⟨deletes, rfl⟩
    · rename_i noDeletion
      refine .inr ⟨noDeletion, ?_⟩
      split
      · rename_i selects
        exact .inl ⟨selects, rfl⟩
      · rename_i noSelection
        exact .inr ⟨noSelection, rfl⟩

theorem classify_eq_insert_iff : classify text = .ok .insert ↔ MentionsInsertion text := by
  rcases classify_cases text with ⟨inserts, told⟩ | ⟨others, ⟨_, told⟩ | ⟨_, ⟨_, told⟩ | ⟨_, told⟩⟩⟩
  all_goals simp [*]

theorem classify_eq_delete_iff :
    classify text = .ok .delete ↔ ¬ MentionsInsertion text ∧ MentionsDeletion text := by
  rcases classify_cases text with ⟨inserts, told⟩ | ⟨others, ⟨_, told⟩ | ⟨_, ⟨_, told⟩ | ⟨_, told⟩⟩⟩
  all_goals simp [*]

theorem classify_eq_select_iff : classify text = .ok .select ↔
    ¬ MentionsInsertion text ∧ ¬ MentionsDeletion text ∧ MentionsSelection text := by
  rcases classify_cases text with ⟨inserts, told⟩ | ⟨others, ⟨_, told⟩ | ⟨_, ⟨_, told⟩ | ⟨_, told⟩⟩⟩
  all_goals simp [*]

end Told

/-! ### Blocks outside literals -/

/-- A text has the block of an insertion outside its literals. -/
def HasInsertion (text : String) : Prop := (insertBlock? (emptied text.toList)).isSome = true

/-- A text has the block of a deletion outside its literals. -/
def HasDeletion (text : String) : Prop := (deleteBlock? (emptied text.toList)).isSome = true

/-- A text has the words and the brace of a selection outside its literals. -/
def HasSelection (text : String) : Prop := (projection? (emptied text.toList)).isSome = true

instance (text : String) : Decidable (HasInsertion text) := inferInstanceAs (Decidable (_ = _))

instance (text : String) : Decidable (HasDeletion text) := inferInstanceAs (Decidable (_ = _))

instance (text : String) : Decidable (HasSelection text) := inferInstanceAs (Decidable (_ = _))

/-- A text is told to be what its blocks outside its literals make of it: an insertion if it has the
block of one, else a deletion if it has the block of one, else a selection if it has its words. -/
structure ClassifiesBlocks (text : String) : Prop where
  insertion : HasInsertion text → classify text = .ok .insert
  deletion : HasDeletion text → ¬ HasInsertion text → classify text = .ok .delete
  selection : HasSelection text → ¬ HasInsertion text → ¬ HasDeletion text →
    classify text = .ok .select

/-- The two words of a block, in upper case, with the blanks between them. -/
theorem exists_words_of_blockOf {first second : String} (steadyFirst : isSteady first.toList = true)
    (steadySecond : isSteady second.toList = true) {before : Option Char} {text : List Char}
    (found : (blockOf first second before text).isSome = true) :
    ∃ front blanks, front <+: text ∧ blanks ≠ [] ∧ (∀ c ∈ blanks, isBlank c = true) ∧
      uppercase front = first.toList.map Char.toUpper ++
        (blanks ++ second.toList.map Char.toUpper) := by
  obtain ⟨result, found⟩ := Option.isSome_iff_exists.mp found
  obtain ⟨afterFirst, isFirst, follows⟩ := Option.bind_eq_some_iff.mp found
  obtain ⟨beforeSecond, between, follows⟩ := Option.bind_eq_some_iff.mp follows
  obtain ⟨afterSecond, isSecond, _⟩ := Option.bind_eq_some_iff.mp follows
  obtain ⟨front, rfl, upper⟩ := exists_uppercase_of_dropWord? steadyFirst isFirst
  simp only [afterBlanks?, Option.ite_none_right_eq_some, Option.some.injEq] at between
  obtain ⟨blank, rfl⟩ := between
  obtain ⟨later, behind, upper'⟩ := exists_uppercase_of_dropWord? steadySecond isSecond
  have whole : afterFirst = afterFirst.takeWhile isBlank ++ (later ++ afterSecond) := by
    rw [← behind]
    exact List.takeWhile_append_dropWhile.symm
  have areBlanks : ∀ c ∈ afterFirst.takeWhile isBlank, isBlank c = true :=
    List.all_eq_true.mp List.all_takeWhile
  refine ⟨front ++ (afterFirst.takeWhile isBlank ++ later), afterFirst.takeWhile isBlank, ?_, ?_,
    areBlanks, ?_⟩
  · rw [List.prefix_append_right_inj]
    refine ⟨afterSecond, ?_⟩
    rw [List.append_assoc]
    exact whole.symm
  · cases afterFirst with
    | nil => cases blank
    | cons c rest =>
      rw [List.head?_cons, Option.any_some] at blank
      rw [List.takeWhile_cons_of_pos blank]
      exact List.cons_ne_nil c _
  · simp only [uppercase, List.flatMap_append] at upper upper' ⊢
    have own := uppercase_of_blanks areBlanks
    rw [uppercase] at own
    rw [upper, upper', own]

theorem isQuote_of_any {text : List Char} (plain : text.any isQuote = false) :
    ∀ c ∈ text, isQuote c = false :=
  fun c member => Bool.eq_false_iff.mpr (List.any_eq_false.mp plain c member)

/-- No quotes stand in two words with blanks between them. -/
theorem isQuote_of_words {first blanks second : List Char} (plainFirst : first.any isQuote = false)
    (areBlanks : ∀ c ∈ blanks, isBlank c = true) (plainSecond : second.any isQuote = false) :
    ∀ c ∈ first ++ (blanks ++ second), isQuote c = false := by
  intro c member
  simp only [List.mem_append] at member
  rcases member with inside | blank | inside
  · exact isQuote_of_any plainFirst c inside
  · have other := Unicode.ne_of_isBlank (areBlanks c blank)
    simp [isQuote, other '\x22' (by decide), other '\x27' (by decide)]
  · exact isQuote_of_any plainSecond c inside

/-- **The block of a deletion is told to be one** by its words, unless an insertion is mentioned. -/
theorem mentionsDeletion_of_hasDeletion {text : String} (has : HasDeletion text) :
    MentionsDeletion text := by
  obtain ⟨block, found⟩ := Option.isSome_iff_exists.mp has
  obtain ⟨result, here, _⟩ := Option.bind_eq_some_iff.mp found
  obtain ⟨before, rest, behind, here⟩ := Text.exists_of_findFirst (by rw [here]; rfl)
  obtain ⟨front, blanks, start, nonempty, areBlanks, upper⟩ :=
    exists_words_of_blockOf (by decide) (by decide) here
  have plain : ∀ c ∈ uppercase front, isQuote c = false := by
    rw [upper]
    exact isQuote_of_words (by decide) areBlanks (by decide)
  have inside := isInfix_uppercase_of_emptied plain (start.isInfix.trans behind.isInfix)
  rw [upper] at inside
  exact ⟨blanks, nonempty, areBlanks, inside⟩

/-- **The words of a selection are told to be one**, unless a change is mentioned. -/
theorem mentionsSelection_of_hasSelection {text : String} (has : HasSelection text) :
    MentionsSelection text := by
  obtain ⟨projection, found⟩ := Option.isSome_iff_exists.mp has
  obtain ⟨result, here, _⟩ := Option.bind_eq_some_iff.mp found
  obtain ⟨before, rest, extent, behind, here⟩ := Text.exists_of_findFirst_eq_some here
  obtain ⟨afterWord, drops, _⟩ := Option.bind_eq_some_iff.mp here
  obtain ⟨front, rfl, upper⟩ := exists_uppercase_of_dropWord? (by decide) drops
  have plain : ∀ c ∈ uppercase front, isQuote c = false := by
    rw [upper]
    exact isQuote_of_any (by decide)
  have inside := isInfix_uppercase_of_emptied plain
    ((List.prefix_append front afterWord).isInfix.trans behind.isInfix)
  rwa [upper] at inside

/-- **Which texts are told to be what their blocks make of them**: those in which an insertion is
mentioned, with one space between its words, if they have the block of one; in which none is
mentioned, not even in a literal, if they have another block; and in which no deletion is mentioned
if they have the words of a selection alone. -/
theorem classifiesBlocks_iff (text : String) : ClassifiesBlocks text ↔
    (HasInsertion text → MentionsInsertion text) ∧
      (¬ HasInsertion text → HasDeletion text ∨ HasSelection text → ¬ MentionsInsertion text) ∧
        (¬ HasInsertion text → ¬ HasDeletion text → HasSelection text →
          ¬ MentionsDeletion text) := by
  constructor
  · rintro ⟨insertion, deletion, selection⟩
    refine ⟨fun inserts => classify_eq_insert_iff.mp (insertion inserts), ?_, ?_⟩
    · intro noInsertion has
      by_cases deletes : HasDeletion text
      · exact (classify_eq_delete_iff.mp (deletion deletes noInsertion)).1
      · have selects := has.resolve_left deletes
        exact (classify_eq_select_iff.mp (selection selects noInsertion deletes)).1
    · intro noInsertion noDeletion selects
      exact (classify_eq_select_iff.mp (selection selects noInsertion noDeletion)).2.1
  · rintro ⟨insertion, noMention, noDeletionMention⟩
    refine ⟨fun inserts => classify_eq_insert_iff.mpr (insertion inserts), ?_, ?_⟩
    · intro deletes noInsertion
      exact classify_eq_delete_iff.mpr
        ⟨noMention noInsertion (.inl deletes), mentionsDeletion_of_hasDeletion deletes⟩
    · intro selects noInsertion noDeletion
      exact classify_eq_select_iff.mpr ⟨noMention noInsertion (.inr selects),
        noDeletionMention noInsertion noDeletion selects, mentionsSelection_of_hasSelection selects⟩

/-- Two spaces between the words of an insertion, or a dotted capital letter, leave it unsupported,
and a phrase within a literal makes a deletion or a selection another query. -/
theorem not_classifiesBlocks :
    ¬ ClassifiesBlocks "INSERT  DATA \x7b <a> <b> <c> . \x7d" ∧
      ¬ ClassifiesBlocks "\u0130NSERT DATA \x7b <a> <b> <c> . \x7d" ∧
      ¬ ClassifiesBlocks "DELETE WHERE \x7b <a> <b> \x22INSERT DATA\x22 \x7d" ∧
      ¬ ClassifiesBlocks "SELECT ?s WHERE \x7b ?s <p> 'delete where' \x7d" := by
  have told : ∀ {text : String} {kind : Kind}, (classify text).toOption ≠ some kind →
      classify text ≠ .ok kind := fun other same => other (congrArg Except.toOption same)
  refine ⟨fun blocks => ?_, fun blocks => ?_, fun blocks => ?_, fun blocks => ?_⟩
  · exact told (by decide +kernel) (blocks.insertion (by decide +kernel))
  · exact told (by decide +kernel) (blocks.insertion (by decide +kernel))
  · exact told (by decide +kernel) (blocks.deletion (by decide +kernel) (by decide +kernel))
  · exact told (by decide +kernel)
      (blocks.selection (by decide +kernel) (by decide +kernel) (by decide +kernel))

end Query

end HistoricalFigures
