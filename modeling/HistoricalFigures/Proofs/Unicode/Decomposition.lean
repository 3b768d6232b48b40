import Mathlib.Data.List.Chain
import HistoricalFigures.Proofs.Unicode.Blank
import HistoricalFigures.Unicode.Decomposition

/-!
**Canonical decomposition, and the order of marks.**

* `IsSimple`, `isSimple_of_mem_decompose`: the parts of characters fall into no further parts.
* `decompose_of_isSimple`, `decompose_decompose`: of characters without parts only the marks are put
  in order, so that a decomposed text stays as it is.
* `IsOrdered`, `orderMarks_eq_self_iff`: the order of marks, and the texts that are in order already.
* `isOrdered_filter`: marks can be left out of a text that is in order.
* `isOrdered_trim_iff`, `trim_orderMarks_trim`: blanks at the ends of a text have nothing to do with the
  order of its marks.
-/
namespace HistoricalFigures.Unicode

/-! ### Parts -/

/-- The codes of the characters that are listed with their parts. -/
def composites : List Nat := decompositions.map Prod.fst

/-- The codes of the parts that are listed, and of the letters of Hangul syllables. -/
def pieces : List Nat := decompositions.flatMap Prod.snd ++ List.range' 0x1100 0xC3

/-- A code of a Hangul syllable. -/
def IsSyllable (code : Nat) : Prop := 0xAC00 ≤ code ∧ code ≤ 0xD7A3

instance (code : Nat) : Decidable (IsSyllable code) := inferInstanceAs (Decidable (_ ∧ _))

/-- A character that falls into no parts. -/
def IsSimple (c : Char) : Prop := ¬ IsSyllable c.toNat ∧ c.toNat ∉ composites

theorem mem_of_partsIn {table : List (Nat × List Nat)} {code : Nat} {parts : List Nat}
    (found : partsIn table code = some parts) : (code, parts) ∈ table := by
  induction table with
  | nil => cases found
  | cons entry rest later =>
    rw [partsIn] at found
    split at found
    · cases found
    · split at found
      · rename_i here
        cases found
        exact here ▸ List.mem_cons_self
      · exact List.mem_cons_of_mem entry (later found)

/-- A search that stops at the first greater code misses no code of an ascending table. -/
theorem partsIn_eq_none_iff {table : List (Nat × List Nat)} {code : Nat}
    (ascending : (table.map Prod.fst).IsChain (· < ·)) :
    partsIn table code = none ↔ code ∉ table.map Prod.fst := by
  induction table with
  | nil => exact iff_of_true rfl List.not_mem_nil
  | cons entry rest later =>
    have above := List.isChain_iff_pairwise.mp ascending
    rw [List.map_cons, List.pairwise_cons] at above
    rw [partsIn, List.map_cons, List.mem_cons]
    split
    · rename_i below
      refine iff_of_true rfl ?_
      rintro (rfl | member)
      · exact Nat.lt_irrefl _ below
      · exact Nat.lt_asymm below (above.1 code member)
    · split
      · rename_i here
        exact iff_of_false nofun fun outside => outside (.inl here)
      · rename_i other
        rw [later (List.isChain_iff_pairwise.mpr above.2), not_or]
        exact (and_iff_right other).symm

/-- What holds of each two neighbours makes a chain. -/
theorem isChain_of_zip_tail {α : Type} {relation : α → α → Prop} {list : List α}
    (each : ∀ pair ∈ list.zip list.tail, relation pair.1 pair.2) : list.IsChain relation := by
  induction list with
  | nil => exact .nil
  | cons first rest later =>
    cases rest with
    | nil => exact .singleton first
    | cons second more =>
      refine .cons_cons (each (first, second) List.mem_cons_self) (later fun pair member => ?_)
      exact each pair (List.mem_cons_of_mem _ member)

theorem composites_ascending : composites.IsChain (· < ·) :=
  isChain_of_zip_tail (by decide +kernel)

/-- **What is a part falls no further.** -/
theorem pieces_simple : ∀ code ∈ pieces,
    code.isValidChar ∧ ¬ IsSyllable code ∧ (bitsOf composites).testBit code = false := by
  decide +kernel

theorem isSimple_of_mem_pieces {code : Nat} (member : code ∈ pieces) : IsSimple (Char.ofNat code) := by
  obtain ⟨valid, plain, absent⟩ := pieces_simple code member
  rw [IsSimple, toNat_ofNat_of_isValidChar valid]
  exact ⟨plain, testBit_bitsOf_eq_false.mp absent⟩

theorem decomposeChar_of_isSimple {c : Char} (simple : IsSimple c) : decomposeChar c = [c] := by
  have nothing : partsIn decompositions c.toNat = none :=
    (partsIn_eq_none_iff composites_ascending).mpr simple.2
  have plain : ¬ (0xAC00 ≤ c.toNat ∧ c.toNat ≤ 0xD7A3) := simple.1
  rw [decomposeChar, if_neg plain, nothing]

theorem mem_pieces_of_mem_hangulParts {code part : Nat} (syllable : IsSyllable code)
    (member : part ∈ hangulParts code) : part ∈ pieces := by
  refine List.mem_append_right _ (List.mem_range'_1.mpr ?_)
  obtain ⟨least, most⟩ := syllable
  simp only [hangulParts, List.mem_append, List.mem_cons, List.not_mem_nil, or_false] at member
  split at member
  · simp only [List.not_mem_nil, or_false] at member
    omega
  · simp only [List.mem_cons, List.not_mem_nil, or_false] at member
    omega

/-- The parts of a character are listed, or the character is its only part. -/
theorem mem_decomposeChar {c d : Char} (member : d ∈ decomposeChar c) :
    (∃ code ∈ pieces, d = Char.ofNat code) ∨ d = c ∧ IsSimple c := by
  rw [decomposeChar] at member
  split at member
  · rename_i syllable
    obtain ⟨code, among, rfl⟩ := List.mem_map.mp member
    exact .inl ⟨code, mem_pieces_of_mem_hangulParts syllable among, rfl⟩
  · rename_i plain
    split at member
    · rename_i parts found
      obtain ⟨code, among, rfl⟩ := List.mem_map.mp member
      exact .inl ⟨code, List.mem_append_left _
        (List.mem_flatMap.mpr ⟨_, mem_of_partsIn found, among⟩), rfl⟩
    · rename_i nothing
      exact .inr ⟨List.mem_singleton.mp member, plain,
        (partsIn_eq_none_iff composites_ascending).mp nothing⟩

/-- The parts of a character fall into no further parts. -/
theorem isSimple_of_mem_decomposeChar {c d : Char} (member : d ∈ decomposeChar c) : IsSimple d := by
  rcases mem_decomposeChar member with ⟨code, among, rfl⟩ | ⟨rfl, simple⟩
  · exact isSimple_of_mem_pieces among
  · exact simple

/-! ### The order of marks -/

/-- The codes of the characters that are listed with a class. -/
def marks : List Nat :=
  combiningClasses.flatMap fun (first, last, _) => List.range' first (last + 1 - first)

/-- Characters that are not listed begin clusters. -/
theorem combiningClass_of_not_mem_marks {c : Char} (other : c.toNat ∉ marks) : combiningClass c = 0 := by
  have search : ∀ ranges : List (Nat × Nat × Nat),
      (c.toNat ∉ ranges.flatMap fun (first, last, _) => List.range' first (last + 1 - first)) →
        classIn ranges c.toNat = 0 := by
    intro ranges
    induction ranges with
    | nil => exact fun _ => rfl
    | cons range later found =>
      obtain ⟨first, last, value⟩ := range
      intro outside
      rw [List.flatMap_cons, List.mem_append, not_or, List.mem_range'_1] at outside
      rw [classIn]
      split
      · rfl
      · rw [if_neg (by omega)]
        exact found outside.2
  exact search combiningClasses other

/-- A character stays in front of another one, which begins a cluster or has no smaller class. -/
def Precedes (c d : Char) : Prop := combiningClass d = 0 ∨ combiningClass c ≤ combiningClass d

/-- The marks of each cluster are in the order of their classes. -/
def IsOrdered (text : List Char) : Prop := text.IsChain Precedes

theorem isOrdered_cons_iff {c : Char} {text : List Char} :
    IsOrdered (c :: text) ↔ (∀ d ∈ text.head?, Precedes c d) ∧ IsOrdered text := List.isChain_cons

/-- The order of marks is told by their classes. -/
theorem isOrdered_congr {text other : List Char}
    (classes : text.map combiningClass = other.map combiningClass) :
    IsOrdered text ↔ IsOrdered other := by
  have told : ∀ text : List Char, IsOrdered text ↔
      (text.map combiningClass).IsChain fun first second => second = 0 ∨ first ≤ second := by
    intro text
    rw [List.isChain_map]
    rfl
  rw [told text, told other, classes]

/-- What is placed into a text comes first, or else the text begins with a mark as before. -/
theorem head?_placeMark {c d : Char} {text : List Char} (first : d ∈ (placeMark c text).head?) :
    d = c ∨ d ∈ text.head? ∧ 0 < combiningClass d := by
  cases text with
  | nil => exact .inl (Option.some.inj first).symm
  | cons e rest =>
    rw [placeMark] at first
    split at first
    · rename_i behind
      obtain rfl : e = d := Option.some.inj first
      exact .inr ⟨rfl, behind.1⟩
    · exact .inl (Option.some.inj first).symm

/-- **A mark that is placed into a text in order keeps the order.** -/
theorem isOrdered_placeMark (c : Char) {text : List Char} (ordered : IsOrdered text) :
    IsOrdered (placeMark c text) := by
  induction text with
  | nil => exact List.isChain_singleton c
  | cons d rest placed =>
    obtain ⟨first, later⟩ := isOrdered_cons_iff.mp ordered
    rw [placeMark]
    split
    · rename_i behind
      refine isOrdered_cons_iff.mpr ⟨fun e starts => ?_, placed later⟩
      rcases head?_placeMark starts with rfl | ⟨starts, -⟩
      · exact .inr (Nat.le_of_lt behind.2)
      · exact first e starts
    · rename_i before
      refine isOrdered_cons_iff.mpr ⟨fun e starts => ?_, ordered⟩
      obtain rfl : d = e := Option.some.inj starts
      rw [Precedes]
      omega

theorem isOrdered_orderMarks (text : List Char) : IsOrdered (orderMarks text) := by
  induction text with
  | nil => exact List.isChain_nil
  | cons c rest ordered => exact isOrdered_placeMark c ordered

/-- **Just the texts that are in order stay as they are.** -/
theorem orderMarks_eq_self_iff {text : List Char} : orderMarks text = text ↔ IsOrdered text := by
  constructor
  · exact fun same => same ▸ isOrdered_orderMarks text
  · intro ordered
    induction text with
    | nil => rfl
    | cons c rest stays =>
      obtain ⟨first, later⟩ := isOrdered_cons_iff.mp ordered
      change placeMark c (orderMarks rest) = c :: rest
      rw [stays later]
      cases rest with
      | nil => rfl
      | cons d more =>
        have before : Precedes c d := first d rfl
        rw [placeMark, if_neg]
        rw [Precedes] at before
        omega

theorem placeMark_perm (c : Char) (text : List Char) : (placeMark c text).Perm (c :: text) := by
  induction text with
  | nil => rfl
  | cons d rest same =>
    rw [placeMark]
    split
    · exact (same.cons d).trans (List.Perm.swap c d rest)
    · rfl

theorem placeMark_ne_nil (c : Char) (text : List Char) : placeMark c text ≠ [] := by
  intro nothing
  have same := placeMark_perm c text
  rw [nothing] at same
  exact List.cons_ne_nil c text same.symm.eq_nil

/-- The order of marks leaves no character out and adds none. -/
theorem orderMarks_perm (text : List Char) : (orderMarks text).Perm text := by
  induction text with
  | nil => rfl
  | cons c rest same => exact (placeMark_perm c (orderMarks rest)).trans (same.cons c)

/-! ### Decomposed texts -/

theorem mem_decompose {text : List Char} {d : Char} :
    d ∈ decompose text ↔ ∃ c ∈ text, d ∈ decomposeChar c := by
  rw [decompose, (orderMarks_perm _).mem_iff, List.mem_flatMap]

/-- **A decomposed text falls no further.** -/
theorem isSimple_of_mem_decompose {text : List Char} {d : Char} (member : d ∈ decompose text) :
    IsSimple d := by
  obtain ⟨c, -, part⟩ := mem_decompose.mp member
  exact isSimple_of_mem_decomposeChar part

theorem decompose_of_isSimple {text : List Char} (simple : ∀ c ∈ text, IsSimple c) :
    decompose text = orderMarks text := by
  have whole : text.flatMap decomposeChar = text.flatMap fun c => [c] :=
    List.flatMap_congr fun c member => decomposeChar_of_isSimple (simple c member)
  rw [decompose, whole, List.flatMap_singleton']

/-- **A decomposed text stays as it is.** -/
theorem decompose_decompose (text : List Char) : decompose (decompose text) = decompose text :=
  (decompose_of_isSimple fun _ => isSimple_of_mem_decompose).trans
    (orderMarks_eq_self_iff.mpr (isOrdered_orderMarks _))

/-! ### Characters left out -/

/-- What begins a cluster can stand in front of anything in order. -/
theorem isOrdered_cons_iff_of_starter {c : Char} (starter : combiningClass c = 0) {text : List Char} :
    IsOrdered (c :: text) ↔ IsOrdered text := by
  rw [isOrdered_cons_iff]
  refine and_iff_right fun d _ => .inr ?_
  rw [starter]
  exact Nat.zero_le _

theorem isOrdered_of_starters {text : List Char} (starters : ∀ c ∈ text, combiningClass c = 0) :
    IsOrdered text := by
  induction text with
  | nil => exact List.isChain_nil
  | cons c rest ordered =>
    rw [isOrdered_cons_iff_of_starter (starters c List.mem_cons_self)]
    exact ordered fun d member => starters d (List.mem_cons_of_mem c member)

/-- What begins clusters can stand behind anything in order. -/
theorem isOrdered_append_iff_of_starters {text starters : List Char}
    (each : ∀ c ∈ starters, combiningClass c = 0) : IsOrdered (text ++ starters) ↔ IsOrdered text := by
  rw [IsOrdered, List.isChain_append]
  refine and_iff_left ⟨isOrdered_of_starters each, fun c _ d first => .inl ?_⟩
  exact each d (List.mem_of_mem_head? first)

theorem isOrdered_append_of_starters_iff {starters text : List Char}
    (each : ∀ c ∈ starters, combiningClass c = 0) : IsOrdered (starters ++ text) ↔ IsOrdered text := by
  induction starters with
  | nil => rfl
  | cons c rest same =>
    rw [List.cons_append, isOrdered_cons_iff_of_starter (each c List.mem_cons_self)]
    exact same fun d member => each d (List.mem_cons_of_mem c member)

/-- A mark can be left out of a text in order. -/
theorem isOrdered_of_cons_cons {c d : Char} {text : List Char} (ordered : IsOrdered (c :: d :: text))
    (mark : 0 < combiningClass d) : IsOrdered (c :: text) := by
  obtain ⟨first, behind⟩ := isOrdered_cons_iff.mp ordered
  obtain ⟨second, later⟩ := isOrdered_cons_iff.mp behind
  refine isOrdered_cons_iff.mpr ⟨fun e starts => ?_, later⟩
  have before : Precedes c d := first d rfl
  have after : Precedes d e := second e starts
  rw [Precedes] at before after ⊢
  omega

/-- **Marks can be left out of a text in order.** -/
theorem isOrdered_filter {text : List Char} {keeps : Char → Bool} (ordered : IsOrdered text)
    (marks : ∀ c ∈ text, keeps c = false → 0 < combiningClass c) : IsOrdered (text.filter keeps) := by
  -- The induction keeps the character in front, which the next one that stays has to follow.
  have behind : ∀ (text : List Char) (c : Char),
      (∀ d ∈ text, keeps d = false → 0 < combiningClass d) → IsOrdered (c :: text) →
        IsOrdered (c :: text.filter keeps) := by
    intro text
    induction text with
    | nil => exact fun c _ ordered => ordered
    | cons d rest later =>
      intro c marks ordered
      have others : ∀ e ∈ rest, keeps e = false → 0 < combiningClass e :=
        fun e member => marks e (List.mem_cons_of_mem d member)
      cases kept : keeps d with
      | true =>
        rw [List.filter_cons_of_pos kept]
        obtain ⟨first, ordered⟩ := isOrdered_cons_iff.mp ordered
        exact isOrdered_cons_iff.mpr ⟨first, later d others ordered⟩
      | false =>
        rw [List.filter_cons_of_neg (by rw [kept]; exact Bool.false_ne_true)]
        exact later c others
          (isOrdered_of_cons_cons ordered (marks d List.mem_cons_self kept))
  have starter : combiningClass 'a' = 0 := by decide
  have inFront := behind text 'a' marks ((isOrdered_cons_iff_of_starter starter).mpr ordered)
  exact (isOrdered_cons_iff_of_starter starter).mp inFront

/-! ### Blanks at the ends -/

/-- Blanks begin clusters. -/
theorem combiningClass_of_isBlank {c : Char} (blank : isBlank c = true) : combiningClass c = 0 := by
  have each : ∀ code ∈ blankCodes, classIn combiningClasses code = 0 := by decide +kernel
  exact each c.toNat (toNat_mem_blankCodes blank)

theorem isBlank_of_mark {c : Char} (mark : 0 < combiningClass c) : isBlank c = false := by
  refine Bool.eq_false_iff.mpr fun blank => ?_
  rw [combiningClass_of_isBlank blank] at mark
  exact Nat.lt_irrefl 0 mark

/-- **Blanks at the ends of a text do not matter for its order.** -/
theorem isOrdered_trim_iff {text : List Char} : IsOrdered (trim text) ↔ IsOrdered text := by
  obtain ⟨behind, whole, blanks⟩ := exists_trimEnd_append (trimStart text)
  have starters : ∀ c ∈ text.takeWhile isBlank, combiningClass c = 0 := fun c member =>
    combiningClass_of_isBlank (List.all_eq_true.mp List.all_takeWhile c member)
  calc IsOrdered (trim text)
      ↔ IsOrdered (trim text ++ behind) := (isOrdered_append_iff_of_starters fun c member =>
        combiningClass_of_isBlank (blanks c member)).symm
    _ ↔ IsOrdered (trimStart text) := by rw [trim, ← whole]
    _ ↔ IsOrdered (text.takeWhile isBlank ++ trimStart text) :=
        (isOrdered_append_of_starters_iff starters).symm
    _ ↔ IsOrdered text := by rw [trimStart, List.takeWhile_append_dropWhile]

/-- A text is cut off nowhere if no blank stands at its ends. -/
theorem trim_of_ends {text : List Char} (first : ∀ c ∈ text.head?, isBlank c = false)
    (last : ∀ c ∈ text.getLast?, isBlank c = false) : trim text = text := by
  cases text with
  | nil => rfl
  | cons c rest =>
    have ends : (c :: rest).getLast? = some ((c :: rest).getLast (List.cons_ne_nil c rest)) :=
      List.getLast?_eq_getLast_of_ne_nil _
    have stays : ¬ isBlank c = true := by
      rw [first c rfl]
      exact Bool.false_ne_true
    rw [(trim_of_getLast? ends (last _ ends)).1, trimStart, List.dropWhile_cons_of_neg stays]

theorem isBlank_of_mem_head?_trim {text : List Char} {c : Char} (first : c ∈ (trim text).head?) :
    isBlank c = false := by
  obtain ⟨rest, start⟩ := List.head?_eq_some_iff.mp first
  obtain ⟨more, whole⟩ := isPrefix_dropEndWhile isBlank (trimStart text)
  change trim text ++ more = trimStart text at whole
  rw [start, List.cons_append] at whole
  exact isBlank_of_trimStart whole.symm

theorem isBlank_of_mem_getLast?_trim {text : List Char} {c : Char} (last : c ∈ (trim text).getLast?) :
    isBlank c = false := by
  have nonempty : trim text ≠ [] := by
    intro nothing
    rw [nothing] at last
    cases last
  obtain ⟨front, mark, whole, other⟩ := exists_of_trimEnd_ne_nil nonempty
  change trim text = front ++ [mark] at whole
  rw [whole, List.getLast?_concat] at last
  exact Option.some.inj last ▸ other

theorem head?_orderMarks {text : List Char} {d : Char} (first : d ∈ (orderMarks text).head?) :
    d ∈ text.head? ∨ 0 < combiningClass d := by
  cases text with
  | nil => cases first
  | cons c rest =>
    rcases head?_placeMark first with rfl | ⟨-, mark⟩
    · exact .inl rfl
    · exact .inr mark

/-- The end of a text stays its end, or else a mark gets there. -/
theorem getLast?_placeMark {c d : Char} {text : List Char} (nonempty : text ≠ [])
    (last : d ∈ (placeMark c text).getLast?) : d ∈ text.getLast? ∨ 0 < combiningClass d := by
  induction text with
  | nil => exact absurd rfl nonempty
  | cons e rest later =>
    rw [placeMark] at last
    split at last
    · rename_i behind
      cases rest with
      | nil =>
        obtain rfl : c = d := Option.some.inj last
        exact .inr (Nat.lt_trans behind.1 behind.2)
      | cons f more =>
        rw [List.getLast?_cons_of_ne_nil (placeMark_ne_nil c (f :: more))] at last
        exact later (List.cons_ne_nil f more) last
    · exact .inl last

theorem getLast?_orderMarks {text : List Char} {d : Char} (last : d ∈ (orderMarks text).getLast?) :
    d ∈ text.getLast? ∨ 0 < combiningClass d := by
  induction text with
  | nil => cases last
  | cons c rest later =>
    cases rest with
    | nil => exact .inl last
    | cons e more =>
      rcases getLast?_placeMark (placeMark_ne_nil e (orderMarks more)) last with last | mark
      · exact later last
      · exact .inr mark

/-- **The order of marks brings no blank to the ends of a text.** -/
theorem trim_orderMarks_trim (text : List Char) :
    trim (orderMarks (trim text)) = orderMarks (trim text) := by
  apply trim_of_ends
  · intro c first
    rcases head?_orderMarks first with first | mark
    · exact isBlank_of_mem_head?_trim first
    · exact isBlank_of_mark mark
  · intro c last
    rcases getLast?_orderMarks last with last | mark
    · exact isBlank_of_mem_getLast?_trim last
    · exact isBlank_of_mark mark

end HistoricalFigures.Unicode
