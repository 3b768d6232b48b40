import Mathlib.Data.List.Forall2
import HistoricalFigures.Proofs.Unicode.Decomposition
import HistoricalFigures.Unicode.Lowercase

/-!
**Lower case of decomposed texts.**

* `IsSmall`, `lowercase_of_isSmall`: the characters that are their own lower case.
* `IsLowered`, `forall₂_lowercase`: character by character, what the lower case of a decomposed text
  consists of.
* `isOrdered_lowercase_iff`: marks are in order in lower case where they were before.
-/
namespace HistoricalFigures.Unicode

/-- The codes that have another one as their lower case. -/
def capitals : List Nat := lowercaseRuns.flatMap CaseRun.codes

/-- A character is its own lower case. -/
def IsSmall (c : Char) : Prop := lowercaseChar c = [c]

instance (c : Char) : Decidable (IsSmall c) := inferInstanceAs (Decidable (_ = _))

/-- The lower case of a character that falls into no parts: a character of the same class that does
not either and is its own lower case. No other character becomes a diacritic. -/
structure IsLowered (c d : Char) : Prop where
  simple : IsSimple d
  small : IsSmall d
  sameClass : combiningClass d = combiningClass c
  noMark : d ≠ c → ¬ (0x300 ≤ d.toNat ∧ d.toNat ≤ 0x36F)

/-- **What the images of capitals are.** Neither is a mark, and only a capital with parts has an image
with parts. -/
theorem images_small : ∀ run ∈ lowercaseRuns, ∀ code ∈ run.codes,
    (run.imageOf code).isValidChar ∧ ¬ IsSyllable (run.imageOf code) ∧
      ¬ (0x300 ≤ run.imageOf code ∧ run.imageOf code ≤ 0x36F) ∧
      (bitsOf capitals).testBit (run.imageOf code) = false ∧
      (bitsOf marks).testBit (run.imageOf code) = false ∧ (bitsOf marks).testBit code = false ∧
      ((bitsOf composites).testBit (run.imageOf code) = true →
        (bitsOf composites).testBit code = true) := by
  decide +kernel

/-- A character that no run has an image for is its own lower case. -/
theorem isSmall_of_not_mem_capitals {c : Char} (dotless : c ≠ '\u0130') (other : c.toNat ∉ capitals) :
    IsSmall c := by
  have same : imageIn lowercaseRuns c.toNat = c.toNat := imageIn_eq_self fun run member among =>
    other (List.mem_flatMap.mpr ⟨run, member, among⟩)
  rw [IsSmall, lowercaseChar, if_neg dotless, same, Char.ofNat_toNat]

/-- The dotted capital I falls into parts. -/
theorem ne_of_isSimple {c : Char} (simple : IsSimple c) : c ≠ '\u0130' := by
  have listed : (bitsOf composites).testBit 0x130 = true := by decide +kernel
  rintro rfl
  exact simple.2 (testBit_bitsOf.mp listed)

/-- **The lower case of a character without parts** is a single one. -/
theorem exists_isLowered {c : Char} (simple : IsSimple c) :
    ∃ d, lowercaseChar c = [d] ∧ IsLowered c d := by
  have single : lowercaseChar c = [Char.ofNat (imageIn lowercaseRuns c.toNat)] :=
    if_neg (ne_of_isSimple simple)
  rcases imageIn_eq_or lowercaseRuns c.toNat with same | ⟨run, member, among, image⟩
  · rw [same, Char.ofNat_toNat] at single
    exact ⟨c, single, simple, single, rfl, absurd rfl⟩
  · obtain ⟨valid, plain, other, small, unmarked, bare, parts⟩ := images_small run member _ among
    have code : (Char.ofNat (run.imageOf c.toNat)).toNat = run.imageOf c.toNat :=
      toNat_ofNat_of_isValidChar valid
    -- A capital whose image has parts has parts itself, and so it is not here.
    have simple' : IsSimple (Char.ofNat (run.imageOf c.toNat)) := by
      rw [IsSimple, code, ← testBit_bitsOf]
      exact ⟨plain, fun listed => simple.2 (testBit_bitsOf.mp (parts listed))⟩
    rw [image] at single
    refine ⟨_, single, simple', ?_, ?_, fun _ => ?_⟩
    · apply isSmall_of_not_mem_capitals (ne_of_isSimple simple')
      rw [code]
      exact testBit_bitsOf_eq_false.mp small
    · rw [combiningClass_of_not_mem_marks (testBit_bitsOf_eq_false.mp bare)]
      apply combiningClass_of_not_mem_marks
      rw [code]
      exact testBit_bitsOf_eq_false.mp unmarked
    · rw [code]
      exact other

/-- A capital sigma becomes a small one, whether it ends a word or not. -/
theorem isLowered_sigma (final : Bool) :
    IsLowered '\u03A3' (if final then '\u03C2' else '\u03C3') := by
  have absent : ∀ code ∈ [0x3C2, 0x3C3], (bitsOf composites).testBit code = false := by
    decide +kernel
  cases final with
  | false =>
    exact ⟨⟨by decide, testBit_bitsOf_eq_false.mp (absent 0x3C3 (by decide))⟩, by decide +kernel,
      by decide +kernel, fun _ => by decide⟩
  | true =>
    exact ⟨⟨by decide, testBit_bitsOf_eq_false.mp (absent 0x3C2 (by decide))⟩, by decide +kernel,
      by decide +kernel, fun _ => by decide⟩

/-! ### Texts -/

/-- **The lower case of a decomposed text**, character by character. -/
theorem forall₂_lowercaseAfter (afterCased : Bool) {text : List Char} (simple : ∀ c ∈ text, IsSimple c) :
    List.Forall₂ IsLowered text (lowercaseAfter afterCased text) := by
  induction text generalizing afterCased with
  | nil => exact .nil
  | cons c rest later =>
    have behind := fun afterCased => later afterCased fun d member =>
      simple d (List.mem_cons_of_mem c member)
    rw [lowercaseAfter]
    split
    · rename_i sigma
      rw [sigma]
      exact .cons (isLowered_sigma _) (behind _)
    · obtain ⟨d, single, lowered⟩ := exists_isLowered (simple c List.mem_cons_self)
      rw [single]
      exact .cons lowered (behind _)

theorem forall₂_lowercase {text : List Char} (simple : ∀ c ∈ text, IsSimple c) :
    List.Forall₂ IsLowered text (lowercase text) := forall₂_lowercaseAfter false simple

/-- What stands in the lower case of a text is the lower case of a character of the text. -/
theorem exists_isLowered_of_mem_lowercase {text : List Char} (simple : ∀ c ∈ text, IsSimple c)
    {d : Char} (member : d ∈ lowercase text) : ∃ c ∈ text, IsLowered c d := by
  have along := forall₂_lowercase simple
  generalize lowercase text = lowered at along member
  clear simple
  induction along with
  | nil => cases member
  | cons lowered _ later =>
    rcases List.mem_cons.mp member with rfl | behind
    · exact ⟨_, List.mem_cons_self, lowered⟩
    · obtain ⟨c, inside, lowered⟩ := later behind
      exact ⟨c, List.mem_cons_of_mem _ inside, lowered⟩

/-- **Marks are in order in lower case** where they are in the decomposed text. -/
theorem isOrdered_lowercase_iff {text : List Char} (simple : ∀ c ∈ text, IsSimple c) :
    IsOrdered (lowercase text) ↔ IsOrdered text := by
  apply isOrdered_congr
  rw [← List.forall₂_eq_eq_eq, List.forall₂_map_left_iff, List.forall₂_map_right_iff]
  exact (forall₂_lowercase simple).flip.imp fun _ _ lowered => lowered.sameClass

/-- **A text in lower case stays as it is.** -/
theorem lowercase_of_isSmall {text : List Char} (small : ∀ c ∈ text, IsSmall c) :
    lowercase text = text := by
  have along : ∀ (text : List Char) (afterCased : Bool), (∀ c ∈ text, IsSmall c) →
      lowercaseAfter afterCased text = text := by
    intro text
    induction text with
    | nil => exact fun _ _ => rfl
    | cons c rest later =>
      intro afterCased small
      have here : lowercaseChar c = [c] := small c List.mem_cons_self
      have other : c ≠ '\u03A3' := by
        rintro rfl
        exact absurd here (by decide +kernel)
      rw [lowercaseAfter, if_neg other, here,
        later _ fun d member => small d (List.mem_cons_of_mem c member), List.singleton_append]
  exact along text false small

end HistoricalFigures.Unicode
