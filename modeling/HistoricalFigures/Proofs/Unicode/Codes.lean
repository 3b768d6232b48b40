import HistoricalFigures.Unicode.CaseRun

/-!
**Sets of codes, and the codes of case runs.**

* `bitsOf`, `testBit_bitsOf`: codes as the bits of one number, among which any code is found at once.
* `CaseRun.codes`, `CaseRun.imageOf`: the codes that a run has images for, and their images.
* `imageIn_eq_self`, `imageIn_eq_or`: the image under runs is that under one of them, or there is none.
-/
namespace HistoricalFigures.Unicode

/-! ### Bits -/

/-- The number whose bits are the given codes. Whether a code is among many others is decided by one
look at its bit. -/
def bitsOf (codes : List Nat) : Nat := codes.foldr (fun code bits => bits ||| 1 <<< code) 0

/-- **The bits are the codes.** -/
theorem testBit_bitsOf {codes : List Nat} {code : Nat} :
    (bitsOf codes).testBit code = true ↔ code ∈ codes := by
  induction codes with
  | nil =>
    rw [show bitsOf [] = 0 from rfl, Nat.zero_testBit]
    exact iff_of_false Bool.false_ne_true List.not_mem_nil
  | cons other later found =>
    have here : (1 <<< other).testBit code = true ↔ code = other := by
      rw [Nat.one_shiftLeft, Nat.testBit_two_pow, decide_eq_true_iff, eq_comm]
    rw [show bitsOf (other :: later) = bitsOf later ||| 1 <<< other from rfl, Nat.testBit_or,
      Bool.or_eq_true, found, here, List.mem_cons, or_comm]

theorem testBit_bitsOf_eq_false {codes : List Nat} {code : Nat} :
    (bitsOf codes).testBit code = false ↔ code ∉ codes := by
  rw [← testBit_bitsOf, Bool.not_eq_true]

/-! ### Case runs -/

/-- The codes of a run. -/
def CaseRun.codes (run : CaseRun) : List Nat :=
  (List.range' run.first (run.last + 1 - run.first)).filter fun code =>
    (code - run.first) % run.step = 0

theorem CaseRun.mem_codes {run : CaseRun} {code : Nat} :
    code ∈ run.codes ↔
      run.first ≤ code ∧ code ≤ run.last ∧ (code - run.first) % run.step = 0 := by
  rw [codes, List.mem_filter, List.mem_range'_1, decide_eq_true_iff]
  omega

/-- The image of a code of a run is as far from the first image as the code is from the first code. -/
def CaseRun.imageOf (run : CaseRun) (code : Nat) : Nat := run.image + (code - run.first)

theorem CaseRun.image?_eq_some_iff {run : CaseRun} {code image : Nat} :
    run.image? code = some image ↔ code ∈ run.codes ∧ image = run.imageOf code := by
  rw [image?, mem_codes, imageOf]
  split
  · rename_i inside
    rw [Option.some.injEq, eq_comm]
    exact (and_iff_right inside).symm
  · rename_i outside
    exact iff_of_false nofun fun both => outside both.1

/-- A code of no run is its own image. -/
theorem imageIn_eq_self {runs : List CaseRun} {code : Nat} (outside : ∀ run ∈ runs, code ∉ run.codes) :
    imageIn runs code = code := by
  induction runs with
  | nil => rfl
  | cons run later found =>
    have here : run.image? code = none := Option.eq_none_iff_forall_ne_some.mpr fun image among =>
      outside run List.mem_cons_self (CaseRun.image?_eq_some_iff.mp among).1
    rw [imageIn, here]
    split
    · rfl
    · exact found fun other member => outside other (List.mem_cons_of_mem run member)

/-- **The image of a code is the code itself or its image under a run.** -/
theorem imageIn_eq_or (runs : List CaseRun) (code : Nat) :
    imageIn runs code = code ∨
      ∃ run ∈ runs, code ∈ run.codes ∧ imageIn runs code = run.imageOf code := by
  induction runs with
  | nil => exact .inl rfl
  | cons run later found =>
    rw [imageIn]
    split
    · exact .inl rfl
    · cases here : run.image? code with
      | some image =>
        exact .inr ⟨run, List.mem_cons_self, CaseRun.image?_eq_some_iff.mp here⟩
      | none =>
        rcases found with same | ⟨other, member, among⟩
        · exact .inl same
        · exact .inr ⟨other, List.mem_cons_of_mem run member, among⟩

end HistoricalFigures.Unicode
