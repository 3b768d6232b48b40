import Mathlib.Data.List.Basic
import Mathlib.Data.List.TakeWhile

/-!
**The runs of a class of characters in a text**, told by the places where they begin.

* `maximalRuns`: the runs of a text, in order.
* `run_induction`: a text is empty, begins with a character outside the class, or begins with a run.
* `maximalRuns_cons`, `maximalRuns_append`: what such a beginning adds to the runs.
* `maximalRuns_eq_nil_iff`: a text without runs.
* `AreApart`, `maximalRuns_intercalate`: the runs of a text that is put together from them.
-/
namespace HistoricalFigures.Text

variable {p : Char → Bool} {c : Char} {run rest text : List Char}

/-- Whether a run begins at a place: the text goes on with a character of the class there, and what
stands before the place does not end with one. -/
def beginsRun (p : Char → Bool) (text : List Char) (place : Nat) : Bool :=
  (text.drop place).head?.any p && !(text.take place).getLast?.any p

/-- The maximal runs of a class of characters in a text, in order: wherever one begins, all that
follows up to the next character outside the class. -/
def maximalRuns (p : Char → Bool) (text : List Char) : List (List Char) :=
  ((List.range text.length).filter (beginsRun p text)).map fun place =>
    (text.drop place).takeWhile p

/-- A run at the start of a text, which ends where the rest begins. -/
structure IsRun (p : Char → Bool) (run rest : List Char) : Prop where
  nonempty : run ≠ []
  inside : ∀ c ∈ run, p c = true
  ends : ∀ c ∈ rest.head?, p c = false

/-- The longest run at the start of a text. -/
theorem isRun_takeWhile (inside : p c = true) (rest : List Char) :
    IsRun p ((c :: rest).takeWhile p) ((c :: rest).dropWhile p) where
  nonempty := by
    rw [List.takeWhile_cons_of_pos inside]
    exact List.cons_ne_nil _ _
  inside := fun _ => List.mem_takeWhile_imp
  ends := fun d first => by
    have stops := List.head?_dropWhile_not p (c :: rest)
    rw [Option.mem_def.mp first] at stops
    simpa using stops

/-- **Texts by their runs.** A text is empty, begins with a character outside the class, or begins
with a run. -/
theorem run_induction {motive : List Char → Prop} (nil : motive [])
    (other : ∀ c rest, p c = false → motive rest → motive (c :: rest))
    (run : ∀ run rest, IsRun p run rest → motive rest → motive (run ++ rest)) (text : List Char) :
    motive text := by
  -- What stands behind the run of a character is no direct part of the text, so it is carried along.
  suffices both : motive text ∧ motive (text.dropWhile p) from both.1
  induction text with
  | nil => exact ⟨nil, nil⟩
  | cons c rest found =>
    by_cases inside : p c = true
    · have behind : motive ((c :: rest).dropWhile p) := by
        rw [List.dropWhile_cons_of_pos inside]
        exact found.2
      refine ⟨?_, behind⟩
      rw [← List.takeWhile_append_dropWhile (p := p) (l := c :: rest)]
      exact run _ _ (isRun_takeWhile inside rest) behind
    · have whole := other c rest (Bool.eq_false_iff.mpr inside) found.1
      rw [List.dropWhile_cons_of_neg inside]
      exact ⟨whole, whole⟩

/-! ### Where runs begin -/

namespace IsRun

variable (isRun : IsRun p run rest)
include isRun

theorem head?_any : rest.head?.any p = false := by
  cases first : rest.head? with
  | none => rfl
  | some d => exact isRun.ends d first

theorem takeWhile_append : (run ++ rest).takeWhile p = run := by
  rw [List.takeWhile_append_of_pos isRun.inside]
  cases rest with
  | nil => exact List.append_nil run
  | cons d later =>
    have stops : ¬ p d = true := Bool.eq_false_iff.mp (isRun.ends d rfl)
    rw [List.takeWhile_cons_of_neg stops, List.append_nil]

/-- A run begins at its first character. -/
theorem beginsRun_zero : beginsRun p (run ++ rest) 0 = true := by
  obtain ⟨c, body, rfl⟩ := List.exists_cons_of_ne_nil isRun.nonempty
  have first : p c = true := isRun.inside c List.mem_cons_self
  rw [beginsRun, List.drop_zero, List.take_zero, List.cons_append, List.head?_cons, Option.any_some, first]
  rfl

/-- No run begins inside another one. -/
theorem beginsRun_inside {place : Nat} (within : place + 1 ≤ run.length) :
    beginsRun p (run ++ rest) (place + 1) = false := by
  have before : ((run ++ rest).take (place + 1)).getLast?.any p = true := by
    rw [List.take_append_of_le_length within]
    cases last : (run.take (place + 1)).getLast? with
    | none =>
      have := congrArg List.length (List.getLast?_eq_none_iff.mp last)
      rw [List.length_take, List.length_nil] at this
      omega
    | some d => exact isRun.inside d (List.mem_of_mem_take (List.mem_of_getLast? last))
  rw [beginsRun, before, Bool.not_true, Bool.and_false]

/-- Behind a run the others begin where they do in the rest. -/
theorem beginsRun_append (place : Nat) :
    beginsRun p (run ++ rest) (run.length + place) = beginsRun p rest place := by
  rw [beginsRun, beginsRun, List.drop_length_add_append, List.take_length_add_append, List.getLast?_append]
  cases last : (rest.take place).getLast? with
  | some d => rfl
  | none =>
    -- There is nothing between the run and the place, unless the place lies behind the text.
    have none_ : (rest.drop place).head?.any p = false := by
      rcases List.take_eq_nil_iff.mp (List.getLast?_eq_none_iff.mp last) with start | nothing
      · rw [start, List.drop_zero]
        exact isRun.head?_any
      · rw [nothing, List.drop_nil]
        rfl
    rw [none_, Bool.false_and, Bool.false_and]

end IsRun

/-- Behind a character outside the class runs begin where they do in the rest. -/
theorem beginsRun_cons (other : p c = false) (rest : List Char) (place : Nat) :
    beginsRun p (c :: rest) (place + 1) = beginsRun p rest place := by
  rw [beginsRun, beginsRun, List.drop_succ_cons, List.take_succ_cons, List.getLast?_cons]
  cases (rest.take place).getLast? with
  | none => rw [Option.getD_none, Option.any_some, other, Option.any_none]
  | some d => rw [Option.getD_some]

/-! ### The runs of a text -/

theorem maximalRuns_nil (p : Char → Bool) : maximalRuns p [] = [] := rfl

/-- **A character outside the class** adds no run. -/
theorem maximalRuns_cons (other : p c = false) (rest : List Char) :
    maximalRuns p (c :: rest) = maximalRuns p rest := by
  have here : beginsRun p (c :: rest) 0 = false := by
    rw [beginsRun, List.drop_zero, List.head?_cons, Option.any_some, other, Bool.false_and]
  have behind : beginsRun p (c :: rest) ∘ Nat.succ = beginsRun p rest :=
    funext (beginsRun_cons other rest)
  rw [maximalRuns, List.length_cons, List.range_succ_eq_map,
    List.filter_cons_of_neg (Bool.eq_false_iff.mp here), List.filter_map, behind, List.map_map]
  rfl

/-- **A run at the start** comes before the runs of the rest. -/
theorem maximalRuns_append (isRun : IsRun p run rest) :
    maximalRuns p (run ++ rest) = run :: maximalRuns p rest := by
  have behind : beginsRun p (run ++ rest) ∘ (run.length + ·) = beginsRun p rest :=
    funext isRun.beginsRun_append
  have later : ((fun place => ((run ++ rest).drop place).takeWhile p) ∘ (run.length + ·)) =
      fun place => (rest.drop place).takeWhile p :=
    funext fun place => congrArg _ (List.drop_length_add_append place)
  have first : (List.range run.length).filter (beginsRun p (run ++ rest)) = [0] := by
    obtain ⟨size, length⟩ := Nat.exists_eq_succ_of_ne_zero (mt List.length_eq_zero_iff.mp isRun.nonempty)
    rw [length, Nat.succ_eq_add_one, List.range_succ_eq_map, List.filter_cons_of_pos isRun.beginsRun_zero,
      List.filter_eq_nil_iff.mpr]
    intro place member
    obtain ⟨before, within, rfl⟩ := List.mem_map.mp member
    rw [Nat.succ_eq_add_one, isRun.beginsRun_inside (by have := List.mem_range.mp within; omega)]
    exact Bool.false_ne_true
  rw [maximalRuns, List.length_append, List.range_add, List.filter_append, first, List.filter_map, behind,
    List.map_append, List.map_map, later, List.map_singleton, List.drop_zero, isRun.takeWhile_append]
  rfl

/-- Texts that can be the runs of a text. -/
def AreRuns (p : Char → Bool) (runs : List (List Char)) : Prop :=
  ∀ run ∈ runs, run ≠ [] ∧ ∀ c ∈ run, p c = true

theorem areRuns_maximalRuns (p : Char → Bool) (text : List Char) : AreRuns p (maximalRuns p text) := by
  induction text using run_induction (p := p) with
  | nil => exact fun _ absent => absurd absent List.not_mem_nil
  | other c rest other found =>
    rw [maximalRuns_cons other]
    exact found
  | run run rest isRun found =>
    rw [maximalRuns_append isRun]
    exact List.forall_mem_cons.mpr ⟨⟨isRun.nonempty, isRun.inside⟩, found⟩

/-- **A text without runs** has no character of the class. -/
theorem maximalRuns_eq_nil_iff : maximalRuns p text = [] ↔ ∀ c ∈ text, p c = false := by
  induction text using run_induction (p := p) with
  | nil => exact iff_of_true rfl fun _ absent => absurd absent List.not_mem_nil
  | other c rest other found =>
    rw [maximalRuns_cons other, found, List.forall_mem_cons]
    exact (and_iff_right other).symm
  | run run rest isRun found =>
    obtain ⟨c, body, rfl⟩ := List.exists_cons_of_ne_nil isRun.nonempty
    rw [maximalRuns_append isRun]
    refine iff_of_false (List.cons_ne_nil _ _) fun none_ => ?_
    have inside : p c = true := isRun.inside c List.mem_cons_self
    exact Bool.false_ne_true ((none_ c List.mem_cons_self).symm.trans inside)

/-! ### Texts put together from runs -/

/-- Texts with a gap between them: the first one, and every other one behind a gap. -/
theorem intercalate_cons (gap text : List Char) (more : List (List Char)) :
    gap.intercalate (text :: more) = text ++ more.flatMap (gap ++ ·) := by
  induction more generalizing text with
  | nil => rw [List.intercalate_singleton, List.flatMap_nil, List.append_nil]
  | cons next later found =>
    rw [List.intercalate_cons_cons, found, List.flatMap_cons]
    simp only [List.append_assoc]

section Intercalate

variable {runs : List (List Char)} {mark : Char} (areRuns : AreRuns p runs)
include areRuns

theorem mem_intercalate (member : c ∈ [mark].intercalate runs) : p c = true ∨ c = mark := by
  cases runs with
  | nil => exact absurd member List.not_mem_nil
  | cons run later =>
    obtain ⟨⟨_, inside⟩, others⟩ := List.forall_mem_cons.mp areRuns
    rw [intercalate_cons] at member
    rcases List.mem_append.mp member with first | behind
    · exact .inl (inside c first)
    · obtain ⟨next, among, member⟩ := List.mem_flatMap.mp behind
      rcases List.mem_cons.mp member with same | within
      · exact .inr same
      · exact .inl ((others next among).2 c within)

/-- Runs with a character between them end with a character of the class. -/
theorem getLast?_intercalate (last : c ∈ ([mark].intercalate runs).getLast?) : p c = true := by
  induction runs with
  | nil => exact nomatch last
  | cons run later found =>
    obtain ⟨⟨_, inside⟩, others⟩ := List.forall_mem_cons.mp areRuns
    cases later with
    | nil =>
      rw [List.intercalate_singleton] at last
      exact inside c (List.mem_of_getLast? last)
    | cons next more =>
      have nonempty : [mark].intercalate (next :: more) ≠ [] := by
        rw [intercalate_cons]
        exact List.append_ne_nil_of_left_ne_nil (others next List.mem_cons_self).1 _
      rw [List.intercalate_cons_cons, List.getLast?_append_of_ne_nil _ nonempty] at last
      exact found others last

/-- **The runs of runs with a character between them** are those runs. -/
theorem maximalRuns_intercalate (other : p mark = false) :
    maximalRuns p ([mark].intercalate runs) = runs := by
  induction runs with
  | nil => exact maximalRuns_nil p
  | cons run later found =>
    obtain ⟨⟨nonempty, inside⟩, others⟩ := List.forall_mem_cons.mp areRuns
    cases later with
    | nil =>
      have alone : IsRun p run [] := ⟨nonempty, inside, fun _ first => nomatch first⟩
      have whole := maximalRuns_append alone
      rw [List.append_nil, maximalRuns_nil] at whole
      rwa [List.intercalate_singleton]
    | cons next more =>
      have isRun : IsRun p run (mark :: [mark].intercalate (next :: more)) :=
        ⟨nonempty, inside, fun d first => (Option.some.inj first) ▸ other⟩
      rw [List.intercalate_cons_cons, List.append_assoc, List.singleton_append, maximalRuns_append isRun,
        maximalRuns_cons other, found others]

end Intercalate

end HistoricalFigures.Text
