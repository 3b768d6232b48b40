/-!
**Outcomes that succeed.** What is known of the steps of a computation that gives a value.

* `eq_ok_of_map`, `eq_ok_of_bind`, `eq_ok_of_mapError`: the first step of it gives one as well.
* `eq_error_of_map`, `eq_error_of_bind`: where a computation fails, one of its steps does.
* `mapM_cons_of_ok`, `mapM_eq_ok`, `mapM_map_eq_ok`: a list of computations that each give a value.
* `mem_of_mapM_eq_ok`: the values of such a list.
* `mapM_eq_error`, `exists_of_mapM_eq_error`, `mapM_returns_iff`: a list of computations one of which
  fails.
* `eq_ok_of_foldlM`: what each step of a run keeps is kept by the run.
-/
namespace HistoricalFigures

variable {ε ε' α β : Type}

theorem eq_ok_of_map {outcome : Except ε α} {f : α → β} {value : β}
    (succeeds : outcome.map f = .ok value) : ∃ before, outcome = .ok before ∧ f before = value := by
  cases outcome with
  | error cause => cases succeeds
  | ok before => exact ⟨before, rfl, by simpa [Except.map] using succeeds⟩

theorem eq_ok_of_toOption {outcome : Except ε α} {value : α}
    (given : outcome.toOption = some value) : outcome = .ok value := by
  cases outcome with
  | error cause => cases given
  | ok found => exact congrArg Except.ok (Option.some.inj given)

theorem exists_map_eq_ok {outcome : Except ε α} {f : α → β} :
    (∃ value, outcome.map f = .ok value) ↔ ∃ value, outcome = .ok value := by
  cases outcome with
  | error cause => exact iff_of_false (fun ⟨_, same⟩ => nomatch same) fun ⟨_, same⟩ => nomatch same
  | ok value => exact iff_of_true ⟨f value, rfl⟩ ⟨value, rfl⟩

theorem eq_ok_of_bind {outcome : Except ε α} {next : α → Except ε β} {value : β}
    (succeeds : outcome.bind next = .ok value) :
    ∃ before, outcome = .ok before ∧ next before = .ok value := by
  cases outcome with
  | error cause => cases succeeds
  | ok before => exact ⟨before, rfl, succeeds⟩

theorem eq_error_of_map {outcome : Except ε α} {f : α → β} {cause : ε}
    (fails : outcome.map f = .error cause) : outcome = .error cause := by
  cases outcome with
  | error failure => exact congrArg Except.error (Except.error.inj fails)
  | ok value => cases fails

theorem eq_error_of_bind {outcome : Except ε α} {next : α → Except ε β} {cause : ε}
    (fails : outcome.bind next = .error cause) :
    outcome = .error cause ∨ ∃ before, outcome = .ok before ∧ next before = .error cause := by
  cases outcome with
  | error failure => exact .inl (congrArg Except.error (Except.error.inj fails))
  | ok value => exact .inr ⟨value, rfl, fails⟩

theorem eq_ok_of_mapError {outcome : Except ε α} {told : ε → ε'} {value : α}
    (succeeds : outcome.mapError told = .ok value) : outcome = .ok value := by
  cases outcome with
  | error cause => cases succeeds
  | ok before => exact congrArg Except.ok (Except.ok.inj succeeds)

theorem ok_bind (value : α) (next : α → Except ε β) : (Except.ok value >>= next) = next value := rfl

/-- The values of a list of computations of which the first one gives a value. -/
theorem mapM_cons_of_ok {compute : α → Except ε β} {first : α} {value : β}
    (here : compute first = .ok value) (later : List α) :
    (first :: later).mapM compute = (later.mapM compute).map (value :: ·) := by
  rw [List.mapM_cons, here, ok_bind]
  cases later.mapM compute <;> rfl

theorem mapM_eq_ok {f : α → Except ε β} {g : α → β} {inputs : List α}
    (each : ∀ input ∈ inputs, f input = .ok (g input)) : inputs.mapM f = .ok (inputs.map g) := by
  induction inputs with
  | nil => rfl
  | cons first later found =>
    obtain ⟨here, others⟩ := List.forall_mem_cons.mp each
    rw [mapM_cons_of_ok here, found others]
    rfl

theorem mapM_map_eq_ok {ι : Type} {f : α → Except ε β} {write : ι → α} {g : ι → β} {inputs : List ι}
    (each : ∀ input ∈ inputs, f (write input) = .ok (g input)) :
    (inputs.map write).mapM f = .ok (inputs.map g) := by
  rw [List.mapM_map]
  exact mapM_eq_ok each

/-- **Where a list of computations gives values each of them does**, and there are no others. -/
theorem mem_of_mapM_eq_ok {f : α → Except ε β} {inputs : List α} {values : List β}
    (gives : inputs.mapM f = .ok values) :
    (∀ input ∈ inputs, ∃ value ∈ values, f input = .ok value) ∧
      ∀ value ∈ values, ∃ input ∈ inputs, f input = .ok value := by
  induction inputs generalizing values with
  | nil =>
    cases gives
    exact ⟨fun input member => absurd member List.not_mem_nil,
      fun value member => absurd member List.not_mem_nil⟩
  | cons first later found =>
    rw [List.mapM_cons] at gives
    obtain ⟨value, here, gives⟩ := eq_ok_of_bind gives
    obtain ⟨others, behind, gives⟩ := eq_ok_of_bind gives
    cases gives
    obtain ⟨given, told⟩ := found behind
    constructor
    · refine List.forall_mem_cons.mpr ⟨⟨value, List.mem_cons_self, here⟩, fun input member => ?_⟩
      obtain ⟨other, among, same⟩ := given input member
      exact ⟨other, List.mem_cons_of_mem value among, same⟩
    · refine List.forall_mem_cons.mpr ⟨⟨first, List.mem_cons_self, here⟩, fun other member => ?_⟩
      obtain ⟨input, among, same⟩ := told other member
      exact ⟨input, List.mem_cons_of_mem first among, same⟩

/-- **Where a list of computations fails one does**, and those before it give a value. -/
theorem exists_of_mapM_eq_error {f : α → Except ε β} {inputs : List α} {cause : ε}
    (fails : inputs.mapM f = .error cause) :
    ∃ before input after, inputs = before ++ input :: after ∧
      (∀ earlier ∈ before, (f earlier).isOk = true) ∧ f input = .error cause := by
  induction inputs with
  | nil => cases fails
  | cons first later found =>
    rw [List.mapM_cons] at fails
    cases here : f first with
    | error failure =>
      rw [here] at fails
      cases fails
      exact ⟨[], first, later, rfl, by simp, here⟩
    | ok value =>
      rw [here, ok_bind] at fails
      cases rest : later.mapM f with
      | ok values =>
        rw [rest] at fails
        cases fails
      | error failure =>
        rw [rest] at fails
        cases fails
        obtain ⟨before, input, after, rfl, works, there⟩ := found rest
        exact ⟨first :: before, input, after, rfl,
          List.forall_mem_cons.mpr ⟨by rw [here]; rfl, works⟩, there⟩

/-- **A list of computations gives values exactly if each of them does.** -/
theorem mapM_returns_iff {f : α → Except ε β} {inputs : List α} :
    (∃ values, inputs.mapM f = .ok values) ↔ ∀ input ∈ inputs, ∃ value, f input = .ok value := by
  constructor
  · rintro ⟨values, gives⟩ input member
    obtain ⟨value, -, same⟩ := (mem_of_mapM_eq_ok gives).1 input member
    exact ⟨value, same⟩
  · intro each
    cases outcome : inputs.mapM f with
    | ok values => exact ⟨values, rfl⟩
    | error cause =>
      obtain ⟨before, input, after, rfl, -, fails⟩ := exists_of_mapM_eq_error outcome
      obtain ⟨value, same⟩ := each input (List.mem_append_right before List.mem_cons_self)
      cases fails.symm.trans same

/-- **What each step of a run keeps is kept by the run.** -/
theorem eq_ok_of_foldlM {step : β → α → Except ε β} (keeps : β → Prop) {inputs : List α}
    (each : ∀ before input after, input ∈ inputs → keeps before → step before input = .ok after →
      keeps after)
    {first last : β} (start : keeps first) (run : inputs.foldlM step first = .ok last) :
    keeps last := by
  induction inputs generalizing first with
  | nil =>
    cases run
    exact start
  | cons input later found =>
    rw [List.foldlM_cons] at run
    obtain ⟨middle, here, rest⟩ := eq_ok_of_bind run
    have kept := each first input middle List.mem_cons_self start here
    exact found (fun before input after member => each before input after
      (List.mem_cons_of_mem _ member)) kept rest

end HistoricalFigures
