import HistoricalFigures.Action

/-!
**Running actions step by step.**

* `run_bind`, `run_bind_pure`, `run_tryCatch`: an action behind another one, a value made from what
  one gives, and an action in the place of a failure.
* `run_ofExcept_state`, `run_ofExcept_ok`, `run_shaped_ok`: computations without effects.
* `eq_ok_of_run_bind`: the first part of an action that succeeds succeeds.
* `left`: what an action leaves.
* `Keeps`, `part_run_bind`, `Keeps.bind`: what an action leaves as it is, and one behind another.
* `Keeps.tryCatch`: one in the place of a failure.
* `FailsOnly`, `FailsOnly.bind`, `FailsOnly.tryCatch`: the failures that an action can end in.
* `Preserves`, `Preserves.bind`, `Preserves.tryCatch`, `Preserves.forM`: what stays true behind an
  action.
-/
namespace HistoricalFigures.Action

variable {σ α β ε : Type} {state changed : σ}

theorem ext_run {first second : Action σ α} (same : ∀ state, first.run state = second.run state) :
    first = second := funext same

/-- An action behind another one goes on from what that one has left, unless it fails. -/
theorem run_bind (action : Action σ α) (next : α → Action σ β) (state : σ) :
    (action >>= next).run state =
      match action.run state with
      | (.ok value, changed) => (next value).run changed
      | (.error failure, changed) => (.error failure, changed) := by
  change (ExceptT.bind action next).run state = _
  simp only [ExceptT.bind, ExceptT.run, ExceptT.mk, bind, StateT.bind, ExceptT.bindCont]
  rcases action state with ⟨_ | _, changed⟩ <;> rfl

theorem run_bind_ok {action : Action σ α} {value : α} (here : action.run state = (.ok value, changed))
    (next : α → Action σ β) : (action >>= next).run state = (next value).run changed := by
  rw [run_bind, here]

theorem run_bind_error {action : Action σ α} {failure : Failure}
    (here : action.run state = (.error failure, changed)) (next : α → Action σ β) :
    (action >>= next).run state = (.error failure, changed) := by
  rw [run_bind, here]

/-- **The first part of an action that succeeds succeeds.** -/
theorem eq_ok_of_run_bind {action : Action σ α} {next : α → Action σ β} {value : β}
    (succeeds : (action >>= next).run state = (.ok value, changed)) :
    ∃ before middle, action.run state = (.ok before, middle) ∧
      (next before).run middle = (.ok value, changed) := by
  rw [run_bind] at succeeds
  split at succeeds
  · exact ⟨_, _, ‹_›, succeeds⟩
  · cases succeeds

/-- A value made from what an action gives. -/
theorem run_bind_pure (action : Action σ α) (made : α → β) (state : σ) :
    (action >>= fun value => pure (made value)).run state =
      ((action.run state).1.map made, (action.run state).2) := by
  rw [run_bind]
  rcases action.run state with ⟨_ | _, changed⟩ <;> rfl

theorem run_tryCatch (action : Action σ α) (handle : Failure → Action σ α) (state : σ) :
    (tryCatch action handle).run state =
      match action.run state with
      | (.ok value, changed) => (.ok value, changed)
      | (.error failure, changed) => (handle failure).run changed := by
  change (ExceptT.tryCatch action handle).run state = _
  simp only [ExceptT.tryCatch, ExceptT.run, ExceptT.mk, bind, StateT.bind]
  rcases action state with ⟨_ | _, changed⟩ <;> rfl

theorem run_ofExcept_state (cause : ε → Failure) (outcome : Except ε α) (state : σ) :
    ((ofExcept cause outcome : Action σ α).run state).2 = state := by
  cases outcome <;> rfl

theorem run_ofExcept_ok (cause : ε → Failure) {outcome : Except ε α} {value : α}
    (succeeds : outcome = .ok value) (state : σ) :
    (ofExcept cause outcome : Action σ α).run state = (.ok value, state) := by
  rw [succeeds]
  rfl

theorem run_shaped_ok {outcome : Except Json.Fault α} {value : α} (succeeds : outcome = .ok value)
    (state : σ) : (shaped outcome : Action σ α).run state = (.ok value, state) :=
  run_ofExcept_ok .shape succeeds state

/-! ### What is left as it is -/

section Keeps

variable {ρ : Type} {part : σ → ρ}

/-- A part of the state that an action leaves as it is, whether it succeeds or not. -/
def Keeps (part : σ → ρ) (action : Action σ α) : Prop :=
  ∀ state, part (action.run state).2 = part state

/-- What an action leaves, whether it succeeds or not. -/
def left (action : Action σ α) (state : σ) : σ := (action.run state).2

theorem Keeps.left {action : Action σ α} (keeps : Keeps part action) (state : σ) :
    part (action.left state) = part state := keeps state

/-- A value leaves everything as it is. -/
theorem keeps_pure (value : α) : Keeps part (pure value : Action σ α) := fun _ => rfl

theorem keeps_ofExcept (cause : ε → Failure) (outcome : Except ε α) :
    Keeps part (ofExcept cause outcome : Action σ α) := fun state =>
  congrArg part (run_ofExcept_state cause outcome state)

/-- **What is left as it is behind an action is as that action has left it.** -/
theorem part_run_bind (action : Action σ α) {next : α → Action σ β}
    (later : ∀ value, Keeps part (next value)) (state : σ) :
    part ((action >>= next).run state).2 = part (action.run state).2 := by
  rw [run_bind]
  rcases action.run state with ⟨failure | value, changed⟩
  · rfl
  · exact later value changed

/-- Behind an action that leaves everything as it is there is what the first one has left. -/
theorem left_bind (action : Action σ α) {next : α → Action σ β}
    (later : ∀ value, Keeps (fun state => state) (next value)) (state : σ) :
    (action >>= next).left state = action.left state := part_run_bind action later state

theorem Keeps.bind {action : Action σ α} {next : α → Action σ β} (first : Keeps part action)
    (second : ∀ value, Keeps part (next value)) : Keeps part (action >>= next) := fun state =>
  (part_run_bind action second state).trans (first state)

theorem Keeps.attempt {action : Action σ α} (keeps : Keeps part action) :
    Keeps part action.attempt := fun state => keeps state

theorem keeps_throw (failure : Failure) : Keeps part (throw failure : Action σ α) := fun _ => rfl

theorem Keeps.tryCatch {action : Action σ α} {handle : Failure → Action σ α}
    (first : Keeps part action) (second : ∀ failure, Keeps part (handle failure)) :
    Keeps part (tryCatch action handle) := fun state => by
  have here := first state
  rw [run_tryCatch]
  rcases runs : action.run state with ⟨failure | value, changed⟩
  · rw [runs] at here
    exact (second failure changed).trans here
  · rw [runs] at here
    exact here

end Keeps

/-! ### What stays true -/

section Preserves

variable {holds : σ → Prop}

/-- What is true of the state stays true behind an action, whether it succeeds or not. -/
def Preserves (holds : σ → Prop) (action : Action σ α) : Prop :=
  ∀ state, holds state → holds (action.run state).2

/-- What is true of a part that an action leaves as it is stays true. -/
theorem Keeps.preserves {ρ : Type} {part : σ → ρ} {action : Action σ α} (keeps : Keeps part action)
    (holds : ρ → Prop) : Preserves (fun state => holds (part state)) action :=
  fun state given => (congrArg holds (keeps state)).mpr given

/-- **A part is left as it is where all that is true of it stays true.** -/
theorem keeps_of_preserves {ρ : Type} {part : σ → ρ} {action : Action σ α}
    (preserves : ∀ value, Preserves (fun state => part state = value) action) : Keeps part action :=
  fun state => preserves (part state) state rfl

theorem preserves_pure (value : α) : Preserves holds (pure value : Action σ α) := fun _ given => given

theorem preserves_throw (failure : Failure) : Preserves holds (throw failure : Action σ α) :=
  fun _ given => given

theorem preserves_ofExcept (cause : ε → Failure) (outcome : Except ε α) :
    Preserves holds (ofExcept cause outcome : Action σ α) := fun state given => by
  rw [run_ofExcept_state]
  exact given

theorem Preserves.bind {action : Action σ α} {next : α → Action σ β} (first : Preserves holds action)
    (second : ∀ value, Preserves holds (next value)) : Preserves holds (action >>= next) := by
  intro state given
  have here := first state given
  rw [run_bind]
  rcases runs : action.run state with ⟨failure | value, changed⟩
  · rw [runs] at here
    exact here
  · rw [runs] at here
    exact second value changed here

theorem Preserves.tryCatch {action : Action σ α} {handle : Failure → Action σ α}
    (first : Preserves holds action) (second : ∀ failure, Preserves holds (handle failure)) :
    Preserves holds (tryCatch action handle) := fun state given => by
  have here := first state given
  rw [run_tryCatch]
  rcases runs : action.run state with ⟨failure | value, changed⟩
  · rw [runs] at here
    exact second failure changed here
  · rw [runs] at here
    exact here

theorem Preserves.forM {action : α → Action σ Unit} (each : ∀ value, Preserves holds (action value))
    (values : List α) : Preserves holds (values.forM action) := by
  induction values with
  | nil => exact preserves_pure ()
  | cons value later found => exact (each value).bind fun _ => found

end Preserves

/-! ### How actions fail -/

section Fails

variable {allowed : Failure → Prop}

/-- An action fails with certain failures only. -/
def FailsOnly (allowed : Failure → Prop) (action : Action σ α) : Prop :=
  ∀ state failure, (action.run state).1 = .error failure → allowed failure

theorem failsOnly_pure (value : α) : FailsOnly allowed (pure value : Action σ α) :=
  fun _ _ fails => nomatch fails

theorem failsOnly_throw {failure : Failure} (given : allowed failure) :
    FailsOnly allowed (throw failure : Action σ α) := fun _ _ fails => Except.error.inj fails ▸ given

theorem failsOnly_ofExcept {cause : ε → Failure} {outcome : Except ε α}
    (each : ∀ error, outcome = .error error → allowed (cause error)) :
    FailsOnly allowed (ofExcept cause outcome : Action σ α) := by
  cases outcome with
  | ok value => exact failsOnly_pure value
  | error error => exact failsOnly_throw (each error rfl)

theorem FailsOnly.bind {action : Action σ α} {next : α → Action σ β} (first : FailsOnly allowed action)
    (second : ∀ value, FailsOnly allowed (next value)) : FailsOnly allowed (action >>= next) := by
  intro state failure fails
  rw [run_bind] at fails
  rcases runs : action.run state with ⟨cause | value, changed⟩
  · rw [runs] at fails
    obtain rfl : cause = failure := Except.error.inj fails
    exact first state cause (congrArg Prod.fst runs)
  · rw [runs] at fails
    exact second value changed failure fails

theorem FailsOnly.tryCatch {action : Action σ α} {handle : Failure → Action σ α}
    (first : FailsOnly allowed action)
    (second : ∀ failure, allowed failure → FailsOnly allowed (handle failure)) :
    FailsOnly allowed (tryCatch action handle) := by
  intro state failure fails
  rw [run_tryCatch] at fails
  rcases runs : action.run state with ⟨cause | value, changed⟩
  · rw [runs] at fails
    exact second cause (first state cause (congrArg Prod.fst runs)) changed failure fails
  · rw [runs] at fails
    cases fails

end Fails

end HistoricalFigures.Action
