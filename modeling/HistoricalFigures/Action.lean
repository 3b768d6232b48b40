import HistoricalFigures.Failure

/-!
Actions: steps that read and change a state and may fail. What was changed before a failure stays.

* `Action`: actions on a state.
* `Action.within`: an action on a part of the state.
* `Action.requireFewMissing`: what is checked before directories are made.
* `Action.attempt`: the outcome of an action as a value.
* `Action.run_within`, `Action.run_attempt`: what they do to the state.
-/
namespace HistoricalFigures

/-- Actions on a state. -/
abbrev Action (σ α : Type) := ExceptT Failure (StateM σ) α

namespace Action

variable {σ τ α : Type}

/-- An action on a part of the state. -/
def within (part : τ → σ) (update : σ → τ → τ) (action : Action σ α) : Action τ α :=
  ExceptT.mk fun whole =>
    let (outcome, changed) := action.run (part whole)
    (outcome, update changed whole)

/-- The value of a computation without effects. -/
def ofExcept {ε : Type} (cause : ε → Failure) : Except ε α → Action σ α
  | .ok value => pure value
  | .error error => throw (cause error)

/-- Fails if more directories are missing on the way to a path than can be made at once. -/
def requireFewMissing (path : Path) : Action Disk Unit := do
  if (← get).lacksTooMany path.directory then throw (.tooDeep .directories)

/-- The outcome of an action as a value. -/
def attempt (action : Action σ α) : Action σ (Except Failure α) :=
  ExceptT.mk fun state =>
    let (outcome, changed) := action.run state
    (.ok outcome, changed)

/-- An action on a part of the state changes that part only. -/
theorem run_within (part : τ → σ) (update : σ → τ → τ) (action : Action σ α) (whole : τ) :
    (within part update action).run whole =
      ((action.run (part whole)).1, update (action.run (part whole)).2 whole) := rfl

/-- An attempt succeeds, and changes what the action changes. -/
theorem run_attempt (action : Action σ α) (state : σ) :
    (attempt action).run state = (.ok (action.run state).1, (action.run state).2) := rfl

/-- The value of a computation on a value whose shape is not known. -/
def shaped (outcome : Except Json.Fault α) : Action σ α := ofExcept .shape outcome

end Action

/-- A backend that runs queries. -/
abbrev Executor (σ : Type) := String → Action σ Json

end HistoricalFigures
