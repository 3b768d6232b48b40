import HistoricalFigures.Proofs.Dataset.Execution

/-!
**Queries on a document that is a part of the state.** They do to that part what they do where it is
the whole state, and nothing else.

* `Action.IsPart`: a part of a state that can be replaced.
* `within_bind`, `within_tryCatch`: actions on a part, one behind another or in the place of a
  failure.
* `Engine.within`, `load_within`, `execute_within`: loading and running queries.
-/
namespace HistoricalFigures

namespace Action

variable {σ τ α β ε : Type}

/-- A part of a state that can be replaced: it is found as it was put, what is put last stays, and
putting back what was there changes nothing. -/
structure IsPart (part : τ → σ) (update : σ → τ → τ) : Prop where
  found : ∀ state whole, part (update state whole) = state
  last : ∀ first second whole, update second (update first whole) = update second whole
  same : ∀ whole, update (part whole) whole = whole

section Part

variable {part : τ → σ} {update : σ → τ → τ} (isPart : IsPart part update)
include isPart

/-- A value on a part of the state. -/
theorem within_pure (value : α) :
    within part update (pure value) = (pure value : Action τ α) := by
  exact ext_run fun whole => congrArg (Prod.mk _) (isPart.same whole)

theorem within_throw (failure : Failure) :
    within part update (throw failure) = (throw failure : Action τ α) := by
  exact ext_run fun whole => congrArg (Prod.mk _) (isPart.same whole)

theorem within_ofExcept (cause : ε → Failure) (outcome : Except ε α) :
    within part update (ofExcept cause outcome) = (ofExcept cause outcome : Action τ α) := by
  cases outcome with
  | error error => exact within_throw isPart (cause error)
  | ok value => exact within_pure isPart value

/-- **One action on a part of the state behind another.** -/
theorem within_bind (action : Action σ α) (next : α → Action σ β) :
    within part update (action >>= next) =
      within part update action >>= fun value => within part update (next value) := by
  refine ext_run fun whole => ?_
  rw [run_within, run_bind, run_bind, run_within]
  rcases action.run (part whole) with ⟨_ | value, changed⟩
  · rfl
  · simp only [run_within, isPart.found, isPart.last]

/-- **An action on a part of the state in the place of a failure.** -/
theorem within_tryCatch (action : Action σ α) (handle : Failure → Action σ α) :
    within part update (tryCatch action handle) =
      tryCatch (within part update action) fun failure => within part update (handle failure) := by
  refine ext_run fun whole => ?_
  rw [run_within, run_tryCatch, run_tryCatch, run_within]
  rcases action.run (part whole) with ⟨failure | _, changed⟩
  · simp only [run_within, isPart.found, isPart.last]
  · rfl

end Part

end Action

namespace Dataset.Engine

variable {σ τ : Type}

/-- Queries on a document that is a part of the state. -/
def within (part : τ → σ) (update : σ → τ → τ) (engine : Engine σ) : Engine τ :=
  ⟨engine.gateway.within part update, engine.readOnly⟩

variable {part : τ → σ} {update : σ → τ → τ} (isPart : Action.IsPart part update)
  (engine : Engine σ)
include isPart

/-- The document in a part of the state, or what else to do there. -/
theorem readOr_within (otherwise : Action σ String) :
    (engine.within part update).readOr (otherwise.within part update) =
      (engine.readOr otherwise).within part update := by
  unfold readOr
  rw [Action.within_tryCatch isPart]
  refine congrArg (tryCatch _) (funext fun failure => ?_)
  split
  · rfl
  · exact (Action.within_throw isPart failure).symm

theorem bootstrap_within :
    (engine.within part update).bootstrap = engine.bootstrap.within part update := by
  unfold bootstrap
  by_cases readOnly : engine.readOnly = true
  · rw [within, if_pos readOnly, if_pos readOnly]
    exact (Action.within_pure isPart _).symm
  · rw [if_neg readOnly, ← readOr_within isPart engine, Action.within_bind isPart,
      Action.within_pure isPart]
    exact if_neg readOnly

/-- **A store is loaded from a part of the state as from the whole.** -/
theorem load_within : (engine.within part update).load = engine.load.within part update := by
  unfold load
  rw [bootstrap_within isPart, readOr_within isPart, Action.within_bind isPart]
  exact congrArg (bind _) (funext fun document => (Action.within_ofExcept isPart id _).symm)

theorem run_within (query : Query) :
    (engine.within part update).run query = (engine.run query).within part update := by
  unfold Engine.run
  rw [load_within isPart, Action.within_bind isPart]
  refine congrArg (bind _) (funext fun store => ?_)
  cases query.body with
  | select projection searchTerm subject => exact (Action.within_pure isPart _).symm
  | insert triples =>
    dsimp only
    rw [Action.within_bind isPart, Action.within_ofExcept isPart]
    refine congrArg (bind _) (funext fun _ => ?_)
    rw [Action.within_bind isPart, Action.within_pure isPart]
    rfl
  | delete subject predicate object =>
    dsimp only
    rw [Action.within_bind isPart, Action.within_pure isPart]
    rfl

/-- **A text is run as a query on a part of the state as on the whole.** -/
theorem execute_within (text : String) :
    (engine.within part update).execute text = (engine.execute text).within part update := by
  refine Action.ext_run fun whole => ?_
  have same : (engine.within part update).accepted text = engine.accepted text := rfl
  rw [run_execute, Action.run_within, run_execute, same]
  cases engine.accepted text with
  | error failure => exact (congrArg (Prod.mk _) (isPart.same whole)).symm
  | ok query => exact congrArg (fun action => action.run whole) (run_within isPart engine query)

end Dataset.Engine

end HistoricalFigures
