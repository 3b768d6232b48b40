import HistoricalFigures.Proofs.Dataset.Execution

/-!
**Queries step by step.** Running a query takes several steps, each of which reads or replaces the
document, or enters or leaves the section in which nobody else may change it.

* `Task`: what is still to be done.
* `Task.alone`: what a task does where nothing comes between its steps.
* `Task.Balanced`: a task that leaves the section as often as it enters it.
* `Engine.task`: the steps of a query.
* `run_alone_task`: where nothing comes between them they run the query.
-/
namespace HistoricalFigures.Dataset

open Rdf (Store)

/-- What is still to be done: nothing, with an outcome, or a step and what follows it. -/
inductive Task (α : Type) where
  | done (outcome : Except Failure α)
  | read (next : Except Failure String → Task α)
  | write (text : String) (next : Except Failure Unit → Task α)
  | enter (next : Task α)
  | leave (next : Task α)

namespace Task

variable {α β σ : Type}

/-- A task, and then what follows its outcome. -/
def andThen : Task α → (Except Failure α → Task β) → Task β
  | .done outcome, next => next outcome
  | .read later, next => .read fun outcome => (later outcome).andThen next
  | .write text later, next => .write text fun outcome => (later outcome).andThen next
  | .enter later, next => .enter (later.andThen next)
  | .leave later, next => .leave (later.andThen next)

theorem andThen_andThen {γ : Type} (task : Task α) (next : Except Failure α → Task β)
    (later : Except Failure β → Task γ) :
    (task.andThen next).andThen later = task.andThen fun outcome => (next outcome).andThen later := by
  induction task with
  | done outcome => rfl
  | read _ found => exact congrArg Task.read (funext found)
  | write text _ found => exact congrArg (Task.write text) (funext found)
  | enter _ found => exact congrArg Task.enter found
  | leave _ found => exact congrArg Task.leave found

/-- A task within the section, which is left whatever its outcome is. -/
def within (task : Task α) : Task α := .enter (task.andThen fun outcome => .leave (.done outcome))

/-! ### Tasks that are not interrupted -/

/-- What a task does where nothing comes between its steps: nobody else is in the section then. -/
def alone (gateway : Gateway σ) : Task α → Action σ α
  | .done outcome => Action.ofExcept id outcome
  | .read next => do (next (← gateway.read.attempt)).alone gateway
  | .write text next => do (next (← (gateway.write text).attempt)).alone gateway
  | .enter next => next.alone gateway
  | .leave next => next.alone gateway

variable (gateway : Gateway σ)

theorem run_alone_done (outcome : Except Failure α) (state : σ) :
    ((done outcome).alone gateway).run state = (outcome, state) := by
  cases outcome <;> rfl

theorem run_alone_read (next : Except Failure String → Task α) (state : σ) :
    ((read next).alone gateway).run state =
      ((next (gateway.read.run state).1).alone gateway).run (gateway.read.run state).2 := rfl

theorem run_alone_write (text : String) (next : Except Failure Unit → Task α) (state : σ) :
    ((write text next).alone gateway).run state =
      ((next ((gateway.write text).run state).1).alone gateway).run
        ((gateway.write text).run state).2 := rfl

/-- **A task goes on from what the one before it has left**, with the outcome of that one. -/
theorem run_alone_andThen (task : Task α) (next : Except Failure α → Task β) (state : σ) :
    ((task.andThen next).alone gateway).run state =
      ((next ((task.alone gateway).run state).1).alone gateway).run
        ((task.alone gateway).run state).2 := by
  induction task generalizing state with
  | done outcome => rw [run_alone_done, andThen]
  | read later found => exact found _ _
  | write text later found => exact found _ _
  | enter later found => exact found state
  | leave later found => exact found state

theorem run_alone_within (task : Task α) (state : σ) :
    (task.within.alone gateway).run state = (task.alone gateway).run state := by
  refine (run_alone_andThen gateway task _ state).trans ?_
  rw [alone, run_alone_done]
  exact Prod.mk.eta

/-! ### Entering and leaving -/

/-- A task that takes its steps within the section, entered so many times, and in the end has
entered it a given number of times. It is not entered from outside. -/
def Balanced (last : Nat) : Nat → Task α → Prop
  | depth, .done _ => depth = last
  | depth, .read next => 0 < depth ∧ ∀ outcome, (next outcome).Balanced last depth
  | depth, .write _ next => 0 < depth ∧ ∀ outcome, (next outcome).Balanced last depth
  | depth, .enter next => 0 < depth ∧ next.Balanced last (depth + 1)
  | depth, .leave next => 0 < depth ∧ next.Balanced last (depth - 1)

theorem Balanced.andThen {task : Task α} {next : Except Failure α → Task β} {depth middle last : Nat}
    (first : task.Balanced middle depth) (second : ∀ outcome, (next outcome).Balanced last middle) :
    (task.andThen next).Balanced last depth := by
  induction task generalizing depth with
  | done outcome => exact (show depth = middle from first) ▸ second outcome
  | read later found => exact ⟨first.1, fun outcome => found outcome (first.2 outcome)⟩
  | write text later found => exact ⟨first.1, fun outcome => found outcome (first.2 outcome)⟩
  | enter later found => exact ⟨first.1, found first.2⟩
  | leave later found => exact ⟨first.1, found first.2⟩

/-- A task within the section leaves it once more at its end. -/
theorem Balanced.andThen_leave {task : Task α} {depth : Nat}
    (balanced : task.Balanced (depth + 1) (depth + 1)) :
    (task.andThen fun outcome => .leave (.done outcome)).Balanced depth (depth + 1) :=
  balanced.andThen fun _ => ⟨Nat.succ_pos depth, Nat.add_sub_cancel depth 1⟩

theorem Balanced.within {task : Task α} {depth : Nat} (entered : 0 < depth)
    (balanced : task.Balanced (depth + 1) (depth + 1)) : task.within.Balanced depth depth :=
  ⟨entered, balanced.andThen_leave⟩

end Task

/-! ### The steps of a query -/

namespace Engine

variable {σ : Type} (engine : Engine σ)

/-- The document, or what else to do where it is missing. -/
def readOrTask (otherwise : Task String) : Task String :=
  .read fun outcome =>
    match outcome with
    | .error (.dataset .missing) => otherwise
    | other => .done other

/-- The document where none was found. Within the section it is looked for again before the empty
one is written. -/
def bootstrapTask : Task String :=
  if engine.readOnly then .done (.ok Turtle.emptyDocument)
  else
    Task.within (readOrTask (.write Turtle.emptyDocument fun outcome =>
      .done (outcome.map fun _ => Turtle.emptyDocument)))

/-- The statements of the document. -/
def loadTask : Task Store :=
  (readOrTask engine.bootstrapTask).andThen fun outcome => .done (outcome.bind storeOf)

/-- The answer to a query, and what it leaves, for the statements of the document. -/
def changeTask (query : Query) : Task Json :=
  engine.loadTask.andThen fun loaded =>
    match loaded.bind query.answer with
    | .error failure => .done (.error failure)
    | .ok (payload, changed) =>
      .write (written changed) fun outcome => .done (outcome.map fun _ => payload)

/-- The answer to a query that is run. A selection reads outside the section; every other query is
within it from the start to the end. -/
def runTask (query : Query) : Task Json :=
  if query.body.kind = .select then
    engine.loadTask.andThen fun loaded =>
      .done (loaded.bind fun store => (query.answer store).map Prod.fst)
  else (engine.changeTask query).within

/-- The answer to the query of a text. -/
def task (text : String) : Task Json :=
  match engine.accepted text with
  | .error failure => .done (.error failure)
  | .ok query => engine.runTask query

/-! ### Queries that are not interrupted -/

theorem run_alone_readOrTask (otherwise : Task String) (state : σ) :
    ((readOrTask otherwise).alone engine.gateway).run state =
      (engine.readOr (otherwise.alone engine.gateway)).run state := by
  unfold readOrTask readOr
  rw [Task.run_alone_read, Action.run_tryCatch]
  rcases engine.gateway.read.run state with ⟨failure | document, left⟩
  · cases failure
    case dataset fault => cases fault <;> rfl
    all_goals rfl
  · rfl

theorem run_alone_bootstrapTask (state : σ) :
    (engine.bootstrapTask.alone engine.gateway).run state = engine.bootstrap.run state := by
  unfold bootstrapTask bootstrap
  by_cases fixed : engine.readOnly = true
  · rw [if_pos fixed, if_pos fixed]
    rfl
  · rw [if_neg fixed, if_neg fixed, Task.run_alone_within, run_alone_readOrTask]
    refine congrArg (fun action => (engine.readOr action).run state) (Action.ext_run fun state => ?_)
    rw [Task.run_alone_write, Task.run_alone_done, Action.run_bind]
    rcases (engine.gateway.write Turtle.emptyDocument).run state with ⟨_ | _, _⟩ <;> rfl

theorem run_alone_loadTask (state : σ) :
    (engine.loadTask.alone engine.gateway).run state = engine.load.run state := by
  unfold loadTask load
  rw [Task.run_alone_andThen, run_alone_readOrTask, Task.run_alone_done, Action.run_bind,
    Action.ext_run engine.run_alone_bootstrapTask]
  rcases (engine.readOr engine.bootstrap).run state with ⟨failure | document, left⟩
  · rfl
  · dsimp only [Except.bind]
    cases storeOf document <;> rfl

theorem run_alone_runTask (query : Query) (state : σ) :
    ((engine.runTask query).alone engine.gateway).run state = (engine.run query).run state := by
  rcases loads : engine.load.run state with ⟨failure | store, after⟩
  · have fails : (engine.run query).run state = (.error failure, after) := by
      unfold run
      exact Action.run_bind_error loads _
    rw [fails, runTask]
    split
    · rw [Task.run_alone_andThen, run_alone_loadTask, loads]
      rfl
    · rw [Task.run_alone_within, changeTask, Task.run_alone_andThen, run_alone_loadTask, loads]
      rfl
  · rw [run_run loads, runTask]
    by_cases selects : query.body.kind = .select
    · rw [if_pos selects, Task.run_alone_andThen, run_alone_loadTask, loads, Task.run_alone_done]
      dsimp only [Except.bind]
      rcases query.answer store with _ | ⟨payload, changed⟩
      · rfl
      · dsimp only
        rw [if_pos selects]
        rfl
    · rw [if_neg selects, Task.run_alone_within, changeTask, Task.run_alone_andThen,
        run_alone_loadTask, loads]
      dsimp only [Except.bind]
      rcases query.answer store with _ | ⟨payload, changed⟩
      · rfl
      · dsimp only
        rw [if_neg selects, Task.run_alone_write, Task.run_alone_done, Action.run_bind]
        change (Except.map (fun _ => payload) ((engine.gateway.write (written changed)).run after).1,
          ((engine.gateway.write (written changed)).run after).2) = _
        unfold save written
        rcases (engine.gateway.write
          (Turtle.serialize Rdf.defaultNamespaces changed.statements)).run after with ⟨_ | _, _⟩ <;> rfl

/-- **Where nothing comes between its steps a query is run as always.** -/
theorem run_alone_task (text : String) (state : σ) :
    ((engine.task text).alone engine.gateway).run state = (engine.execute text).run state := by
  rw [run_execute, task]
  cases engine.accepted text with
  | error failure => rfl
  | ok query => exact engine.run_alone_runTask query state

/-! ### The section -/

theorem balanced_readOrTask {otherwise : Task String} {depth : Nat} (entered : 0 < depth)
    (balanced : otherwise.Balanced depth depth) : (readOrTask otherwise).Balanced depth depth := by
  refine ⟨entered, fun outcome => ?_⟩
  dsimp only
  split
  · exact balanced
  · exact rfl

/-- Looking for the document and writing the empty one, within the section already. -/
theorem balanced_findTask {depth : Nat} (entered : 0 < depth) :
    (readOrTask (.write Turtle.emptyDocument fun outcome =>
      .done (outcome.map fun _ => Turtle.emptyDocument))).Balanced depth depth :=
  balanced_readOrTask entered ⟨entered, fun _ => rfl⟩

theorem balanced_loadTask {depth : Nat} (entered : 0 < depth) :
    engine.loadTask.Balanced depth depth := by
  refine Task.Balanced.andThen (balanced_readOrTask entered ?_) fun _ => rfl
  unfold bootstrapTask
  split
  · exact rfl
  · exact (balanced_findTask (Nat.succ_pos depth)).within entered

theorem balanced_changeTask (query : Query) {depth : Nat} (entered : 0 < depth) :
    (engine.changeTask query).Balanced depth depth := by
  refine (engine.balanced_loadTask entered).andThen fun loaded => ?_
  split
  · exact rfl
  · exact ⟨entered, fun _ => rfl⟩

end Engine

end HistoricalFigures.Dataset
