import HistoricalFigures.Proofs.Dataset.Task

/-!
**Calls that take turns.** Any number of calls have tasks to do on one document. Each step of one of
them may be followed by a step of any other, but only one call at a time is in the section; it may
enter it again from within.

* `Moment`, `Moment.turn`, `Moment.run`: how far the calls have come, and what turns do to that.
* `Moment.settled`: what is left once the call in the section has ended.
* `turn_of_holder`, `settled_giving`: what the call in the section does, which changes nothing that is
  settled.
-/
namespace HistoricalFigures.Dataset

/-- How far calls have come: what is there, who is in the section and how often it has entered it,
what each call has still to do, and the calls that have entered the section, in that order. -/
structure Moment (ι σ : Type) where
  state : σ
  holder : Option (ι × Nat)
  tasks : ι → Task Json
  order : List ι

namespace Moment

variable {ι σ : Type} [DecidableEq ι]

/-- A call with something else to do. -/
def giving (moment : Moment ι σ) (call : ι) (task : Task Json) : Moment ι σ :=
  { moment with tasks := Function.update moment.tasks call task }

/-- A call has entered the section and ended there. -/
def served (moment : Moment ι σ) (call : ι) (outcome : Except Failure Json) (after : σ) :
    Moment ι σ :=
  { moment.giving call (.done outcome) with state := after, order := moment.order ++ [call] }

variable (gateway : Gateway σ)

/-- One step of a call. It stays where it is if it has ended, or if it has to enter the section while
another call is in it. -/
def turn (moment : Moment ι σ) (call : ι) : Moment ι σ :=
  match moment.tasks call with
  | .done _ => moment
  | .read next =>
    let (outcome, state) := gateway.read.run moment.state
    { moment.giving call (next outcome) with state }
  | .write text next =>
    let (outcome, state) := (gateway.write text).run moment.state
    { moment.giving call (next outcome) with state }
  | .enter next =>
    match moment.holder with
    | none => { moment.giving call next with
        holder := some (call, 1), order := moment.order ++ [call] }
    | some (other, depth) =>
      if other = call then { moment.giving call next with holder := some (call, depth + 1) }
      else moment
  | .leave next =>
    match moment.holder with
    | none => moment
    | some (other, depth) =>
      if other = call then
        { moment.giving call next with holder := if depth = 1 then none else some (call, depth - 1) }
      else moment

/-- The turns of calls, one after the other. -/
def run (turns : List ι) (moment : Moment ι σ) : Moment ι σ := turns.foldl (turn gateway) moment

/-- What is left once the call in the section has ended. -/
def settled (moment : Moment ι σ) : Moment ι σ :=
  match moment.holder with
  | none => moment
  | some (call, _) =>
    let (outcome, state) := ((moment.tasks call).alone gateway).run moment.state
    { moment.giving call (.done outcome) with state, holder := none }

variable {moment : Moment ι σ} {call : ι}

/-! ### Tasks -/

theorem giving_tasks_self (moment : Moment ι σ) (call : ι) (task : Task Json) :
    (moment.giving call task).tasks call = task := Function.update_self _ _ _

theorem giving_tasks_of_ne (moment : Moment ι σ) {call other : ι} (task : Task Json)
    (different : other ≠ call) : (moment.giving call task).tasks other = moment.tasks other :=
  Function.update_of_ne different _ _

/-- The tasks of calls that have been in the section stay what they are. -/
theorem giving_tasks_of_mem (outside : call ∉ moment.order) (task : Task Json) {other : ι}
    (member : other ∈ moment.order) : (moment.giving call task).tasks other = moment.tasks other :=
  giving_tasks_of_ne moment task (ne_of_mem_of_not_mem member outside)

theorem served_tasks_self (moment : Moment ι σ) (call : ι) (outcome : Except Failure Json)
    (after : σ) : (moment.served call outcome after).tasks call = .done outcome :=
  giving_tasks_self moment call _

theorem served_tasks_of_mem (outside : call ∉ moment.order) (outcome : Except Failure Json)
    (after : σ) {other : ι} (member : other ∈ moment.order) :
    (moment.served call outcome after).tasks other = moment.tasks other :=
  giving_tasks_of_mem outside _ member

/-! ### Turns -/

theorem turn_of_done {outcome : Except Failure Json} (does : moment.tasks call = .done outcome) :
    moment.turn gateway call = moment := by
  rw [turn, does]

/-- Reading leaves everything as it is. -/
theorem turn_of_read {gateway} (faithful : gateway.IsFaithful)
    {next : Except Failure String → Task Json} (does : moment.tasks call = .read next) :
    moment.turn gateway call = moment.giving call (next (gateway.read.run moment.state).1) := by
  have stays := faithful.read_state moment.state
  rw [turn, does]
  dsimp only
  rcases reads : gateway.read.run moment.state with ⟨outcome, state⟩
  rw [reads] at stays
  exact congrArg (fun state => { moment.giving call (next outcome) with state }) stays

theorem turn_of_enter {next : Task Json} (does : moment.tasks call = .enter next)
    (free : moment.holder = none) :
    moment.turn gateway call = { moment.giving call next with
      holder := some (call, 1), order := moment.order ++ [call] } := by
  rw [turn, does]
  dsimp only
  rw [free]

/-- Nobody enters the section while another call is in it. -/
theorem turn_of_enter_held {next : Task Json} (does : moment.tasks call = .enter next) {other : ι}
    {depth : Nat} (holds : moment.holder = some (other, depth)) (different : call ≠ other) :
    moment.turn gateway call = moment := by
  rw [turn, does]
  dsimp only
  rw [holds]
  exact if_neg different.symm

/-- Only a call whose turn it is enters the section. -/
theorem mem_order_turn {other : ι} (member : other ∈ (moment.turn gateway call).order) :
    other ∈ moment.order ∨ other = call := by
  unfold turn at member
  split at member
  · exact .inl member
  · exact .inl member
  · exact .inl member
  · split at member
    · exact (List.mem_append.mp member).imp_right List.mem_singleton.mp
    · split at member <;> exact .inl member
  · split at member
    · exact .inl member
    · split at member <;> exact .inl member

theorem mem_order_run {turns : List ι} (member : call ∈ (moment.run gateway turns).order) :
    call ∈ moment.order ∨ call ∈ turns := by
  induction turns generalizing moment with
  | nil => exact .inl member
  | cons first later found =>
    rcases found member with before | behind
    · rcases mem_order_turn gateway before with inside | rfl
      · exact .inl inside
      · exact .inr List.mem_cons_self
    · exact .inr (List.mem_cons_of_mem first behind)

/-! ### What is settled -/

theorem settled_of_free (free : moment.holder = none) : moment.settled gateway = moment := by
  unfold settled
  rw [free]

section Holder

variable {gateway} {depth : Nat}

theorem settled_of_holder (holds : moment.holder = some (call, depth))
    {outcome : Except Failure Json} {after : σ}
    (ends : ((moment.tasks call).alone gateway).run moment.state = (outcome, after)) :
    moment.settled gateway =
      { moment.giving call (.done outcome) with state := after, holder := none } := by
  unfold settled
  rw [holds]
  dsimp only
  rw [ends]

/-- **What the call in the section does changes nothing that is settled**: behind each of its steps it
still has the same end. -/
theorem settled_giving (holds : moment.holder = some (call, depth)) {task : Task Json} {state : σ}
    (same : (task.alone gateway).run state =
      ((moment.tasks call).alone gateway).run moment.state) (next : Nat) :
    ({ moment.giving call task with state, holder := some (call, next) } : Moment ι σ).settled
      gateway = moment.settled gateway := by
  rcases ends : ((moment.tasks call).alone gateway).run moment.state with ⟨outcome, after⟩
  have endsStill : (((moment.giving call task).tasks call).alone gateway).run state =
      (outcome, after) := by
    rw [giving_tasks_self, same, ends]
  rw [settled_of_holder holds ends]
  refine (settled_of_holder rfl endsStill).trans ?_
  exact congrArg (fun tasks => Moment.mk after none tasks moment.order) (Function.update_idem _ _ _)

/-- A call that enters the section is served there. -/
theorem settled_entered (free : moment.holder = none) {next : Task Json}
    {outcome : Except Failure Json} {after : σ}
    (ends : (next.alone gateway).run moment.state = (outcome, after)) :
    ({ moment.giving call next with
      holder := some (call, 1), order := moment.order ++ [call] } : Moment ι σ).settled gateway =
        moment.served call outcome after := by
  obtain ⟨state, holder, tasks, order⟩ := moment
  obtain rfl : holder = none := free
  have endsInside : ((Function.update tasks call next call).alone gateway).run state =
      (outcome, after) := by
    rw [Function.update_self]
    exact ends
  refine (settled_of_holder rfl endsInside).trans ?_
  exact congrArg (fun tasks => Moment.mk after none tasks (order ++ [call]))
    (Function.update_idem _ _ _)

/-- What other calls have to do does not matter to the one in the section. -/
theorem settled_giving_of_ne {other : ι} (holds : moment.holder = some (other, depth))
    (different : call ≠ other) (task : Task Json) :
    (moment.giving call task).settled gateway = (moment.settled gateway).giving call task := by
  rcases ends : ((moment.tasks other).alone gateway).run moment.state with ⟨outcome, after⟩
  have holdsStill : (moment.giving call task).holder = some (other, depth) := holds
  have endsStill : (((moment.giving call task).tasks other).alone gateway).run
      (moment.giving call task).state = (outcome, after) := by
    rw [giving_tasks_of_ne moment task different.symm]
    exact ends
  rw [settled_of_holder holds ends, settled_of_holder holdsStill endsStill]
  exact congrArg (fun tasks => Moment.mk after none tasks moment.order)
      (Function.update_comm different _ _ _)

variable (gateway) in
/-- **What the call in the section does**: it takes a step and stays in it, or it leaves it and has
ended. -/
theorem turn_of_holder (holds : moment.holder = some (call, depth)) (entered : 0 < depth)
    (balanced : (moment.tasks call).Balanced 0 depth) :
    (∃ task state next, moment.turn gateway call =
          { moment.giving call task with state, holder := some (call, next) } ∧
        (task.alone gateway).run state = ((moment.tasks call).alone gateway).run moment.state ∧
        0 < next ∧ task.Balanced 0 next) ∨
      ∃ outcome, moment.tasks call = .leave (.done outcome) ∧
        moment.turn gateway call = { moment.giving call (.done outcome) with holder := none } := by
  obtain ⟨state, holder, tasks, order⟩ := moment
  obtain rfl : holder = some (call, depth) := holds
  unfold turn
  dsimp only at balanced ⊢
  cases does : tasks call with
  | done outcome =>
    rw [does] at balanced
    exact absurd (show depth = 0 from balanced) (Nat.pos_iff_ne_zero.mp entered)
  | read next =>
    rw [does] at balanced
    exact .inl ⟨_, _, depth, rfl, rfl, entered, balanced.2 _⟩
  | write text next =>
    rw [does] at balanced
    exact .inl ⟨_, _, depth, rfl, rfl, entered, balanced.2 _⟩
  | enter next =>
    rw [does] at balanced
    dsimp only
    rw [if_pos rfl]
    exact .inl ⟨next, state, depth + 1, rfl, rfl, Nat.succ_pos depth, balanced.2⟩
  | leave next =>
    rw [does] at balanced
    dsimp only
    rw [if_pos rfl]
    by_cases last : depth = 1
    · -- Behind the last step in the section a task that is balanced has ended.
      subst last
      have ended : ∃ outcome, next = .done outcome := by
        cases next with
        | done outcome => exact ⟨outcome, rfl⟩
        | _ => exact absurd balanced.2.1 (Nat.lt_irrefl 0)
      obtain ⟨outcome, rfl⟩ := ended
      exact .inr ⟨outcome, rfl, rfl⟩
    · rw [if_neg last]
      exact .inl ⟨next, state, depth - 1, rfl, rfl, by omega, balanced.2⟩

end Holder

end Moment

end HistoricalFigures.Dataset
