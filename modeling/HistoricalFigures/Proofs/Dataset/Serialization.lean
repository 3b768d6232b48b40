import HistoricalFigures.Proofs.Dataset.Runs
import HistoricalFigures.Proofs.Dataset.Serving
import HistoricalFigures.Proofs.Dataset.Turns

/-!
**Queries that take turns leave what they would leave one after the other**, in the order in which
they have entered the section.

* `Moment.changes`: the calls that have changed something, in that order.
* `Moment.Consistent`: the document stands for these changes, run in memory.
* `Moment.IsSound`, `IsSound.turn`, `IsSound.run`: what is settled is consistent, at every moment.
* `exists_replay_of_run`, `exists_replay_onDisk`: what has been changed when all calls have ended.
-/
namespace HistoricalFigures.Dataset

open Rdf (Statement Store)

/-- The answer of a task that has ended with one. -/
def Task.answer? : Task Json → Option Json
  | .done (.ok payload) => some payload
  | _ => none

/-- Whether a task has ended. -/
def Task.isDone {α : Type} : Task α → Bool
  | .done _ => true
  | _ => false

namespace Moment

variable {ι σ : Type} [DecidableEq ι]

/-- All calls have yet to begin. -/
def start (engine : Engine σ) (texts : ι → String) (state : σ) : Moment ι σ :=
  ⟨state, none, fun call => engine.task (texts call), []⟩

/-- Whether a call has changed something: its query is a change, and it is answered. -/
def hasChanged (texts : ι → String) (moment : Moment ι σ) (call : ι) : Bool :=
  Query.isChange (texts call) && (moment.tasks call).answer?.isSome

/-- The calls that have changed something, in the order in which they have entered the section. -/
def changes (texts : ι → String) (moment : Moment ι σ) : List ι :=
  moment.order.filter (moment.hasChanged texts)

/-- What is inserted is given back as it was. -/
def KeepsInsertions (texts : ι → String) (moment : Moment ι σ) : Prop :=
  ∀ call ∈ moment.changes texts, ∀ statement ∈ Query.insertionsOf (texts call),
    IsKeptTerm statement.object

/-- The document stands for the changes that are answered, run in memory in the order in which their
calls have entered the section. -/
def Serializes (engine : Engine σ) (vacant : σ → Prop) (texts : ι → String) (store : Store)
    (moment : Moment ι σ) : Prop :=
  ∃ carried, IsKept carried ∧
    Query.Replays texts (fun call => (moment.tasks call).answer?) (moment.changes texts) store
      carried ∧
    engine.Stands vacant (moment.changes texts = []) moment.state carried

/-- What is so where no call is in the section. -/
structure Consistent (engine : Engine σ) (vacant : σ → Prop) (texts : ι → String) (store : Store)
    (moment : Moment ι σ) : Prop where
  /-- The calls that have been in the section have ended. -/
  ended : ∀ call ∈ moment.order, ∃ outcome, moment.tasks call = .done outcome
  /-- All others wait to be served. -/
  waits : ∀ call, call ∉ moment.order → engine.Waits vacant (texts call) (moment.tasks call)
  /-- What was changed is there. -/
  serializes : moment.KeepsInsertions texts → moment.Serializes engine vacant texts store

/-- What is so at every moment. -/
structure IsSound (engine : Engine σ) (vacant : σ → Prop) (texts : ι → String) (store : Store)
    (moment : Moment ι σ) : Prop where
  /-- Whoever is in the section leaves it before the end, and does nothing afterwards. -/
  inside : ∀ call depth, moment.holder = some (call, depth) →
    0 < depth ∧ call ∈ moment.order ∧ (moment.tasks call).Balanced 0 depth
  consistent : (moment.settled engine.gateway).Consistent engine vacant texts store

variable {engine : Engine σ} {vacant : σ → Prop} {texts : ι → String} {store : Store}
  {moment : Moment ι σ} {call : ι}

/-! ### Changes -/

omit [DecidableEq ι] in
/-- Which changes are answered depends on the calls that have been in the section only. -/
theorem changes_congr {first second : Moment ι σ} (order : second.order = first.order)
    (same : ∀ call ∈ first.order, second.tasks call = first.tasks call) :
    second.changes texts = first.changes texts := by
  unfold changes
  rw [order]
  exact List.filter_congr fun call member => by rw [hasChanged, same call member, hasChanged]

/-- A call that is served last is the last change, if it is a change that is answered. -/
theorem changes_served (outside : call ∉ moment.order) (outcome : Except Failure Json) (after : σ) :
    (moment.served call outcome after).changes texts = moment.changes texts ++
      if Query.isChange (texts call) = true ∧ outcome.isOk = true then [call] else [] := by
  have before : moment.order.filter ((moment.served call outcome after).hasChanged texts) =
      moment.changes texts :=
    List.filter_congr fun other member => by
      rw [hasChanged, served_tasks_of_mem outside outcome after member, hasChanged]
  have here : (moment.served call outcome after).hasChanged texts call = true ↔
      Query.isChange (texts call) = true ∧ outcome.isOk = true := by
    rw [hasChanged, served_tasks_self, Bool.and_eq_true]
    cases outcome <;> rfl
  unfold changes
  change (moment.order ++ [call]).filter _ = _
  rw [List.filter_append, before, List.filter_singleton, Bool.cond_eq_ite]
  exact congrArg _ (if_congr here rfl rfl)

/-- **What has been changed is there after a call that is served**: the call is the last change, or it
has changed nothing. -/
theorem Serializes.served (serializes : moment.Serializes engine vacant texts store)
    (outside : call ∉ moment.order) {task : Task Json}
    (serves : engine.Serves vacant (texts call) task) {outcome : Except Failure Json} {after : σ}
    (ends : (task.alone engine.gateway).run moment.state = (outcome, after))
    (inserted : Query.isChange (texts call) = true → outcome.isOk = true →
      ∀ statement ∈ Query.insertionsOf (texts call), IsKeptTerm statement.object) :
    (moment.served call outcome after).Serializes engine vacant texts store := by
  obtain ⟨carried, keeps, replays, stands⟩ := serializes
  have replaysStill : Query.Replays texts
      (fun other => ((moment.served call outcome after).tasks other).answer?)
      (moment.changes texts) store carried :=
    replays.congr fun other member => by
      rw [served_tasks_of_mem outside outcome after (List.mem_filter.mp member).1]
  have gives := serves stands keeps ends
  unfold Serializes
  rw [changes_served outside]
  by_cases changed : Query.isChange (texts call) = true ∧ outcome.isOk = true
  · rw [if_pos changed]
    obtain ⟨change, isOk⟩ := changed
    cases outcome with
    | error failure => cases isOk
    | ok payload =>
      rw [change] at gives
      obtain ⟨next, answers, keepsNext, loads⟩ := gives (inserted change rfl)
      refine ⟨next, keepsNext, Query.Replays.append.mpr ⟨carried, replaysStill, ?_⟩, .inl loads⟩
      refine ⟨payload, next, ?_, answers, rfl⟩
      dsimp only
      rw [served_tasks_self]
      rfl
  · rw [if_neg changed, List.append_nil]
    refine ⟨carried, keeps, replaysStill, ?_⟩
    split at gives
    · rename_i payload change
      exact absurd ⟨change, rfl⟩ changed
    · exact gives

/-! ### What is consistent -/

namespace Consistent

variable (consistent : moment.Consistent engine vacant texts store)
include consistent

omit [DecidableEq ι] in
/-- A call that has not ended has not been in the section. -/
theorem notMem_order {task : Task Json} (does : moment.tasks call = task)
    (unfinished : task.isDone = false) : call ∉ moment.order := fun member => by
  obtain ⟨outcome, ends⟩ := consistent.ended call member
  rw [← does, ends] at unfinished
  cases unfinished

omit [DecidableEq ι] in
theorem waits_of_unfinished {task : Task Json} (does : moment.tasks call = task)
    (unfinished : task.isDone = false) : engine.Waits vacant (texts call) task :=
  does ▸ consistent.waits call (consistent.notMem_order does unfinished)

omit [DecidableEq ι] in
/-- **A change that is answered is among those that are there.** -/
theorem mem_changes (change : Query.isChange (texts call) = true)
    (answered : (moment.tasks call).answer?.isSome = true) : call ∈ moment.changes texts := by
  have inside : call ∈ moment.order := by
    by_contra outside
    have waits := consistent.waits call outside
    unfold Task.answer? at answered
    split at answered
    · rename_i payload does
      rw [does] at waits
      cases waits change
    · cases answered
  refine List.mem_filter.mpr ⟨inside, ?_⟩
  rw [hasChanged, change, answered]
  rfl

/-- **A call outside the section may read anything.** -/
theorem giving_read {next : Except Failure String → Task Json}
    (reads : moment.tasks call = .read next) (outcome : Except Failure String) :
    (moment.giving call (next outcome)).Consistent engine vacant texts store := by
  have outside := consistent.notMem_order reads rfl
  have others : ∀ other ∈ moment.order,
      (moment.giving call (next outcome)).tasks other = moment.tasks other :=
    fun _ => giving_tasks_of_mem outside _
  have same : (moment.giving call (next outcome)).changes texts = moment.changes texts :=
    changes_congr rfl others
  constructor
  · intro other member
    rw [others other member]
    exact consistent.ended other member
  · intro other member
    have waits := consistent.waits other member
    by_cases here : other = call
    · subst here
      rw [reads] at waits
      rw [giving_tasks_self]
      exact waits outcome
    · rw [giving_tasks_of_ne moment _ here]
      exact waits
  · intro kept
    unfold KeepsInsertions at kept
    rw [same] at kept
    obtain ⟨carried, keeps, replays, stands⟩ := consistent.serializes kept
    refine ⟨carried, keeps, ?_, same ▸ stands⟩
    rw [same]
    refine replays.congr fun other member => ?_
    rw [others other (List.mem_filter.mp member).1]

/-- **A call that enters the section is served** on what the document stands for then. -/
theorem giving_enter {next : Task Json} (enters : moment.tasks call = .enter next)
    {outcome : Except Failure Json} {after : σ}
    (ends : (next.alone engine.gateway).run moment.state = (outcome, after)) :
    (moment.served call outcome after).Consistent engine vacant texts store := by
  have outside := consistent.notMem_order enters rfl
  have waits := consistent.waits_of_unfinished enters rfl
  constructor
  · intro other member
    rcases List.mem_append.mp member with before | last
    · rw [served_tasks_of_mem outside outcome after before]
      exact consistent.ended other before
    · obtain rfl := List.mem_singleton.mp last
      exact ⟨outcome, served_tasks_self moment other outcome after⟩
  · intro other member
    have before : other ∉ moment.order := fun inside => member (List.mem_append_left _ inside)
    have different : other ≠ call := by
      rintro rfl
      exact member (List.mem_append_right _ List.mem_cons_self)
    have waits := consistent.waits other before
    rw [← giving_tasks_of_ne moment (.done outcome) different] at waits
    exact waits
  · intro kept
    unfold KeepsInsertions at kept
    rw [changes_served outside] at kept
    have before := consistent.serializes fun other member =>
      kept other (List.mem_append_left _ member)
    refine before.served outside waits.2 ends fun change isOk => ?_
    rw [if_pos ⟨change, isOk⟩] at kept
    exact kept call (List.mem_append_right _ List.mem_cons_self)

end Consistent

/-! ### Every turn -/

namespace IsSound

variable (sound : moment.IsSound engine vacant texts store)
include sound

/-- A turn of the call in the section. -/
theorem turn_inside {depth : Nat} (holds : moment.holder = some (call, depth)) :
    (moment.turn engine.gateway call).IsSound engine vacant texts store := by
  obtain ⟨entered, member, balanced⟩ := sound.inside call depth holds
  rcases turn_of_holder engine.gateway holds entered balanced with
    ⟨task, state, next, turns, same, stays, balancedNext⟩ | ⟨outcome, does, turns⟩
  · rw [turns]
    constructor
    · intro other depth' here
      cases here
      refine ⟨stays, member, ?_⟩
      dsimp only
      rw [giving_tasks_self]
      exact balancedNext
    · rw [settled_giving holds same]
      exact sound.consistent
  · have ends : ((moment.tasks call).alone engine.gateway).run moment.state =
        (outcome, moment.state) := by
      rw [does]
      exact Task.run_alone_done engine.gateway outcome moment.state
    have consistent := sound.consistent
    rw [settled_of_holder holds ends] at consistent
    rw [turns]
    exact ⟨fun _ _ => nofun, consistent⟩

/-- A call in the section has not ended. -/
theorem holder_eq_none (finished : ∀ call ∈ moment.order, (moment.tasks call).isDone = true) :
    moment.holder = none := by
  by_contra held
  obtain ⟨⟨call, depth⟩, holds⟩ := Option.ne_none_iff_exists'.mp held
  obtain ⟨entered, member, balanced⟩ := sound.inside call depth holds
  have done := finished call member
  cases does : moment.tasks call with
  | done outcome =>
    rw [does] at balanced
    exact absurd (show depth = 0 from balanced) (Nat.pos_iff_ne_zero.mp entered)
  | _ =>
    rw [does] at done
    cases done

variable (faithful : engine.gateway.IsFaithful)
include faithful

/-- A turn of a call while no call is in the section. -/
theorem turn_free (free : moment.holder = none) :
    (moment.turn engine.gateway call).IsSound engine vacant texts store := by
  have consistent := sound.consistent
  rw [settled_of_free _ free] at consistent
  cases does : moment.tasks call with
  | done outcome =>
    rw [turn_of_done engine.gateway does]
    exact sound
  | read next =>
    rw [turn_of_read faithful does]
    have read := consistent.giving_read does (engine.gateway.read.run moment.state).1
    constructor
    · intro other depth here
      rw [giving, free] at here
      cases here
    · have still : (moment.giving call (next (engine.gateway.read.run moment.state).1)).holder =
          none := free
      rw [settled_of_free engine.gateway still]
      exact read
  | enter next =>
    have waits := consistent.waits_of_unfinished does rfl
    rcases ends : (next.alone engine.gateway).run moment.state with ⟨outcome, after⟩
    rw [turn_of_enter engine.gateway does free]
    constructor
    · intro other depth here
      cases here
      refine ⟨Nat.one_pos, List.mem_append_right _ List.mem_cons_self, ?_⟩
      dsimp only
      rw [giving_tasks_self]
      exact waits.1
    · rw [settled_entered free ends]
      exact consistent.giving_enter does ends
  | write text next => exact (consistent.waits_of_unfinished does rfl).elim
  | leave next => exact (consistent.waits_of_unfinished does rfl).elim

/-- A turn of a call while another one is in the section. -/
theorem turn_outside {other : ι} {depth : Nat} (holds : moment.holder = some (other, depth))
    (different : call ≠ other) :
    (moment.turn engine.gateway call).IsSound engine vacant texts store := by
  have consistent := sound.consistent
  have same : (moment.settled engine.gateway).tasks call = moment.tasks call := by
    rcases ends : ((moment.tasks other).alone engine.gateway).run moment.state with ⟨outcome, after⟩
    rw [settled_of_holder holds ends]
    exact giving_tasks_of_ne moment (.done outcome) different
  cases does : moment.tasks call with
  | done _ =>
    rw [turn_of_done engine.gateway does]
    exact sound
  | read next =>
    rw [turn_of_read faithful does]
    constructor
    · intro _ _ here
      obtain ⟨entered, member, balanced⟩ := sound.inside other depth holds
      obtain ⟨rfl, rfl⟩ := Prod.ext_iff.mp (Option.some.inj (holds.symm.trans here))
      refine ⟨entered, member, ?_⟩
      rw [giving_tasks_of_ne moment _ different.symm]
      exact balanced
    · rw [settled_giving_of_ne holds different]
      exact consistent.giving_read (same.trans does) _
  | enter next =>
    rw [turn_of_enter_held engine.gateway does holds different]
    exact sound
  | write text next =>
    exact (consistent.waits_of_unfinished (same.trans does) rfl).elim
  | leave next => exact (consistent.waits_of_unfinished (same.trans does) rfl).elim

/-- **Every turn keeps it so.** -/
theorem turn (call : ι) : (moment.turn engine.gateway call).IsSound engine vacant texts store := by
  cases holds : moment.holder with
  | none => exact sound.turn_free faithful holds
  | some holder =>
    obtain ⟨other, depth⟩ := holder
    by_cases same : call = other
    · subst same
      exact sound.turn_inside holds
    · exact sound.turn_outside faithful holds same

/-- **Whatever turns the calls take, it is so at every moment.** -/
theorem run (turns : List ι) :
    (moment.run engine.gateway turns).IsSound engine vacant texts store := by
  induction turns generalizing moment with
  | nil => exact sound
  | cons call later found => exact found (sound.turn faithful call)

end IsSound

/-! ### From the start to the end -/

section Run

variable (faithful : engine.gateway.IsFaithful) (vacancy : engine.gateway.IsVacant vacant)
  (writable : engine.readOnly = false)
include faithful vacancy writable

theorem isSound_start {state : σ} (stands : engine.Stands vacant True state store)
    (kept : IsKept store) : (start engine texts state).IsSound engine vacant texts store where
  inside _ _ := nofun
  consistent := by
    rw [settled_of_free engine.gateway (show (start engine texts state).holder = none from rfl)]
    exact {
      ended := fun _ member => absurd member List.not_mem_nil
      waits := fun call _ => Engine.waits_task faithful vacancy writable (texts call)
      serializes := fun _ =>
        ⟨store, kept, rfl, stands.imp_right fun nothing => ⟨rfl, nothing.2⟩⟩ }

/-- **When all calls have ended, what they have changed is there**: the document stands for what these
changes make in memory, one after the other in the order in which they have entered the section, and
every statement that one of them inserts is there unless a later one removes it. -/
theorem exists_replay_of_run (turns : List ι) {state : σ}
    (stands : engine.Stands vacant True state store) (kept : IsKept store)
    (inserted : ((start engine texts state).run engine.gateway turns).KeepsInsertions texts)
    (finished : ∀ call ∈ turns,
      (((start engine texts state).run engine.gateway turns).tasks call).isDone = true) :
    let last := (start engine texts state).run engine.gateway turns
    ∃ carried,
      Query.Replays texts (fun call => (last.tasks call).answer?) (last.changes texts) store carried ∧
      engine.Stands vacant (last.changes texts = []) last.state carried ∧
      ∀ call, Query.isChange (texts call) = true → (last.tasks call).answer?.isSome = true →
        ∃ before later, last.changes texts = before ++ call :: later ∧
          ∀ statement ∈ Query.insertionsOf (texts call),
            (∀ other ∈ later, Query.removedBy (texts other) statement = false) →
              statement ∈ carried.statements := by
  have begins : (start engine texts state).IsSound engine vacant texts store :=
    isSound_start faithful vacancy writable stands kept
  have sound := begins.run faithful turns
  have free := sound.holder_eq_none fun call member =>
    finished call ((mem_order_run _ member).resolve_left List.not_mem_nil)
  have consistent := sound.consistent
  rw [settled_of_free engine.gateway free] at consistent
  obtain ⟨carried, _, replays, standsLast⟩ := consistent.serializes inserted
  refine ⟨carried, replays, standsLast, fun call change answered => ?_⟩
  obtain ⟨before, later, split⟩ := List.append_of_mem (consistent.mem_changes change answered)
  refine ⟨before, later, split, fun statement added stays => ?_⟩
  rw [split] at replays
  exact replays.mem added stays

end Run

end Moment

/-! ### Calls on a file -/

/-- Nothing is at the place of a path. -/
def IsMissing (path : Path) (disk : Disk) : Prop := disk.node? path.place = none

/-- **No change of a file that is answered is lost**, whatever turns the calls take: the file, which
was missing or could be loaded, stands in the end for what the changes that are answered make in
memory, one after the other in the order in which their calls have entered the section. Every
statement that one of them inserts is there unless a later one removes it. -/
theorem exists_replay_onDisk {ι : Type} [DecidableEq ι] (path : Path) (texts : ι → String)
    (turns : List ι) {disk : Disk} {store : Store}
    (stands : (Engine.onDisk path).Stands (IsMissing path) True disk store) (kept : IsKept store)
    (inserted : ((Moment.start (Engine.onDisk path) texts disk).run (Engine.onDisk path).gateway
      turns).KeepsInsertions texts)
    (finished : ∀ call ∈ turns, (((Moment.start (Engine.onDisk path) texts disk).run
      (Engine.onDisk path).gateway turns).tasks call).isDone = true) :
    let last := (Moment.start (Engine.onDisk path) texts disk).run (Engine.onDisk path).gateway turns
    ∃ carried,
      Query.Replays texts (fun call => (last.tasks call).answer?) (last.changes texts) store carried ∧
      (Engine.onDisk path).Stands (IsMissing path) (last.changes texts = []) last.state carried ∧
      ∀ call, Query.isChange (texts call) = true → (last.tasks call).answer?.isSome = true →
        ∃ before later, last.changes texts = before ++ call :: later ∧
          ∀ statement ∈ Query.insertionsOf (texts call),
            (∀ other ∈ later, Query.removedBy (texts other) statement = false) →
              statement ∈ carried.statements :=
  Moment.exists_replay_of_run (isFaithful_onDisk path) (isVacant_onDisk path) rfl turns stands kept
    inserted finished

/-- A selection and an insertion. -/
def rivalTexts : Fin 2 → String
  | 0 => "SELECT ?nombre WHERE \x7b ?s ?p ?o \x7d"
  | 1 => "INSERT DATA \x7b <a> <b> 'c', 'd' . \x7d"

/-- The selection finds no file; before it can make one the insertion has made it and changed it. -/
def rivalTurns : List (Fin 2) := [0, 1, 1, 1, 1, 0, 1, 1, 1, 1, 0, 0, 0]

theorem exists_replay_of_rivals :
    let last := (Moment.start (Engine.onDisk (Path.ofText "onto.ttl")) rivalTexts Disk.empty).run
      (Engine.onDisk (Path.ofText "onto.ttl")).gateway rivalTurns
    last.changes rivalTexts = [1] ∧ ∃ carried,
      Query.Replays rivalTexts (fun call => (last.tasks call).answer?) (last.changes rivalTexts)
        Store.empty carried ∧
      (Engine.onDisk (Path.ofText "onto.ttl")).Stands (IsMissing (Path.ofText "onto.ttl"))
        (last.changes rivalTexts = []) last.state carried ∧
      ∀ call, Query.isChange (rivalTexts call) = true → (last.tasks call).answer?.isSome = true →
        ∃ before later, last.changes rivalTexts = before ++ call :: later ∧
          ∀ statement ∈ Query.insertionsOf (rivalTexts call),
            (∀ other ∈ later, Query.removedBy (rivalTexts other) statement = false) →
              statement ∈ carried.statements := by
  have missing : IsMissing (Path.ofText "onto.ttl") Disk.empty := by
    unfold IsMissing
    decide +kernel
  have inserted : ∀ call, ∀ statement ∈ Query.insertionsOf (rivalTexts call),
      IsKeptTerm statement.object := by
    decide +kernel
  have ends : let last := (Moment.start (Engine.onDisk (Path.ofText "onto.ttl")) rivalTexts
        Disk.empty).run (Engine.onDisk (Path.ofText "onto.ttl")).gateway rivalTurns
      last.changes rivalTexts = [1] ∧ ∀ call, (last.tasks call).isDone = true := by
    decide +kernel
  exact ⟨ends.1, exists_replay_onDisk _ rivalTexts rivalTurns (.inr ⟨trivial, missing, rfl⟩)
    (fun _ member => absurd member List.not_mem_nil) (fun call _ => inserted call)
    fun call _ => ends.2 call⟩

end HistoricalFigures.Dataset
