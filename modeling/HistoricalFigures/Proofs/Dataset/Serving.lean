import HistoricalFigures.Proofs.Dataset.Task
import HistoricalFigures.Proofs.Query.Replay

/-!
**What a query does once it is in the section.** Whatever it has read before, it is then run on what
the document stands for at that time.

* `Engine.Loads`, `Engine.Stands`: what the document stands for, or nothing where it is missing.
* `finds_find`: finding the document, or making it, leaves what it stands for.
* `Engine.Serves`: a task runs a query on what the document stands for.
* `Engine.Waits`, `waits_task`: before it is in the section a query only reads, and there it is served.
-/
namespace HistoricalFigures.Dataset

open Rdf (Store)

/-- The objects of a store are given back as they were. -/
def IsKept (store : Store) : Prop := ∀ statement ∈ store.statements, IsKeptTerm statement.object

namespace Engine

variable {σ : Type} (engine : Engine σ)

/-- A document is read, and it is that of a store. -/
def Loads (state : σ) (store : Store) : Prop :=
  ∃ document, engine.gateway.read.run state = (.ok document, state) ∧ storeOf document = .ok store

variable (vacant : σ → Prop)

/-- What a document stands for: the store that is loaded from it. As long as nothing was changed
there may be no document, which stands for the empty store. -/
def Stands (fresh : Prop) (state : σ) (store : Store) : Prop :=
  engine.Loads state store ∨ fresh ∧ vacant state ∧ store = Store.empty

/-- A task runs the query of a text on what the document stands for: where it fails, or is no change,
the document stands for the same afterwards; a change is answered as in memory, and what it leaves
there can be loaded. -/
def Serves (text : String) (task : Task Json) : Prop :=
  ∀ {fresh : Prop} {state after : σ} {store : Store} {outcome : Except Failure Json},
    engine.Stands vacant fresh state store → IsKept store →
      (task.alone engine.gateway).run state = (outcome, after) →
        match outcome, Query.isChange text with
        | .ok payload, true =>
          (∀ statement ∈ Query.insertionsOf text, IsKeptTerm statement.object) →
            ∃ changed, Query.answerText text store = .ok (payload, changed) ∧ IsKept changed ∧
              engine.Loads after changed
        | _, _ => engine.Stands vacant fresh after store

/-- A task outside the section: it may read whatever is there, and then it enters the section, in
which it stays to its end. A change is not answered without that. -/
def Waits (text : String) : Task Json → Prop
  | .done outcome => Query.isChange text = true → outcome.isOk = false
  | .read next => ∀ outcome, Waits text (next outcome)
  | .enter next => next.Balanced 0 1 ∧ engine.Serves vacant text next
  | .write _ _ => False
  | .leave _ => False

/-- Finding the document gives the one that is there afterwards, or fails and leaves what it stands
for. -/
def Finds (fresh : Prop) (store : Store) : Except Failure String × σ → Prop
  | (.ok document, after) =>
    engine.gateway.read.run after = (.ok document, after) ∧ storeOf document = .ok store
  | (.error _, after) => engine.Stands vacant fresh after store

variable {engine vacant} {fresh : Prop} {state after : σ} {store : Store}

/-- Whether it is found or not, the document stands for the same. -/
theorem Finds.stands {found : Except Failure String × σ} (finds : engine.Finds vacant fresh store found) :
    engine.Stands vacant fresh found.2 store := by
  obtain ⟨failure | document, after⟩ := found
  · exact finds
  · exact .inl ⟨document, finds⟩

section Faithful

variable (faithful : engine.gateway.IsFaithful) (vacancy : engine.gateway.IsVacant vacant)
include faithful vacancy

/-- The document is found where there is one; elsewhere it is what is made there. -/
theorem finds_readOr {otherwise : Action σ String}
    (makes : fresh → vacant state → engine.Finds vacant fresh Store.empty (otherwise.run state))
    (stands : engine.Stands vacant fresh state store) :
    engine.Finds vacant fresh store ((engine.readOr otherwise).run state) := by
  rw [run_readOr faithful]
  rcases stands with ⟨document, reads, stored⟩ | ⟨isFresh, nothing, rfl⟩
  · rw [reads]
    exact ⟨reads, stored⟩
  · have unread := vacancy.read nothing
    split
    · rename_i found
      rw [found] at unread
      cases unread
    · exact makes isFresh nothing
    · exact .inr ⟨isFresh, nothing, rfl⟩

variable (writable : engine.readOnly = false)
include writable

/-- **The document that is made is the empty one where nothing is**, and otherwise the one that has
come in the meantime. -/
theorem finds_bootstrap (stands : engine.Stands vacant fresh state store) :
    engine.Finds vacant fresh store (engine.bootstrap.run state) := by
  have stored : storeOf Turtle.emptyDocument = .ok Store.empty := by
    rw [← written_empty]
    exact storeOf_written_eq_self (fun _ member => absurd member List.not_mem_nil)
      fun _ member => absurd member List.not_mem_nil
  unfold bootstrap
  rw [writable, if_neg Bool.false_ne_true]
  refine finds_readOr faithful vacancy (fun isFresh nothing => ?_) stands
  rw [Action.run_bind]
  rcases writes : (engine.gateway.write Turtle.emptyDocument).run state with ⟨failure | _, made⟩
  · exact .inr ⟨isFresh, vacancy.write nothing writes, rfl⟩
  · exact ⟨faithful.read_written return_notMem_emptyDocument writes, stored⟩

/-- **Finding the document leaves what it stands for.** -/
theorem finds_find (stands : engine.Stands vacant fresh state store) :
    engine.Finds vacant fresh store ((engine.readOr engine.bootstrap).run state) :=
  finds_readOr faithful vacancy
    (fun isFresh nothing =>
      finds_bootstrap faithful vacancy writable (.inr ⟨isFresh, nothing, rfl⟩)) stands

/-! ### Changes -/

/-- A query that is run and is no selection is run on what the document stands for. -/
theorem serves_changeTask {text : String} {query : Query} (parsed : Query.parse text = .ok query)
    (changes : query.body.kind ≠ .select) {task : Task Json}
    (runs : ∀ state, (task.alone engine.gateway).run state = (engine.run query).run state) :
    engine.Serves vacant text task := by
  intro fresh state after store outcome stands kept ends
  have isChange : Query.isChange text = true := by
    rw [Query.isChange, parsed]
    exact decide_eq_true changes
  rw [runs] at ends
  have finds := finds_find faithful vacancy writable stands
  rcases found : (engine.readOr engine.bootstrap).run state with ⟨failure | document, middle⟩
  · rw [found] at finds
    have loads : engine.load.run state = (.error failure, middle) := Action.run_bind_error found _
    unfold Engine.run at ends
    rw [Action.run_bind_error loads] at ends
    cases ends
    exact finds
  · rw [found] at finds
    obtain ⟨_, stored⟩ := finds
    rcases run_cases faithful writable ⟨middle, found⟩ ends with
      ⟨⟨failure, rfl⟩, stays⟩ | ⟨payload, before, changed, rfl, same, answers, leaves⟩
    · exact .inl ⟨document, stays, stored⟩
    · obtain rfl : before = store := Except.ok.inj (same.symm.trans stored)
      rw [isChange]
      intro inserted
      have answered : Query.answerText text before = .ok (payload, changed) := by
        rw [Query.answerText, parsed]
        exact answers
      have keptChanged : IsKept changed := fun statement member =>
        (Query.mem_answerText answered member).elim (kept statement) (inserted statement)
      rw [if_neg changes] at leaves
      exact ⟨changed, answered, keptChanged, written changed, leaves,
        storeOf_written_eq_self (Query.isReadTerm_answer answers (isReadable_of_storeOf stored))
          keptChanged⟩

/-! ### Selections -/

/-- A selection that has found nothing makes the document, and is then answered as it is. -/
theorem waits_bootstrapTask {text : String} (selects : Query.isChange text = false)
    {next : Except Failure String → Except Failure Json} :
    engine.Waits vacant text (engine.bootstrapTask.andThen fun outcome => .done (next outcome)) := by
  have entered : engine.bootstrapTask = Task.within (readOrTask (.write Turtle.emptyDocument
      fun outcome => .done (outcome.map fun _ => Turtle.emptyDocument))) := by
    rw [bootstrapTask, writable, if_neg Bool.false_ne_true]
  have served : engine.Serves vacant text
      (engine.bootstrapTask.andThen fun outcome => .done (next outcome)) := by
    intro fresh state after store outcome stands kept ends
    rw [Task.run_alone_andThen, Task.run_alone_done, run_alone_bootstrapTask] at ends
    have leaves := (finds_bootstrap faithful vacancy writable stands).stands
    rw [(Prod.ext_iff.mp ends).2] at leaves
    rw [selects]
    split
    · cases ‹false = true›
    · exact leaves
  rw [entered] at served ⊢
  exact ⟨((balanced_findTask Nat.one_pos).andThen_leave).andThen fun _ => rfl, served⟩

/-- **Every query that is run waits to be served.** -/
theorem waits_task (text : String) : engine.Waits vacant text (engine.task text) := by
  unfold task
  cases accepts : engine.accepted text with
  | error failure => exact fun _ => rfl
  | ok query =>
    have parsed := parse_of_accepted accepts
    dsimp only
    unfold runTask
    by_cases selects : query.body.kind = .select
    · rw [if_pos selects]
      have noChange : Query.isChange text = false := by
        rw [Query.isChange, parsed]
        exact decide_eq_false (not_not.mpr selects)
      rw [loadTask, Task.andThen_andThen]
      intro outcome
      dsimp only
      split
      · exact waits_bootstrapTask faithful vacancy writable noChange
      · intro change
        rw [noChange] at change
        cases change
    · rw [if_neg selects]
      refine ⟨(engine.balanced_changeTask query Nat.one_pos).andThen_leave,
        serves_changeTask faithful vacancy writable parsed selects fun state => ?_⟩
      have runs := engine.run_alone_runTask query state
      rw [runTask, if_neg selects] at runs
      exact runs

end Faithful

end Engine

end HistoricalFigures.Dataset
