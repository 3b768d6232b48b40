import HistoricalFigures.Proofs.Dataset.Document
import HistoricalFigures.Proofs.Dataset.Gateway
import HistoricalFigures.Proofs.Query.Kind

/-!
**What one query does to a document.** Nothing is kept between two queries but the document, so all
that can be said of a query is said of the document before and after it.

* `accepted`: the query of a text, or why it is not run.
* `run_execute_select`: a selection is answered from the store that is loaded.
* `Shows`: the document that queries are run on.
* `load_eq_storeOf`: the store that is loaded is that of the document.
* `execute_cases`: a query fails and the document stays, or it has the answer that it has in memory
  and the document is that of the store in memory, if it changes anything.
-/
namespace HistoricalFigures.Dataset

open Rdf (Store)

namespace Engine

variable {σ : Type} {engine : Engine σ} {state after : σ} {document : String}

/-! ### Queries that are run -/

/-- The query of a text, or why it is not run. -/
def accepted (engine : Engine σ) (text : String) : Except Failure Query :=
  if text.toList.all Unicode.isBlank then .error (.request .noQuery)
  else
    match Query.classify text with
    | .error cause => .error (.query cause)
    | .ok kind =>
      if kind ≠ .select ∧ engine.readOnly then .error .readOnly
      else (Query.parse text).mapError .query

/-- A query that is run is the one that the text writes. -/
theorem parse_of_accepted {text : String} {query : Query} (accepts : engine.accepted text = .ok query) :
    Query.parse text = .ok query := by
  unfold accepted at accepts
  split at accepts
  · cases accepts
  · split at accepts
    · cases accepts
    · split at accepts
      · cases accepts
      · exact eq_ok_of_mapError accepts

theorem accepted_of_parse (writable : engine.readOnly = false) {text : String} {query : Query}
    (parsed : Query.parse text = .ok query) : engine.accepted text = .ok query := by
  have told := Query.classify_of_parse parsed
  unfold accepted
  rw [Query.not_blank_of_classify told, if_neg Bool.false_ne_true, told]
  dsimp only
  rw [writable, if_neg (fun forbidden => Bool.false_ne_true forbidden.2), parsed]
  rfl

/-- A text that is told to be a selection is run if it is one, even where only reading is allowed. -/
theorem accepted_of_selects {text : String} (told : Query.classify text = .ok .select) :
    engine.accepted text = (Query.parse text).mapError .query := by
  rw [accepted, Query.not_blank_of_classify told, if_neg Bool.false_ne_true, told]
  exact if_neg fun forbidden => forbidden.1 rfl

/-- A text that is no query changes nothing; one that is a query is run. -/
theorem run_execute (engine : Engine σ) (text : String) (state : σ) :
    (engine.execute text).run state =
      match engine.accepted text with
      | .error failure => (.error failure, state)
      | .ok query => (engine.run query).run state := by
  unfold execute accepted
  split
  · rfl
  · dsimp only
    cases classified : Query.classify text with
    | error cause => rfl
    | ok kind =>
      rw [Action.run_bind_ok (Action.run_ofExcept_ok .query rfl state)]
      by_cases forbidden : kind ≠ .select ∧ engine.readOnly = true
      · simp only [if_pos forbidden]
        rfl
      · simp only [if_neg forbidden]
        cases Query.parse text <;> rfl

/-- **A query is answered as in memory**, and what it leaves is saved if it changes anything. -/
theorem run_run {query : Query} {store : Store}
    (loads : engine.load.run state = (.ok store, after)) :
    (engine.run query).run state =
      match query.answer store with
      | .error failure => (.error failure, after)
      | .ok (payload, changed) =>
        if query.body.kind = .select then (.ok payload, after)
        else (engine.save changed >>= fun _ => pure payload).run after := by
  obtain ⟨namespaces, body⟩ := query
  unfold Engine.run Query.answer
  rw [Action.run_bind_ok loads]
  cases body with
  | select projection searchTerm subject => rfl
  | insert triples =>
    dsimp only
    rcases Query.insertTriples namespaces triples store with ⟨changed, _ | statements⟩ <;> rfl
  | delete subject predicate object => rfl

/-- **A selection is answered from the store that is loaded**, and nothing is saved. -/
theorem run_execute_select {text : String} {namespaces : Rdf.Namespaces} {projection : List String}
    {searchTerm : String} {subject : Option String} {store : Store}
    (parsed : Query.parse text = .ok ⟨namespaces, .select projection searchTerm subject⟩)
    (loads : engine.load.run state = (.ok store, after)) :
    (engine.execute text).run state =
      (.ok (Query.select projection searchTerm subject store).toJson, after) := by
  rw [run_execute, accepted_of_selects (Query.classify_of_parse parsed), parsed]
  exact run_run loads

/-! ### Documents that are shown -/

/-- The document that queries are run on: what is read, or what becomes the document where nothing
is. -/
def Shows (engine : Engine σ) (state : σ) (document : String) : Prop :=
  ∃ after, (engine.readOr engine.bootstrap).run state = (.ok document, after)

/-- What is loaded is the store of the document. -/
theorem run_load (shows_ : (engine.readOr engine.bootstrap).run state = (.ok document, after)) :
    engine.load.run state = (storeOf document, after) := by
  unfold load
  rw [Action.run_bind_ok shows_]
  cases storeOf document <;> rfl

/-- **The store that is loaded is that of the document.** -/
theorem load_eq_storeOf (shows_ : engine.Shows state document) :
    (engine.load.run state).1 = storeOf document := by
  obtain ⟨after, here⟩ := shows_
  rw [run_load here]

theorem shows_of_load {store : Store} (loads : engine.load.run state = (.ok store, after)) :
    ∃ document, (engine.readOr engine.bootstrap).run state = (.ok document, after) ∧
      storeOf document = .ok store := by
  obtain ⟨document, middle, shows_, rest⟩ := Action.eq_ok_of_run_bind loads
  have whole := run_load shows_
  rw [loads] at whole
  obtain ⟨found, rfl⟩ := Prod.ext_iff.mp whole
  exact ⟨document, shows_, found.symm⟩

section Faithful

variable (faithful : engine.gateway.IsFaithful)
include faithful

theorem run_readOr (otherwise : Action σ String) (state : σ) :
    (engine.readOr otherwise).run state =
      match (engine.gateway.read.run state).1 with
      | .ok document => (.ok document, state)
      | .error (.dataset .missing) => otherwise.run state
      | .error failure => (.error failure, state) := by
  have same := faithful.read_state state
  unfold readOr
  rw [Action.run_tryCatch]
  generalize engine.gateway.read.run state = found at same
  obtain ⟨outcome, left⟩ := found
  obtain rfl : left = state := same
  rcases outcome with failure | document
  · cases failure
    case dataset fault => cases fault <;> rfl
    all_goals rfl
  · rfl

theorem shows_of_read (reads : engine.gateway.read.run state = (.ok document, state)) :
    engine.Shows state document :=
  ⟨state, by rw [run_readOr faithful, reads]⟩

/-- What a store that is saved leaves: its document, or the one before where that fails. -/
theorem save_cases {store : Store} (readable : IsReadable store)
    (reads : engine.gateway.read.run state = (.ok document, state)) {outcome : Except Failure Unit}
    (saves : (engine.save store).run state = (outcome, after)) :
    engine.gateway.read.run after =
      (.ok (match outcome with | .ok _ => written store | .error _ => document), after) := by
  cases outcome with
  | ok _ => exact faithful.read_written (return_notMem_written readable) saves
  | error failure => exact faithful.read_kept saves reads

section Writable

variable (writable : engine.readOnly = false)
include writable

/-- **A document that is shown can be read afterwards.** -/
theorem read_of_shows (shows_ : (engine.readOr engine.bootstrap).run state = (.ok document, after)) :
    engine.gateway.read.run after = (.ok document, after) := by
  have readHere : ∀ {outcome}, (engine.gateway.read.run state).1 = outcome →
      engine.gateway.read.run state = (outcome, state) :=
    fun found => Prod.ext found (faithful.read_state state)
  rw [run_readOr faithful] at shows_
  split at shows_
  · rename_i found
    cases shows_
    exact readHere found
  · rename_i absent
    unfold bootstrap at shows_
    rw [writable, if_neg Bool.false_ne_true, run_readOr faithful, absent] at shows_
    obtain ⟨_, middle, writes, rest⟩ := Action.eq_ok_of_run_bind shows_
    obtain ⟨value, rfl⟩ := Prod.ext_iff.mp rest
    have same : Turtle.emptyDocument = document := Except.ok.inj value
    subst same
    exact faithful.read_written return_notMem_emptyDocument writes
  · cases shows_

/-- A query that is run fails and the document stays, or it is answered as in memory. The document
can be read afterwards. -/
theorem run_cases (shows_ : engine.Shows state document) {query : Query}
    {outcome : Except Failure Json} (runs : (engine.run query).run state = (outcome, after)) :
    (∃ failure, outcome = .error failure) ∧ engine.gateway.read.run after = (.ok document, after) ∨
      ∃ payload store changed, outcome = .ok payload ∧ storeOf document = .ok store ∧
        query.answer store = .ok (payload, changed) ∧
          engine.gateway.read.run after =
            (.ok (if query.body.kind = .select then document else written changed), after) := by
  obtain ⟨loaded, here⟩ := shows_
  have reads := read_of_shows faithful writable here
  have loads := run_load here
  cases stored : storeOf document with
  | error failure =>
    rw [stored] at loads
    unfold Engine.run at runs
    rw [Action.run_bind_error loads] at runs
    cases runs
    exact .inl ⟨⟨failure, rfl⟩, reads⟩
  | ok store =>
    rw [stored] at loads
    rw [run_run loads] at runs
    cases answers : query.answer store with
    | error failure =>
      rw [answers] at runs
      cases runs
      exact .inl ⟨⟨failure, rfl⟩, reads⟩
    | ok answered =>
      obtain ⟨payload, changed⟩ := answered
      rw [answers] at runs
      dsimp only at runs
      by_cases selects : query.body.kind = .select
      · rw [if_pos selects] at runs
        cases runs
        refine .inr ⟨payload, store, changed, rfl, rfl, answers, ?_⟩
        rw [if_pos selects]
        exact reads
      · rw [if_neg selects, Action.run_bind] at runs
        -- What was read and what is inserted can be written, and then it is read back.
        have readable := Query.isReadTerm_answer answers (isReadable_of_storeOf stored)
        rcases saves : (engine.save changed).run loaded with ⟨saved, left⟩
        have leaves := save_cases faithful readable reads saves
        rw [saves] at runs
        cases saved with
        | error failure =>
          cases runs
          exact .inl ⟨⟨failure, rfl⟩, leaves⟩
        | ok _ =>
          cases runs
          refine .inr ⟨payload, store, changed, rfl, rfl, answers, ?_⟩
          rw [if_neg selects]
          exact leaves

/-- **A query fails and the document stays, or it is answered as in memory** and the document is that
of the store in memory, if the query changes anything. -/
theorem execute_cases (shows_ : engine.Shows state document) {text : String}
    {outcome : Except Failure Json} (runs : (engine.execute text).run state = (outcome, after)) :
    (∃ failure, outcome = .error failure) ∧ engine.Shows after document ∨
      ∃ payload store query changed, outcome = .ok payload ∧ storeOf document = .ok store ∧
        Query.parse text = .ok query ∧ query.answer store = .ok (payload, changed) ∧
          engine.Shows after (if query.body.kind = .select then document else written changed) := by
  rw [run_execute] at runs
  cases accepts : engine.accepted text with
  | error failure =>
    rw [accepts] at runs
    cases runs
    exact .inl ⟨⟨failure, rfl⟩, shows_⟩
  | ok query =>
    rw [accepts] at runs
    rcases run_cases faithful writable shows_ runs with
      ⟨fails, stays⟩ | ⟨payload, store, changed, done, stored, answers, leaves⟩
    · exact .inl ⟨fails, shows_of_read faithful stays⟩
    · exact .inr ⟨payload, store, query, changed, done, stored, parse_of_accepted accepts, answers,
        shows_of_read faithful leaves⟩

end Writable

end Faithful

end Engine

end HistoricalFigures.Dataset
