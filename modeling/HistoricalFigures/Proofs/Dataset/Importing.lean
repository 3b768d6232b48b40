import HistoricalFigures.Proofs.Dataset.Listing
import HistoricalFigures.Proofs.Figure.Entity

/-!
**An import writes entities up to the first one that is not accepted.** Each query is sent as soon as
the one before it has been accepted, and what was accepted stays.

* `Figure.HasTexts`, `Figure.IsNamed`: entities of texts, and those that can be inserted.
* `Figure.insertions`: the queries that insert entities.
* `Figure.Accepts`, `Figure.Refuses`, `Figure.AcceptsAll`: what becomes of a query and of queries.
* `Figure.run_forM_cases`, `Figure.imported_cases`: what is sent, and how an import ends.
* `Figure.of_imported_ok`, `Figure.of_imported_error`: what has been sent where it ends so.
* `Dataset.left_of_refuses`, `Dataset.load_of_refuses`: a query that is refused leaves the document.
* `Dataset.import_exact_prefix`: an import with any executor, and one on the document in a file.
-/
namespace HistoricalFigures

open Rdf (Store)

namespace Figure

/-! ### The queries of entities -/

/-- An entity whose members are texts or are not there; of its occupations there may be a list. -/
structure HasTexts (entity : Assoc Json) : Prop where
  texts : ∀ name ∈ "id" :: "label" :: "description" :: "imagenReferencia" :: optionalMembers,
    Assoc.get? entity name = none ∨ ∃ text, Assoc.get? entity name = some (.str text)
  occupations : Assoc.get? entity "ocupacion" = none ∨
    (∃ text, Assoc.get? entity "ocupacion" = some (.str text)) ∨
      ∃ texts, Assoc.get? entity "ocupacion" = some (Json.ofTexts texts)

/-- An entity of texts alone. -/
theorem hasTexts_map (entity : Assoc String) :
    HasTexts (entity.map fun (name, text) => (name, .str text)) where
  texts name _ := by
    rw [get?_map Json.str]
    cases Assoc.get? entity name with
    | none => exact .inl rfl
    | some text => exact .inr ⟨text, rfl⟩
  occupations := by
    rw [get?_map Json.str]
    cases Assoc.get? entity "ocupacion" with
    | none => exact .inl rfl
    | some text => exact .inr (.inl ⟨text, rfl⟩)

/-- An entity has an identifier and a label. -/
def IsNamed (entity : Assoc Json) : Prop := memberText entity "id" ≠ "" ∧ memberText entity "label" ≠ ""

/-- The queries that insert entities, those without one left out. -/
def insertions (className : String) (entities : List (Assoc Json)) : List String :=
  entities.filterMap fun entity => (insertQuery? className (.obj entity)).toOption.join

section Entities

variable {entity : Assoc Json}

/-- A member that is a text, or not there, is given if its text is not empty. -/
theorem exists_member (name : String) (isText : Assoc.get? entity name = none ∨
    ∃ text, Assoc.get? entity name = some (.str text)) :
    ∃ value, Json.member name .null (.obj entity) = .ok value ∧
      (value.isTruthy = true ↔ memberText entity name ≠ "") ∧
        (value.isTruthy = true → ∃ text, value = .str text) := by
  rcases isText with absent | ⟨text, found⟩
  · refine ⟨.null, by rw [Json.member, absent]; rfl, ?_, nofun⟩
    rw [memberText, absent]
    exact iff_of_false Bool.false_ne_true fun nonempty => nonempty rfl
  · refine ⟨.str text, by rw [Json.member, found]; rfl, ?_, fun _ => ⟨text, rfl⟩⟩
    rw [memberText, found]
    exact decide_eq_true_iff

/-- The triples of an entity of texts can be built. -/
theorem exists_entityTriples (texts : HasTexts entity) (className id label : String) :
    ∃ triples, entityTriples className (.str id) (.str label) (.obj entity) = .ok triples := by
  have summary : ∃ text, Json.member "description" (.str "") (.obj entity) = .ok (.str text) := by
    rcases texts.texts "description" (by simp) with absent | ⟨text, found⟩
    · exact ⟨"", by rw [Json.member, absent]; rfl⟩
    · exact ⟨text, by rw [Json.member, found]; rfl⟩
  obtain ⟨summary, described⟩ := summary
  have details : (optionalMembers.mapM fun member =>
      optionalTriple (entityUri (Json.str id).shown) member (.obj entity)) =
        .ok (optionalMembers.map fun member =>
          (given entity member).map (factTriple (entityUri (Json.str id).shown))) :=
    mapM_eq_ok fun member among => optionalTriple_eq _ (texts.texts member (by simp [among]))
  have occupied : ((works entity).map Json.str).mapM (Json.textOrEmptyFor .replace) =
      .ok (works entity) := by
    rw [mapM_map_eq_ok (g := fun text => text) fun text _ => textOrEmptyFor_str text, List.map_id']
  have image := optionalTriple_eq (entityUri (Json.str id).shown)
    (texts.texts "imagenReferencia" (by simp))
  rw [entityTriples, textOrEmptyFor_str, ok_bind, described, ok_bind, textOrEmptyFor_str, ok_bind,
    details, ok_bind, occupations_eq texts.occupations, ok_bind, occupied, ok_bind, image, ok_bind]
  exact ⟨_, rfl⟩

/-- **An entity of texts has a query exactly if it has an identifier and a label.** -/
theorem exists_insertQuery? (texts : HasTexts entity) (className : String) :
    ∃ found, insertQuery? className (.obj entity) = .ok found ∧
      (found.isSome = true ↔ IsNamed entity) := by
  obtain ⟨id, hasId, idGiven, idText⟩ := exists_member "id" (texts.texts "id" (by simp))
  obtain ⟨label, hasLabel, labelGiven, labelText⟩ :=
    exists_member "label" (texts.texts "label" (by simp))
  rw [insertQuery?, hasId, ok_bind, hasLabel, ok_bind, IsNamed, ← idGiven, ← labelGiven,
    ← Bool.and_eq_true]
  split
  · rename_i both
    obtain ⟨idTruthy, labelTruthy⟩ := Bool.and_eq_true_iff.mp both
    obtain ⟨id, rfl⟩ := idText idTruthy
    obtain ⟨label, rfl⟩ := labelText labelTruthy
    obtain ⟨triples, built⟩ := exists_entityTriples texts className id label
    exact ⟨some (insertQuery triples), by rw [built]; rfl, iff_of_true rfl both⟩
  · rename_i either
    exact ⟨none, rfl, iff_of_false Bool.false_ne_true either⟩

/-- The queries of entities of texts can be built, all before the first one is sent. -/
theorem mapM_insertQuery? {entities : List (Assoc Json)} (texts : ∀ entity ∈ entities, HasTexts entity)
    (className : String) : ∃ found, (entities.map .obj).mapM (insertQuery? className) = .ok found ∧
      found.filterMap (fun query => query) = insertions className entities := by
  refine ⟨entities.map fun entity => (insertQuery? className (.obj entity)).toOption.join,
    mapM_map_eq_ok fun entity member => ?_, List.filterMap_map⟩
  obtain ⟨found, built, _⟩ := exists_insertQuery? (texts entity member) className
  rw [built]
  rfl

end Entities

/-! ### Queries that are accepted or refused -/

section Executors

variable {σ : Type} {execute : Executor σ}

/-- A query is accepted: its answer tells of success. -/
def Accepts (execute : Executor σ) (query : String) (before after : σ) : Prop :=
  ∃ members, (execute query).run before = (.ok (.obj members), after) ∧
    ((Assoc.get? members "success").getD .null).isTruthy = true

/-- A query is refused with a failure: running it fails, or its answer tells of no success but of an
error. -/
def Refuses (execute : Executor σ) (query : String) (before : σ) (failure : Failure) (after : σ) :
    Prop :=
  (execute query).run before = (.error failure, after) ∨
    ∃ members, (execute query).run before = (.ok (.obj members), after) ∧
      ((Assoc.get? members "success").getD .null).isTruthy = false ∧
        failure = .importing (.rejected ((Assoc.get? members "error").getD .null))

/-- Queries are accepted one after the other. -/
inductive AcceptsAll (execute : Executor σ) : σ → List String → σ → Prop
  | nil (state : σ) : AcceptsAll execute state [] state
  | cons {before middle after : σ} {query : String} {later : List String}
      (accepts : Accepts execute query before middle) (rest : AcceptsAll execute middle later after) :
      AcceptsAll execute before (query :: later) after

theorem Accepts.unique {query : String} {before after other : σ}
    (accepts : Accepts execute query before after) (again : Accepts execute query before other) :
    after = other := by
  obtain ⟨_, runs, _⟩ := accepts
  obtain ⟨_, runs', _⟩ := again
  exact congrArg Prod.snd (runs.symm.trans runs')

theorem Refuses.not_accepts {query : String} {before after other : σ} {failure : Failure}
    (refuses : Refuses execute query before failure after) : ¬ Accepts execute query before other := by
  rintro ⟨members, runs, success⟩
  rcases refuses with fails | ⟨members', answers, noSuccess, _⟩
  · cases fails.symm.trans runs
  · cases answers.symm.trans runs
    rw [success] at noSuccess
    cases noSuccess

/-- Where one query is refused not all are accepted. -/
theorem AcceptsAll.not_of_refuses {before middle after last : σ} {accepted later : List String}
    {query : String} {failure : Failure} (accepts : AcceptsAll execute before accepted middle)
    (refuses : Refuses execute query middle failure after) :
    ¬ AcceptsAll execute before (accepted ++ query :: later) last := by
  induction accepts with
  | nil state =>
    intro all
    cases all with
    | cons accepts _ => exact refuses.not_accepts accepts
  | cons here _ found =>
    intro all
    cases all with
    | cons accepts rest =>
      obtain rfl := here.unique accepts
      exact found refuses rest

/-! ### Imports -/

/-- The answers of an executor are objects. -/
def AnswersObjects (execute : Executor σ) : Prop :=
  ∀ query before value after, (execute query).run before = (.ok value, after) →
    ∃ members, value = .obj members

/-- What is noted and what is left. -/
theorem run_noting (execute : Executor σ) (query : String) (sent : List String) (state : σ) :
    (noting execute query).run (sent, state) =
      (((execute query).run state).1, (sent ++ [query], ((execute query).run state).2)) := rfl

/-- **An insertion is sent, and is accepted or refused.** -/
theorem run_insert_cases (objects : AnswersObjects execute) (query : String) (sent : List String)
    (state : σ) :
    (∃ after, Accepts execute query state after ∧
      (insert (noting execute) query).run (sent, state) = (.ok (), (sent ++ [query], after))) ∨
    ∃ failure after, Refuses execute query state failure after ∧
      (insert (noting execute) query).run (sent, state) = (.error failure, (sent ++ [query], after)) := by
  rcases runs : (execute query).run state with ⟨failure | response, after⟩
  · have noted := run_noting execute query sent state
    rw [runs] at noted
    exact .inr ⟨failure, after, .inl runs, Action.run_bind_error noted _⟩
  · obtain ⟨members, rfl⟩ := objects query state response after runs
    have noted := run_noting execute query sent state
    rw [runs] at noted
    have told : (Action.shaped (Json.member "success" .null (.obj members)) :
        Action (List String × σ) Json).run (sent ++ [query], after) =
          (.ok ((Assoc.get? members "success").getD .null), (sent ++ [query], after)) := rfl
    unfold insert
    rw [Action.run_bind_ok noted, Action.run_bind_ok told]
    cases success : ((Assoc.get? members "success").getD .null).isTruthy with
    | true => exact .inl ⟨after, ⟨members, runs, success⟩, rfl⟩
    | false => exact .inr ⟨_, after, .inr ⟨members, runs, success, rfl⟩, rfl⟩

/-- **Insertions are sent up to the first one that is refused.** -/
theorem run_forM_cases (objects : AnswersObjects execute) (queries sent : List String) (state : σ) :
    (∃ last, AcceptsAll execute state queries last ∧
      (queries.forM (insert (noting execute))).run (sent, state) = (.ok (), (sent ++ queries, last))) ∨
    ∃ accepted query later middle failure after, queries = accepted ++ query :: later ∧
      AcceptsAll execute state accepted middle ∧ Refuses execute query middle failure after ∧
        (queries.forM (insert (noting execute))).run (sent, state) =
          (.error failure, (sent ++ (accepted ++ [query]), after)) := by
  induction queries generalizing sent state with
  | nil =>
    refine .inl ⟨state, .nil state, ?_⟩
    rw [List.append_nil]
    rfl
  | cons query queries found =>
    have first : (query :: queries).forM (insert (noting execute)) =
        insert (noting execute) query >>= fun _ => queries.forM (insert (noting execute)) := rfl
    rw [first]
    rcases run_insert_cases objects query sent state with
      ⟨middle, accepts, runs⟩ | ⟨failure, after, refuses, runs⟩
    · rw [Action.run_bind_ok runs]
      rcases found (sent ++ [query]) middle with ⟨last, all, ends⟩ |
        ⟨accepted, refused, later, between, failure, after, rfl, all, refuses, ends⟩
      · refine .inl ⟨last, .cons accepts all, ?_⟩
        rw [ends, List.append_assoc, List.singleton_append]
      · refine .inr ⟨query :: accepted, refused, later, between, failure, after, rfl,
          .cons accepts all, refuses, ?_⟩
        rw [ends, List.append_assoc, List.singleton_append, List.cons_append]
    · refine .inr ⟨[], query, queries, state, failure, after, rfl, .nil state, refuses, ?_⟩
      exact Action.run_bind_error runs _

/-- What an import tells, with the queries that it sends and the state that it leaves. -/
def imported (execute : Executor σ) (className : String) (entities : List (Assoc Json)) (state : σ) :
    Except Failure ImportReport × (List String × σ) :=
  (importEntities (noting execute) className (entities.map .obj)).run ([], state)

/-- **An import ends with the number of its queries, or with the first one that is refused.** -/
theorem imported_cases (objects : AnswersObjects execute) (className : String)
    {entities : List (Assoc Json)} (texts : ∀ entity ∈ entities, HasTexts entity) (state : σ) :
    (∃ last report, AcceptsAll execute state (insertions className entities) last ∧
      report.count = (insertions className entities).length ∧
        imported execute className entities state =
          (.ok report, (insertions className entities, last))) ∨
    ∃ accepted query later middle failure after,
      insertions className entities = accepted ++ query :: later ∧
        AcceptsAll execute state accepted middle ∧ Refuses execute query middle failure after ∧
          imported execute className entities state =
            (.error failure, (accepted ++ [query], after)) := by
  by_cases nothing : entities = []
  · subst nothing
    exact .inl ⟨state, .nothing, .nil state, rfl, rfl⟩
  obtain ⟨found, built, same⟩ := mapM_insertQuery? texts className
  have runs : imported execute className entities state = _ :=
    run_importEntities (by simpa using nothing) built same ([], state)
  rw [runs]
  rcases run_forM_cases objects (insertions className entities) [] state with ⟨last, all, ends⟩ |
    ⟨accepted, query, later, middle, failure, after, split, all, refuses, ends⟩
  · exact .inl ⟨last, .imported _, all, rfl, Action.run_bind_ok ends _⟩
  · exact .inr ⟨accepted, query, later, middle, failure, after, split, all, refuses,
      Action.run_bind_error ends _⟩

/-- An import that ends with a number has sent all of its queries. -/
theorem of_imported_ok (objects : AnswersObjects execute) {className : String}
    {entities : List (Assoc Json)} (texts : ∀ entity ∈ entities, HasTexts entity) {state last : σ}
    {report : ImportReport} {sent : List String}
    (succeeds : imported execute className entities state = (.ok report, (sent, last))) :
    report.count = (insertions className entities).length ∧ sent = insertions className entities ∧
      AcceptsAll execute state (insertions className entities) last := by
  rcases imported_cases objects className texts state with
    ⟨_, _, all, count, ends⟩ | ⟨_, _, _, _, _, _, _, _, _, ends⟩
  · cases ends.symm.trans succeeds
    exact ⟨count, rfl, all⟩
  · cases ends.symm.trans succeeds

/-- An import that fails has sent its queries up to the first one that is refused. -/
theorem of_imported_error (objects : AnswersObjects execute) {className : String}
    {entities : List (Assoc Json)} (texts : ∀ entity ∈ entities, HasTexts entity) {state after : σ}
    {failure : Failure} {sent : List String}
    (fails : imported execute className entities state = (.error failure, (sent, after))) :
    ∃ accepted query later middle, insertions className entities = accepted ++ query :: later ∧
      sent = accepted ++ [query] ∧ AcceptsAll execute state accepted middle ∧
        Refuses execute query middle failure after := by
  rcases imported_cases objects className texts state with
    ⟨_, _, _, _, ends⟩ | ⟨accepted, query, later, middle, _, _, split, all, refuses, ends⟩
  · cases ends.symm.trans fails
  · cases ends.symm.trans fails
    exact ⟨accepted, query, later, middle, split, rfl, all, refuses⟩

/-- **An import ends with a number exactly if all of its queries are accepted.** -/
theorem imported_isOk_iff (objects : AnswersObjects execute) (className : String)
    {entities : List (Assoc Json)} (texts : ∀ entity ∈ entities, HasTexts entity) (state : σ) :
    (∃ report, (imported execute className entities state).1 = .ok report) ↔
      ∃ last, AcceptsAll execute state (insertions className entities) last := by
  rcases ends : imported execute className entities state with ⟨failure | report, sent, after⟩
  · obtain ⟨accepted, query, later, middle, split, _, all, refuses⟩ :=
      of_imported_error objects texts ends
    refine iff_of_false (fun ⟨_, same⟩ => by cases same) fun ⟨last, everything⟩ => ?_
    rw [split] at everything
    exact all.not_of_refuses refuses everything
  · exact iff_of_true ⟨report, rfl⟩ ⟨after, (of_imported_ok objects texts ends).2.2⟩

end Executors

end Figure

/-! ### Imports into a document -/

namespace Dataset

open Figure (AcceptsAll AnswersObjects Refuses imported insertions)

namespace Engine

variable {σ : Type} {engine : Engine σ} {text : String} {state after : σ}

/-- An answer to a query is that of a selection, or it tells of success. -/
theorem answer_cases_of_execute {value : Json}
    (runs : (engine.execute text).run state = (.ok value, after)) :
    ∃ members, value = .obj members ∧ (Query.classify text = .ok .select ∨
      ((Assoc.get? members "success").getD .null).isTruthy = true) := by
  rw [run_execute] at runs
  cases accepts : engine.accepted text with
  | error failure =>
    rw [accepts] at runs
    cases runs
  | ok query =>
    rw [accepts] at runs
    have told := Query.classify_of_parse (parse_of_accepted accepts)
    obtain ⟨namespaces, body⟩ := query
    obtain ⟨store, loaded, _, answers⟩ := Action.eq_ok_of_run_bind runs
    cases body with
    | select projection searchTerm subject =>
      cases answers
      exact ⟨_, rfl, .inl told⟩
    | insert triples =>
      obtain ⟨_, _, _, saves⟩ := Action.eq_ok_of_run_bind answers
      obtain ⟨_, _, _, told⟩ := Action.eq_ok_of_run_bind saves
      cases told
      exact ⟨_, rfl, .inr rfl⟩
    | delete subject predicate object =>
      obtain ⟨_, _, _, told⟩ := Action.eq_ok_of_run_bind answers
      cases told
      exact ⟨_, rfl, .inr rfl⟩

theorem answersObjects_execute (engine : Engine σ) : AnswersObjects engine.execute := by
  intro query before value after runs
  obtain ⟨members, same, _⟩ := answer_cases_of_execute runs
  exact ⟨members, same⟩

/-- A query whose answer tells of no success is told to be a selection. -/
theorem selects_of_refused {members : Assoc Json}
    (answers : (engine.execute text).run state = (.ok (.obj members), after))
    (noSuccess : ((Assoc.get? members "success").getD .null).isTruthy = false) :
    Query.classify text = .ok .select := by
  obtain ⟨_, same, told | success⟩ := answer_cases_of_execute answers
  · exact told
  · cases same
    rw [success] at noSuccess
    cases noSuccess

/-- What is left behind queries that are accepted. -/
theorem after_of_acceptsAll {queries : List String} (all : AcceptsAll engine.execute state queries after) :
    engine.after queries state = after := by
  induction all with
  | nil state => rfl
  | cons accepts _ found =>
    obtain ⟨members, runs, _⟩ := accepts
    rw [Engine.after, runs]
    exact found

/-- Where only reading is allowed a query leaves everything as it is. -/
theorem eq_of_run_execute (faithful : engine.gateway.IsFaithful) (fixed : engine.readOnly = true)
    {outcome : Except Failure Json} (runs : (engine.execute text).run state = (outcome, after)) :
    after = state := by
  have reads : Action.Keeps (fun state => state) engine.gateway.read := faithful.read_state
  have same := keeps_execute fixed reads text state
  rwa [runs] at same

/-- **A query that is refused leaves the statements that are loaded.** -/
theorem load_of_refuses (faithful : engine.gateway.IsFaithful) {failure : Failure} {store : Store}
    (refuses : Refuses engine.execute text state failure after)
    (loads : (engine.load.run state).1 = .ok store) : (engine.load.run after).1 = .ok store := by
  cases fixed : engine.readOnly with
  | true =>
    rcases refuses with fails | ⟨members, answers, _⟩
    · rwa [eq_of_run_execute faithful fixed fails]
    · rwa [eq_of_run_execute faithful fixed answers]
  | false =>
    obtain ⟨document, here, stored⟩ := shows_of_load (Prod.ext loads rfl)
    rcases refuses with fails | ⟨members, answers, noSuccess, _⟩
    · rcases execute_cases faithful fixed ⟨_, here⟩ fails with ⟨_, stays⟩ | ⟨_, _, _, _, done, _⟩
      · exact (load_eq_storeOf stays).trans stored
      · cases done
    · rcases left_execute_of_selects (selects_of_refused answers noSuccess) state with same | same
      · rw [Action.left, answers] at same
        rwa [show after = state from same]
      · rw [Action.left, answers] at same
        rw [show after = Action.left engine.load state from same]
        exact load_left_load faithful fixed loads

end Engine

/-- What a query that is refused leaves of what is on the disk. -/
theorem leaves_of_refuses {path : Path} {readOnly : Bool} {text : String} {disk after : Disk}
    {failure : Failure}
    (refuses : Refuses (Engine.ofFile path readOnly).execute text disk failure after) :
    after = disk ∨ readOnly = false ∧ Prepares path.place disk after := by
  rcases refuses with fails | ⟨members, answers, noSuccess, _⟩
  · have fails : ((Engine.ofFile path readOnly).executeValue (.str text)).run disk =
      (.error failure, after) := fails
    exact prepares_of_executeValue fails
  · have told := Engine.selects_of_refused answers noSuccess
    cases readOnly with
    | true => exact .inl (Engine.eq_of_run_execute (isFaithful_onDisk path) rfl answers)
    | false =>
      rcases Engine.left_execute_of_selects told disk with same | same
      · rw [Action.left, answers] at same
        exact .inl same
      · rw [Action.left, answers] at same
        rw [show after = Action.left (Engine.ofFile path false).load disk from same]
        exact (prepares_left_load path disk).imp_right fun prepares => ⟨rfl, prepares⟩

/-- **An import writes entities up to the first one that is not accepted.** Of entities of texts those
with an identifier and a label have a query. With any executor that answers with objects the queries
are sent in order, up to and with the first one that is refused. The import ends with their number
exactly if all are accepted, and otherwise with the failure of the one that is refused, which is the
error that the executor told where it told of no success. In a file the document is then as it was
behind the queries that were accepted. -/
theorem import_exact_prefix {σ : Type} {execute : Executor σ} (objects : AnswersObjects execute)
    (className : String) {entities : List (Assoc Json)}
    (texts : ∀ entity ∈ entities, Figure.HasTexts entity) (state : σ) :
    (∀ entity ∈ entities, ∃ found, Figure.insertQuery? className (.obj entity) = .ok found ∧
        (found.isSome = true ↔ Figure.IsNamed entity)) ∧
      ((∃ report, (imported execute className entities state).1 = .ok report) ↔
        ∃ last, AcceptsAll execute state (insertions className entities) last) ∧
      (∀ report sent last, imported execute className entities state = (.ok report, (sent, last)) →
        report.count = (insertions className entities).length ∧
          sent = insertions className entities ∧
            AcceptsAll execute state (insertions className entities) last) ∧
      (∀ failure sent after, imported execute className entities state = (.error failure, (sent, after)) →
        ∃ accepted query later middle, insertions className entities = accepted ++ query :: later ∧
          sent = accepted ++ [query] ∧ AcceptsAll execute state accepted middle ∧
            Refuses execute query middle failure after) ∧
      ∀ path readOnly disk failure accepted query after,
        let engine := Engine.ofFile path readOnly
        let middle := engine.after accepted disk
        imported engine.execute className entities disk =
            (.error failure, (accepted ++ [query], after)) →
          (∀ node, middle.nodeAt path.place = .ok node → after.nodeAt path.place = .ok node) ∧
            (after = middle ∨ readOnly = false ∧ Prepares path.place middle after) ∧
              ∀ store, (engine.load.run middle).1 = .ok store →
                (engine.load.run after).1 = .ok store := by
  refine ⟨fun entity member => Figure.exists_insertQuery? (texts entity member) className,
    Figure.imported_isOk_iff objects className texts state,
    fun report sent last runs => Figure.of_imported_ok objects texts runs,
    fun failure sent after runs => Figure.of_imported_error objects texts runs, ?_⟩
  intro path readOnly disk failure accepted query after engine middle runs
  obtain ⟨front, refused, _, between, _, sent, all, refuses⟩ :=
    Figure.of_imported_error (Engine.answersObjects_execute engine) texts runs
  obtain ⟨rfl, last⟩ := List.append_inj' sent rfl
  obtain rfl := List.singleton_inj.mp last
  obtain rfl : middle = between := Engine.after_of_acceptsAll all
  have leaves := leaves_of_refuses refuses
  refine ⟨fun node found => ?_, leaves, fun store loads => ?_⟩
  · rcases leaves with same | ⟨_, prepares⟩
    · rwa [same]
    · exact prepares.nodeAt_eq found
  · exact Engine.load_of_refuses (isFaithful_onDisk path) refuses loads

/-- An executor that has room for one entity. -/
def narrow : Executor Nat := fun _ => do
  let count ← modifyGet fun count => (count, count + 1)
  pure (.obj (if count = 0 then [("success", .bool true)]
    else [("success", .bool false), ("error", .str "no room left")]))

theorem answersObjects_narrow : AnswersObjects narrow := by
  intro query before value after runs
  cases runs
  exact ⟨_, rfl⟩

/-- Four entities, of which the second one has no label. -/
def applicants : List (Assoc Json) :=
  [[("id", "ana"), ("label", "Ana \x22la Grande\x22")], [("id", "nadie"), ("description", "x")],
    [("id", "eva"), ("label", "Eva"), ("ocupacion", "poeta")], [("id", "luz"), ("label", "Luz")]].map
      fun entity => entity.map fun (name, text) => (name, .str text)

/-- The second one of them with a label is refused, and the third one is not sent. -/
theorem import_exact_prefix_of_narrow :
    AnswersObjects narrow ∧ (∀ entity ∈ applicants, Figure.HasTexts entity) ∧
      (insertions Rdf.figureClassName applicants).length = 3 ∧
      ∃ accepted query later middle,
        insertions Rdf.figureClassName applicants = accepted ++ query :: later ∧
          (imported narrow Rdf.figureClassName applicants 0).2.1 = accepted ++ [query] ∧
            AcceptsAll narrow 0 accepted middle ∧ Refuses narrow query middle
              (.importing (.rejected (.str "no room left")))
                (imported narrow Rdf.figureClassName applicants 0).2.2 := by
  have texts : ∀ entity ∈ applicants, Figure.HasTexts entity :=
    List.forall_mem_map.mpr fun entity _ => Figure.hasTexts_map entity
  have fails : (imported narrow Rdf.figureClassName applicants 0).1 =
      .error (.importing (.rejected (.str "no room left"))) := by rfl
  obtain ⟨_, _, _, refused, _⟩ :=
    import_exact_prefix answersObjects_narrow Rdf.figureClassName texts 0
  exact ⟨answersObjects_narrow, texts, by rfl, refused _ _ _ (Prod.ext fails rfl)⟩

end Dataset

end HistoricalFigures
