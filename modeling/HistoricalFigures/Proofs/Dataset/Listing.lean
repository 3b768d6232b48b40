import HistoricalFigures.Proofs.Dataset.ReadOnly
import HistoricalFigures.Proofs.Dataset.Runs
import HistoricalFigures.Proofs.Figure.Search
import HistoricalFigures.Proofs.Query.Classification

/-!
**Listing figures writes nothing.** The figures of the ontology are listed by a query of its own, and
those of a query that a user wrote only if that is told to be a selection. What is told to be one is
read as one, and so no more is made than an empty document where none was.

* `Engine.run_execute_of_selects`: a text that is told to be a selection reads the document, or fails.
* `classify_listQuery`: the query of all figures is told to be one.
* `Engine.load_left_load`: what is loaded once is loaded again.
* `noting`: an executor that notes what it is sent.
* `run_fromQuery_of_changes`: a query that is told to be a change is refused and not sent.
* `listing_writes_nothing`: what listing figures leaves.
-/
namespace HistoricalFigures

open HistoricalFigures.Action (FailsOnly keeps_ofExcept keeps_pure left)
open Rdf (Store)

/-! ### The query of all figures -/

namespace Figure

/-- The patterns of the query of all figures that need not hold. -/
def listOptions : List String := ["?persona phb:nombre ?nombre", "?persona phb:resumen ?resumen",
  "?persona phb:fechaNacimiento ?fechaNacimiento",
  "?persona phb:fechaFallecimiento ?fechaFallecimiento",
  "?persona phb:lugarNacimiento ?lugarNacimiento",
  "?persona phb:lugarFallecimiento ?lugarFallecimiento", "?persona phb:nacionalidad ?nacionalidad",
  "?persona phb:ocupacion ?ocupacion", "?persona phb:imagenReferencia ?imagenReferencia"]

/-- The lines of the query of all figures behind the word that selects. -/
def listBack : List String :=
  ["       ?lugarNacimiento ?lugarFallecimiento ?nacionalidad ?ocupacion ?imagenReferencia",
    "WHERE \x7b", "  ?persona rdf:type phb:PersonaHistoricaBoliviana ."] ++
    listOptions.map (fun pattern => "  " ++ Text.optionalClause pattern) ++ ["\x7d"]

theorem listQuery_eq : listQuery = declarations ++ Text.lines (["",
    "SELECT DISTINCT ?persona ?nombre ?resumen ?fechaNacimiento ?fechaFallecimiento"] ++ listBack) :=
  rfl

/-- **The query of all figures mentions no change.** -/
theorem not_mentionsUpdate_listQuery : ¬ Query.MentionsUpdate listQuery := by
  have options : ∀ text ∈ listOptions.map (fun pattern => "  " ++ Text.optionalClause pattern),
      IsQuiet text.toList := by
    unfold listOptions
    simp only [List.map_cons, List.map_nil, List.forall_mem_cons, List.not_mem_nil, false_imp_iff,
      implies_true, and_true, Text.optionalClause, String.toList_append]
    refine ⟨?_, ?_, ?_, ?_, ?_, ?_, ?_, ?_, ?_⟩ <;>
    · rw [Text.toList_of_eq rfl, Text.toList_of_eq rfl, Text.toList_of_eq rfl,
        Text.toList_of_eq rfl]
      exact isQuiet_of_isPlainlyQuiet (by decide)
  have each : ∀ text ∈ ["",
      "SELECT DISTINCT ?persona ?nombre ?resumen ?fechaNacimiento ?fechaFallecimiento"] ++ listBack,
        IsQuiet text.toList := by
    unfold listBack
    simp only [List.forall_mem_append, List.forall_mem_cons, List.not_mem_nil, false_imp_iff,
      implies_true, and_true]
    refine ⟨⟨?_, ?_⟩, ⟨⟨?_, ?_, ?_⟩, options⟩, ?_⟩ <;> exact isQuiet_of_eq rfl (by decide)
  have nothing : IsQuiet [] := isQuiet_of_isPlainlyQuiet (by decide)
  have quiet := isQuiet_declarations (isQuiet_lines each nothing)
  rintro ⟨phrase, tells, inside⟩
  rw [listQuery_eq, String.toList_append] at inside
  rw [List.append_nil] at quiet
  exact quiet.not_isInfix tells inside

theorem isInfix_lines {texts : List String} {text : String} (member : text ∈ texts) :
    text.toList <:+: (Text.lines texts).toList := by
  obtain ⟨before, behind, rfl⟩ := List.append_of_mem member
  rw [toList_lines, List.flatMap_append, List.flatMap_cons]
  exact ((List.prefix_append _ _).trans (List.prefix_append _ _)).isInfix.trans
    List.infix_append_right

/-- **The query of all figures is told to be a selection.** -/
theorem classify_listQuery : Query.classify listQuery = .ok .select := by
  refine Query.classify_of_selects not_mentionsUpdate_listQuery ?_
  rw [Query.isInfix_uppercase_trim_iff (by decide) (by decide) (by decide)]
  have own : Unicode.uppercase "SELECT".toList = "SELECT".toList := by decide
  have word : "SELECT".toList <:+:
      "SELECT DISTINCT ?persona ?nombre ?resumen ?fechaNacimiento ?fechaFallecimiento".toList := by
    rw [Text.toList_of_eq rfl, Text.toList_of_eq rfl]
    exact ⟨[], _, rfl⟩
  have line := isInfix_lines (List.mem_append_left listBack (List.mem_cons_of_mem ""
    (List.mem_singleton_self
      "SELECT DISTINCT ?persona ?nombre ?resumen ?fechaNacimiento ?fechaFallecimiento")))
  rw [← own, listQuery_eq, String.toList_append]
  exact Query.isInfix_uppercase ((word.trans line).trans List.infix_append_right)

end Figure

/-! ### Texts that are told to be selections -/

namespace Dataset

namespace Engine

variable {σ : Type} {engine : Engine σ}

/-- **A text that is told to be a selection only reads the document**, or it is no query. -/
theorem run_execute_of_selects (engine : Engine σ) {text : String}
    (told : Query.classify text = .ok .select) :
    (∃ cause, ∀ state, (engine.execute text).run state = (.error (.query cause), state)) ∨
      ∃ payload : Store → Json, ∀ state, (engine.execute text).run state =
        (engine.load >>= fun store => pure (payload store)).run state := by
  have accepts : engine.accepted text = _ := accepted_of_selects told
  cases parsed : Query.parse text with
  | error cause =>
    refine .inl ⟨cause, fun state => ?_⟩
    rw [run_execute, accepts, parsed]
    rfl
  | ok query =>
    have selects := Query.classify_of_parse parsed
    rw [told] at selects
    obtain ⟨namespaces, body⟩ := query
    cases body with
    | insert triples => cases selects
    | delete subject predicate object => cases selects
    | select projection searchTerm subject =>
      refine .inr ⟨fun store => (Query.select projection searchTerm subject store).toJson,
        fun state => ?_⟩
      rw [run_execute, accepts, parsed]
      rfl

/-- What such a text leaves is what was there, or what loading the document leaves. -/
theorem left_execute_of_selects {text : String} (told : Query.classify text = .ok .select)
    (state : σ) : left (engine.execute text) state = state ∨
      left (engine.execute text) state = left engine.load state := by
  rcases engine.run_execute_of_selects told with ⟨cause, fails⟩ | ⟨payload, reads⟩
  · exact .inl (congrArg Prod.snd (fails state))
  · refine .inr ((congrArg Prod.snd (reads state)).trans ?_)
    exact Action.left_bind _ (fun store => keeps_pure _) state

/-- **What is loaded once is loaded again.** -/
theorem load_left_load (faithful : engine.gateway.IsFaithful) (writable : engine.readOnly = false)
    {state : σ} {store : Store} (loads : (engine.load.run state).1 = .ok store) :
    (engine.load.run (left engine.load state)).1 = .ok store := by
  obtain ⟨document, here, stored⟩ := shows_of_load (Prod.ext loads rfl)
  have reads := read_of_shows faithful writable here
  exact (load_eq_storeOf (shows_of_read faithful reads)).trans stored

end Engine

/-- Loading a document leaves the disk as it was, or with what may be made for the document. -/
theorem prepares_left_load (path : Path) (disk : Disk) :
    left (Engine.ofFile path false).load disk = disk ∨
      Prepares path.place disk (left (Engine.ofFile path false).load disk) := by
  have same : left (Engine.ofFile path false).load disk =
      left ((Engine.ofFile path false).readOr (Engine.ofFile path false).bootstrap) disk :=
    Action.left_bind _ (fun document => keeps_ofExcept id _) disk
  rw [same]
  exact (prepares_of_run_readOr rfl).imp_right And.right

end Dataset

/-! ### Queries that are refused -/

/-- A failure is not about an argument. -/
def Failure.IsNoArgument (failure : Failure) : Prop := ∀ fault, failure ≠ .argument fault

namespace Dataset

theorem isNoArgument_of_storeOf {document : String} {failure : Failure}
    (fails : Engine.storeOf document = .error failure) : failure.IsNoArgument := by
  unfold Engine.storeOf at fails
  split at fails
  · rename_i statements _
    cases ofStatements : Store.ofStatements statements with
    | ok store =>
      rw [ofStatements] at fails
      cases fails
    | error refusal =>
      rw [ofStatements] at fails
      cases fails
      exact nofun
  · split at fails <;> cases fails <;> exact nofun

theorem failsOnly_readDocument (place : Place) :
    FailsOnly Failure.IsNoArgument (readDocument place) := by
  intro disk failure fails
  rw [run_readDocument] at fails
  cases found : disk.octetsAt place with
  | error obstacle =>
    rw [found] at fails
    cases obstacle <;> cases fails <;> exact nofun
  | ok octets =>
    rw [found] at fails
    dsimp only at fails
    cases decoded : Utf8.decodeLines octets with
    | ok text =>
      rw [decoded] at fails
      cases fails
    | error cause =>
      rw [decoded] at fails
      cases fails
      exact nofun

theorem failsOnly_writeDocument (place : Place) (text : String) :
    FailsOnly Failure.IsNoArgument (writeDocument place text) := by
  intro disk failure fails
  rw [run_writeDocument] at fails
  split at fails
  · cases fails
    exact nofun
  · cases replaced : (disk.replaceText place text).2 with
    | ok _ =>
      rw [replaced] at fails
      cases fails
    | error cause =>
      rw [replaced] at fails
      cases fails
      exact nofun

/-- Loading a document fails with nothing about an argument. -/
theorem failsOnly_load (path : Path) (readOnly : Bool) :
    FailsOnly Failure.IsNoArgument (Engine.ofFile path readOnly).load := by
  have readsOr : ∀ {otherwise : Action Disk String}, FailsOnly Failure.IsNoArgument otherwise →
      FailsOnly Failure.IsNoArgument ((Engine.ofFile path readOnly).readOr otherwise) := by
    intro otherwise other
    refine (failsOnly_readDocument path.place).tryCatch fun failure given => ?_
    split
    · exact other
    · exact Action.failsOnly_throw given
  have bootstraps : FailsOnly Failure.IsNoArgument (Engine.ofFile path readOnly).bootstrap := by
    unfold Engine.bootstrap
    split
    · exact Action.failsOnly_pure _
    · exact readsOr ((failsOnly_writeDocument path.place _).bind fun _ => Action.failsOnly_pure _)
  exact (readsOr bootstraps).bind fun document =>
    Action.failsOnly_ofExcept fun failure fails => isNoArgument_of_storeOf fails

/-- A text that is told to be a selection fails with nothing about an argument. -/
theorem failsOnly_execute_of_selects (path : Path) (readOnly : Bool) {text : String}
    (told : Query.classify text = .ok .select) :
    FailsOnly Failure.IsNoArgument ((Engine.ofFile path readOnly).execute text) := by
  intro disk failure fails
  rcases (Engine.ofFile path readOnly).run_execute_of_selects told with
    ⟨cause, refuses⟩ | ⟨payload, reads⟩
  · rw [refuses] at fails
    cases fails
    exact nofun
  · rw [reads] at fails
    exact (failsOnly_load path readOnly).bind (fun store => Action.failsOnly_pure _) disk failure fails

end Dataset

namespace Figure

variable {σ : Type}

/-- An executor that notes the queries that it is sent. -/
def noting (execute : Executor σ) : Executor (List String × σ) := fun query => do
  modify fun (sent, state) => (sent ++ [query], state)
  (execute query).within Prod.snd fun state noted => (noted.1, state)

/-- The query of all figures is sent, and nothing else is done. -/
theorem left_list (execute : Executor σ) (state : σ) :
    left (list execute) state = left (execute listQuery) state := by
  refine Action.left_bind _ (fun result => ?_) state
  exact (keeps_ofExcept .shape _).bind fun rows => keeps_ofExcept .shape _

/-- A query that is told to be a selection is sent, and nothing else is done. -/
theorem left_fromQuery_of_selects (execute : Executor σ) {query : String}
    (told : Query.classify query = .ok .select) (language : String) (state : σ) :
    left (fromQuery execute query language) state = left (execute query) state := by
  unfold fromQuery
  rw [left, Action.run_bind_ok (Action.run_ofExcept_ok .query told state)]
  refine Action.left_bind _ (fun result => ?_) state
  exact (keeps_ofExcept .shape _).bind fun rows => keeps_ofExcept .shape _

/-- **A query that is told to be a change is refused** before anything is done. -/
theorem run_fromQuery_of_changes (execute : Executor σ) {query : String} {kind : Query.Kind}
    (told : Query.classify query = .ok kind) (changes : kind ≠ .select) (language : String)
    (state : σ) : (fromQuery execute query language).run state =
      (.error (.argument .notSelecting), state) := by
  unfold fromQuery
  rw [Action.run_bind_ok (Action.run_ofExcept_ok .query told state), if_pos changes]
  rfl

/-- A text that is no query is not sent. -/
theorem run_fromQuery_of_error (execute : Executor σ) {query : String} {cause : Query.Error}
    (told : Query.classify query = .error cause) (language : String) (state : σ) :
    (fromQuery execute query language).run state = (.error (.query cause), state) := by
  unfold fromQuery
  rw [told]
  rfl

/-- **A query is refused only if it is told to be a change**, where the executor itself fails with
nothing about an argument. -/
theorem changes_of_notSelecting {execute : Executor σ} {query language : String} {state : σ}
    (others : Query.classify query = .ok .select → FailsOnly Failure.IsNoArgument (execute query))
    (refused : ((fromQuery execute query language).run state).1 =
      .error (.argument .notSelecting)) :
    ∃ kind, Query.classify query = .ok kind ∧ kind ≠ .select := by
  cases told : Query.classify query with
  | error cause =>
    rw [run_fromQuery_of_error execute told] at refused
    cases refused
  | ok kind =>
    refine ⟨kind, rfl, ?_⟩
    rintro rfl
    have reads : FailsOnly Failure.IsNoArgument (execute query >>= fun result =>
        Action.shaped (rowsOf result) >>= fun rows => Action.shaped (rows.mapM (ofFreeRow language))) :=
      (others told).bind fun result => (Action.failsOnly_ofExcept fun _ _ => nofun).bind
        fun rows => Action.failsOnly_ofExcept fun _ _ => nofun
    unfold fromQuery at refused
    rw [Action.run_bind_ok (Action.run_ofExcept_ok .query told state)] at refused
    exact reads state _ refused _ rfl

end Figure

/-! ### What listing leaves -/

namespace Dataset

/-- What listing figures leaves is what was there, or what loading the document leaves. -/
theorem after_listing {σ : Type} (engine : Engine σ) (query language : String) (state : σ) :
    ∀ call ∈ [Call.list, .fromQuery query language],
      call.after engine state = state ∨ call.after engine state = left engine.load state := by
  rw [List.forall_mem_cons, List.forall_mem_singleton]
  constructor
  · rw [Call.after, Figure.left_list]
    exact Engine.left_execute_of_selects Figure.classify_listQuery state
  · rw [Call.after]
    cases told : Query.classify query with
    | error cause =>
      exact .inl (congrArg Prod.snd (Figure.run_fromQuery_of_error _ told language state))
    | ok kind =>
      by_cases selects : kind = .select
      · subst selects
        rw [Figure.left_fromQuery_of_selects _ told]
        exact Engine.left_execute_of_selects told state
      · exact .inl (congrArg Prod.snd (Figure.run_fromQuery_of_changes _ told selects language state))

/-- **Listing figures writes nothing**, whatever the query of the user says and whether it is answered
or not: what is found at the path stays, no more is made than the empty document where none is found,
and the statements that are loaded before are loaded afterwards. A query that is refused because it
does not select is not sent. -/
theorem listing_writes_nothing (path : Path) (query language : String) (disk : Disk) :
    let engine := Engine.ofFile path false
    (∀ call ∈ [Call.list, .fromQuery query language],
      (∀ node, disk.nodeAt path.place = .ok node →
          (call.after engine disk).nodeAt path.place = .ok node) ∧
        (call.after engine disk = disk ∨ Prepares path.place disk (call.after engine disk)) ∧
          ∀ store, (engine.load.run disk).1 = .ok store →
            (engine.load.run (call.after engine disk)).1 = .ok store) ∧
      (((Figure.fromQuery engine.execute query language).run disk).1 =
          .error (.argument .notSelecting) →
        ∀ sent, (Figure.fromQuery (Figure.noting engine.execute) query language).run (sent, disk) =
          (.error (.argument .notSelecting), (sent, disk))) := by
  intro engine
  have faithful : engine.gateway.IsFaithful := isFaithful_onDisk path
  refine ⟨fun call member => ?_, fun refused sent => ?_⟩
  · have leaves : call.after engine disk = disk ∨
        Prepares path.place disk (call.after engine disk) := by
      rcases after_listing engine query language disk call member with same | same
      · exact .inl same
      · rw [same]
        exact prepares_left_load path disk
    refine ⟨fun node found => ?_, leaves, fun store loads => ?_⟩
    · rcases leaves with same | prepares
      · rw [same]
        exact found
      · exact prepares.nodeAt_eq found
    · rcases after_listing engine query language disk call member with same | same
      · rw [same]
        exact loads
      · rw [same]
        exact Engine.load_left_load faithful rfl loads
  · obtain ⟨kind, told, changes⟩ :=
      Figure.changes_of_notSelecting (failsOnly_execute_of_selects path false) refused
    exact Figure.run_fromQuery_of_changes _ told changes language (sent, disk)

/-- A deletion that names a selection in a literal. -/
def deletionNamingSelection : String := "DELETE WHERE \x7b ?s ?p \x22SELECT ?s\x22 \x7d"

theorem classify_deletionNamingSelection : Query.classify deletionNamingSelection = .ok .delete :=
  eq_ok_of_toOption (by decide +kernel)

/-- Such a deletion is refused and not sent, and the figures of a file are loaded as before. -/
theorem listing_writes_nothing_of_namesakes :
    let engine := Engine.ofFile (Path.ofText "onto.ttl") false
    (∀ call ∈ [Call.list, .fromQuery deletionNamingSelection "es"],
      (engine.load.run (call.after engine Figure.namesakesFile)).1 = .ok Figure.namesakes) ∧
      (Figure.fromQuery (Figure.noting engine.execute) deletionNamingSelection "es").run
          ([], Figure.namesakesFile) =
        (.error (.argument .notSelecting), ([], Figure.namesakesFile)) := by
  intro engine
  have refused := Figure.run_fromQuery_of_changes engine.execute classify_deletionNamingSelection
    (by decide) "es" Figure.namesakesFile
  obtain ⟨listed, unsent⟩ := listing_writes_nothing (Path.ofText "onto.ttl") deletionNamingSelection
    "es" Figure.namesakesFile
  exact ⟨fun call member => (listed call member).2.2 _ (congrArg Prod.fst Figure.load_namesakesFile),
    unsent (congrArg Prod.fst refused) []⟩

end Dataset

end HistoricalFigures
