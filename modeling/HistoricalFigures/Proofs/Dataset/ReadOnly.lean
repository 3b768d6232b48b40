import HistoricalFigures.Proofs.Dataset.Failing
import HistoricalFigures.Proofs.Figure.Service

/-!
**An engine that may only read changes no file**, whatever is asked of it and whatever is found on the
disk.

* `Call`: what can be asked of an ontology through an engine.
* `Engine.keeps_execute`, `keeps_call`: one query, and one call.
* `run_execute_of_changes`: a text that is told to be a change is refused as one.
* `disk_afterCalls`: the disk behind any number of calls.
-/
namespace HistoricalFigures.Dataset

open HistoricalFigures.Action (Keeps keeps_ofExcept keeps_pure keeps_throw)

/-! ### Calls -/

/-- What can be asked of an ontology through an engine. -/
inductive Call where
  /-- A query, which may be no text. -/
  | execute (query : Json)
  /-- A request, which may hold no query. -/
  | handle (body : Json)
  | load
  | search (term : String)
  | list
  | fromQuery (query language : String)
  | describe (uri : String)
  | clear
  | importEntities (className : String) (entities : List Json)

variable {σ : Type}

/-- What a call leaves, whether it succeeds or not. -/
def Call.after (engine : Engine σ) (state : σ) : Call → σ
  | execute query => Action.left (engine.executeValue query) state
  | handle body => Action.left (engine.handle body) state
  | load => Action.left engine.load state
  | search term => Action.left (Figure.search engine.execute term) state
  | list => Action.left (Figure.list engine.execute) state
  | fromQuery query language => Action.left (Figure.fromQuery engine.execute query language) state
  | describe uri => Action.left (Figure.describe engine.execute uri) state
  | clear => Action.left (Figure.clear engine.execute) state
  | importEntities className entities =>
    Action.left (Figure.importEntities engine.execute className entities) state

/-- What calls leave that are made one after the other. -/
def Engine.afterCalls (engine : Engine σ) (calls : List Call) (state : σ) : σ :=
  calls.foldl (Call.after engine) state

/-! ### One call -/

namespace Engine

variable {engine : Engine σ} (readOnly : engine.readOnly = true)
include readOnly

/-- **A text that is told to be a change is refused as one**, whatever else is wrong with it, and
before anything is read. -/
theorem run_execute_of_changes {text : String} {kind : Query.Kind}
    (told : Query.classify text = .ok kind) (changes : kind ≠ .select) (state : σ) :
    (engine.execute text).run state = (.error .readOnly, state) := by
  have refused : engine.accepted text = .error .readOnly := by
    unfold accepted
    rw [Query.not_blank_of_classify told, if_neg Bool.false_ne_true, told]
    exact if_pos ⟨changes, readOnly⟩
  rw [run_execute, refused]

section Reading

variable {ρ : Type} {part : σ → ρ} (reads : Keeps part engine.gateway.read)
include reads

/-- A document that is missing is not made, and so loading changes nothing. -/
theorem keeps_load : Keeps part engine.load := by
  have bootstraps : Keeps part engine.bootstrap := by
    unfold bootstrap
    rw [if_pos readOnly]
    exact keeps_pure _
  refine (reads.tryCatch fun failure => ?_).bind fun document => keeps_ofExcept id _
  split
  · exact bootstraps
  · exact keeps_throw _

/-- **A query changes nothing**: only selections are run. -/
theorem keeps_execute (text : String) : Keeps part (engine.execute text) := by
  intro state
  rw [run_execute]
  cases accepts : engine.accepted text with
  | error failure => rfl
  | ok query =>
    have selects := selects_of_accepted readOnly accepts
    have runs : Keeps part (engine.run query) := by
      refine (keeps_load readOnly reads).bind fun store => ?_
      split
      · exact keeps_pure _
      · rename_i body
        rw [body] at selects
        cases selects
      · rename_i body
        rw [body] at selects
        cases selects
    exact runs state

theorem keeps_executeValue (query : Json) : Keeps part (engine.executeValue query) := by
  cases query with
  | str text => exact keeps_execute readOnly reads text
  | _ => exact keeps_throw _

theorem keeps_handle (body : Json) : Keeps part (engine.handle body) := by
  have answers : Keeps part (engine.answer body) := by
    cases body with
    | obj members => exact keeps_executeValue readOnly reads _
    | _ => exact keeps_throw _
  refine answers.attempt.bind fun outcome => ?_
  cases outcome with
  | error failure => exact keeps_pure _
  | ok payload => exact keeps_pure _

/-- **A call changes nothing.** -/
theorem keeps_call (call : Call) (state : σ) : part (call.after engine state) = part state := by
  have executes := keeps_execute readOnly reads
  cases call with
  | execute query => exact (keeps_executeValue readOnly reads query).left state
  | handle body => exact (keeps_handle readOnly reads body).left state
  | load => exact (keeps_load readOnly reads).left state
  | search term => exact (Figure.keeps_search executes term).left state
  | list => exact (Figure.keeps_list executes).left state
  | fromQuery query language => exact (Figure.keeps_fromQuery executes query language).left state
  | describe uri => exact (Figure.keeps_describe executes uri).left state
  | clear => exact (executes Figure.clearQuery).left state
  | importEntities className entities =>
    exact (Figure.keeps_importEntities executes className entities).left state

/-- **Calls that are made one after the other change nothing.** -/
theorem keeps_calls (calls : List Call) (state : σ) :
    part (engine.afterCalls calls state) = part state := by
  induction calls generalizing state with
  | nil => rfl
  | cons call later found => exact (found _).trans (keeps_call readOnly reads call state)

end Reading

end Engine

/-! ### Documents in files -/

/-- **Behind any number of calls of an engine that may only read the disk is as it was**, whatever is
found on it, and every text that is told to be a change is still refused as one. -/
theorem disk_afterCalls (path : Path) (calls : List Call) (disk : Disk) :
    (Engine.ofFile path true).afterCalls calls disk = disk ∧
      ∀ text kind, Query.classify text = .ok kind → kind ≠ .select →
        ((Engine.ofFile path true).execute text).run
            ((Engine.ofFile path true).afterCalls calls disk) = (.error .readOnly, disk) := by
  have fixed : (Engine.ofFile path true).readOnly = true := rfl
  have faithful : (Engine.ofFile path true).gateway.IsFaithful := isFaithful_onDisk path
  have reads : Keeps (fun state => state) (Engine.ofFile path true).gateway.read :=
    faithful.read_state
  have same : (Engine.ofFile path true).afterCalls calls disk = disk :=
    Engine.keeps_calls fixed reads calls disk
  refine ⟨same, fun text kind told changes => ?_⟩
  rw [same]
  exact Engine.run_execute_of_changes fixed told changes disk

/-- The disk with a file as its document that is none. -/
def brokenFile : Disk := Disk.ofFiles [("data/onto.ttl", .file (Utf8.encode "no document"))]

/-- Every call on a file that is no document, and an insertion without a block. -/
theorem disk_afterCalls_of_brokenFile :
    let engine := Engine.ofFile (Path.ofText "data/onto.ttl") true
    let calls : List Call :=
      [.execute (.int 3), .execute (.str "DELETE WHERE \x7b ?s ?p ?o \x7d"), .handle .null,
        .handle (.obj [("query", .str "INSERT DATA \x7b <a> <b> <c> . \x7d")]), .load,
        .search "insert data", .list, .fromQuery "SELECT * WHERE \x7b \x7d" "es", .describe "a",
        .clear,
        .importEntities "PersonaHistoricaBoliviana" [.obj [("id", .str "P1"), ("label", .str "x")]]]
    engine.afterCalls calls brokenFile = brokenFile ∧
      Query.classify "insert data" = .ok .insert ∧
        (engine.execute "insert data").run (engine.afterCalls calls brokenFile) =
          (.error .readOnly, brokenFile) := by
  intro engine calls
  have told : Query.classify "insert data" = .ok .insert := by rfl
  obtain ⟨same, refused⟩ := disk_afterCalls (Path.ofText "data/onto.ttl") calls brokenFile
  exact ⟨same, told, refused _ _ told (by decide)⟩

end HistoricalFigures.Dataset
