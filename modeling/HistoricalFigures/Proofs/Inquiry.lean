import HistoricalFigures.Command.Run
import HistoricalFigures.Proofs.Dataset.Runs
import HistoricalFigures.Proofs.Dataset.Within
import HistoricalFigures.Proofs.Dbpedia.Search
import HistoricalFigures.Proofs.Figure.QueryText

/-!
**What searching and describing do to an ontology.** The text of the user becomes a part of a query,
and the kind of that query is told by phrases that may stand anywhere in it.

* `Inquiry`: a search, a search of DBpedia and the ontology, and a description.
* `disk_after`: an inquiry does to the files what its query does.
* `load_after_eq_iff`: the ontology stays as it is unless the text of the user mentions a change and
  its query is run as one that changes the statements.
-/
namespace HistoricalFigures

open HistoricalFigures.Action (Keeps)
open Dataset (Engine written)
open Dataset.Engine (storeOf)
open Rdf (Store)

/-- Queries on the document in the file at a path of the world, which they may change. -/
def Dataset.Engine.inWorld (path : Path) : Engine World :=
  (Engine.onDisk path).within World.disk fun disk world => { world with disk := disk }

/-- The engine of settings that allow changes. -/
theorem Command.engineOf_eq_inWorld {settings : Settings} (writable : settings.readOnly = false) :
    engineOf settings = Engine.inWorld (Path.ofText settings.datasetPath) := by
  rw [engineOf, writable]
  rfl

theorem World.isPart_disk :
    Action.IsPart World.disk fun disk world => { world with disk := disk } where
  found _ _ := rfl
  last _ _ _ := rfl
  same _ := rfl

/-- What is asked of an ontology that is not meant to be changed. -/
inductive Inquiry where
  | search (term : String)
  /-- A search of DBpedia and of the ontology. -/
  | federated (order : Dbpedia.Search)
  | describe (uri : String)

namespace Inquiry

/-- The text of the user as it is put into the query. -/
def spliced : Inquiry → String
  | search term => Literal.escapeLiteral (Literal.searchForm term)
  | federated order => Literal.escapeLiteral (Literal.searchForm order.term)
  | describe uri => uri

/-- The query that is run on the ontology. -/
def query : Inquiry → String
  | search term => Figure.searchQuery (search term).spliced
  | federated order => Figure.searchQuery (federated order).spliced
  | describe uri => Figure.describeQuery (describe uri).spliced

/-- What an inquiry leaves, whether it succeeds or not. -/
def after (execute : Executor World) (world : World) : Inquiry → World
  | search term => ((Figure.search execute term).run world).2
  | federated order => ((Federated.search (some execute) order).run world).2
  | describe uri => ((Figure.describe execute uri).run world).2

/-- **The query of an inquiry mentions a change only if the text of the user does.** -/
theorem mentionsUpdate_of_query {inquiry : Inquiry}
    (mentions : Query.MentionsUpdate inquiry.query) : Query.MentionsUpdate inquiry.spliced := by
  cases inquiry with
  | search term => exact Figure.mentionsUpdate_of_searchQuery mentions
  | federated order => exact Figure.mentionsUpdate_of_searchQuery mentions
  | describe uri => exact Figure.mentionsUpdate_of_describeQuery mentions

/-! ### The files behind an inquiry -/

section State

variable {σ ρ : Type} (part : σ → ρ)

theorem part_search (execute : Executor σ) (term : String) (state : σ) :
    part ((Figure.search execute term).run state).2 =
      part ((execute (search term).query).run state).2 := by
  refine Action.part_run_bind _ (fun result => ?_) state
  refine (Action.keeps_ofExcept .shape _).bind fun rows => ?_
  exact (Action.keeps_ofExcept .shape _).bind fun figures => Action.keeps_pure _

theorem part_describe (execute : Executor σ) (uri : String) (state : σ) :
    part ((Figure.describe execute uri).run state).2 =
      part ((execute (describe uri).query).run state).2 := by
  refine Action.part_run_bind _ (fun result => ?_) state
  refine (Action.keeps_ofExcept .shape _).bind fun rows => ?_
  exact (Action.keeps_ofExcept .shape _).bind fun found => Action.keeps_pure _

/-- A source that is searched leaves what searching it leaves, and never fails. -/
theorem run_sourceOf (action : Action σ (List Figure)) (state : σ) :
    ∃ source, (Federated.sourceOf action).run state = (.ok source, (action.run state).2) := by
  unfold Federated.sourceOf
  rw [Action.run_bind_ok (Action.run_attempt action state)]
  cases (action.run state).1 with
  | error failure => exact ⟨_, rfl⟩
  | ok figures => exact ⟨_, rfl⟩

/-- A search of DBpedia and the ontology leaves what the search of the ontology leaves behind that of
DBpedia. -/
theorem run_federated (execute : Executor World) (order : Dbpedia.Search) (world : World) :
    ((Federated.search (some execute) order).run world).2 =
      ((Figure.search execute order.term).run (order.run.run world).2).2 := by
  obtain ⟨dbpedia, first⟩ := run_sourceOf order.run world
  obtain ⟨ontology, second⟩ :=
    run_sourceOf (Figure.search execute order.term) (order.run.run world).2
  unfold Federated.search
  rw [Action.run_bind_ok first]
  dsimp only
  rw [Action.run_bind_ok second]
  rfl

end State

theorem disk_execute (path : Path) (text : String) (world : World) :
    (((Engine.inWorld path).execute text).run world).2.disk =
      (((Engine.onDisk path).execute text).run world.disk).2 := by
  rw [Engine.inWorld, Engine.execute_within World.isPart_disk, Action.run_within]

theorem load_inWorld (path : Path) (world : World) :
    ((Engine.inWorld path).load.run world).1 = ((Engine.onDisk path).load.run world.disk).1 := by
  rw [Engine.inWorld, Engine.load_within World.isPart_disk, Action.run_within]

/-- **An inquiry does to the files what its query does.** -/
theorem disk_after (path : Path) (inquiry : Inquiry) (world : World) :
    (after (Engine.inWorld path).execute world inquiry).disk =
      (((Engine.onDisk path).execute inquiry.query).run world.disk).2 := by
  cases inquiry with
  | search term =>
    rw [after, part_search World.disk, disk_execute]
  | federated order =>
    have searched := order.keeps_run world
    have same : (federated order).query = (search order.term).query := rfl
    rw [after, run_federated, part_search World.disk, disk_execute, searched, same]
  | describe uri =>
    rw [after, part_describe World.disk, disk_execute]

/-! ### Inquiries that change an ontology -/

/-- **An inquiry leaves an ontology as it is exactly if the text of the user mentions no change, or
else what its query saves, if anything, is the same ontology again.** -/
theorem load_after_eq_iff (path : Path) (inquiry : Inquiry) {world : World} {store : Store}
    (loads : ((Engine.inWorld path).load.run world).1 = .ok store) :
    ((Engine.inWorld path).load.run (after (Engine.inWorld path).execute world inquiry)).1 =
        .ok store ↔
      (Query.MentionsUpdate inquiry.spliced →
        ∀ changed ∈ (Engine.onDisk path).saved [inquiry.query] world.disk,
          storeOf (written changed) = .ok store) := by
  rw [load_inWorld] at loads
  rw [load_inWorld, disk_after]
  obtain ⟨document, here, stored⟩ := Engine.shows_of_load (Prod.ext loads rfl)
  have exactly := Engine.load_execute_iff_of_faithful (Dataset.isFaithful_onDisk path) rfl
    inquiry.query ⟨_, here⟩ stored
  -- A query that saves something was read as a change, and so the text of the user mentions one.
  refine exactly.trans ⟨fun each _ => each, fun each changed member => each ?_ changed member⟩
  obtain ⟨_, changes⟩ := Engine.changedBy_of_mem_saved member
  exact mentionsUpdate_of_query (Query.mentionsUpdate_of_changedBy changes)

/-- A search of an empty file. -/
theorem load_after_eq_iff_of_emptyFile :
    ((Engine.inWorld (Path.ofText "onto.ttl")).load.run
        (after (Engine.inWorld (Path.ofText "onto.ttl")).execute (World.ofDisk Dataset.emptyFile)
          (.search "O'Higgins"))).1 = .ok Store.empty ↔
      (Query.MentionsUpdate (search "O'Higgins").spliced →
        ∀ changed ∈ (Engine.onDisk (Path.ofText "onto.ttl")).saved [(search "O'Higgins").query]
          Dataset.emptyFile, storeOf (written changed) = .ok Store.empty) :=
  load_after_eq_iff (Path.ofText "onto.ttl") (.search "O'Higgins")
    ((load_inWorld _ (World.ofDisk Dataset.emptyFile)).trans Dataset.load_emptyFile)

/-- The disk with a file of one statement as its document. -/
def smallFile : Disk := Disk.ofFiles [("onto.ttl", .file (Utf8.encode "<a> <b> <c> .\n"))]

/-- The statement is loaded. -/
theorem load_smallFile : ∃ store,
    ((Engine.onDisk (Path.ofText "onto.ttl")).load.run smallFile).1 = .ok store ∧
      store.statements = [⟨"a", "b", .uri "c"⟩] := by
  have statements : ((Engine.onDisk (Path.ofText "onto.ttl")).load.run smallFile).1.map
      Store.statements = .ok [⟨"a", "b", .uri "c"⟩] := by rfl
  exact eq_ok_of_map statements

/-- **The description of a resource is a removal of everything** if that is what its name says. -/
theorem parse_describeQuery_removal : ∃ namespaces,
    Query.parse (Figure.describeQuery "delete where \x7b ?s ?p ?o \x7d") =
      .ok ⟨namespaces, .delete none none none⟩ := by
  obtain ⟨text, same⟩ :
      ∃ text, text = Figure.describeQuery "delete where \x7b ?s ?p ?o \x7d" := ⟨_, rfl⟩
  have characters := congrArg String.toList same
  rw [← same]
  unfold Figure.describeQuery Figure.declarations Text.lines at characters
  simp only [List.map_cons, List.map_nil, String.toList_join, String.toList_append,
    String.reduceToList, String.reduceAppend, List.flatMap_cons, List.flatMap_nil,
    List.append_nil, List.cons_append, List.nil_append] at characters
  have told : Query.classify text = .ok .delete := by
    unfold Query.classify
    rw [characters, Unicode.uppercase_of_ascii (by decide +kernel)]
    rfl
  refine ⟨_, Query.parse_of_classify told ?_⟩
  rw [characters]
  rfl

/-- **Describing a resource can remove everything**: the file with one statement is empty behind it. -/
theorem load_after_describe_eq_empty : ∃ store,
    ((Engine.inWorld (Path.ofText "onto.ttl")).load.run (World.ofDisk smallFile)).1 = .ok store ∧
      store.statements = [⟨"a", "b", .uri "c"⟩] ∧
        ((Engine.inWorld (Path.ofText "onto.ttl")).load.run
          (after (Engine.inWorld (Path.ofText "onto.ttl")).execute (World.ofDisk smallFile)
            (.describe "delete where \x7b ?s ?p ?o \x7d"))).1 = .ok Store.empty := by
  obtain ⟨store, loads, statements⟩ := load_smallFile
  obtain ⟨namespaces, parsed⟩ := parse_describeQuery_removal
  have saves : (((Engine.onDisk (Path.ofText "onto.ttl")).save Store.empty).run
      ((Engine.onDisk (Path.ofText "onto.ttl")).load.run smallFile).2).1.isOk = true := by
    decide +kernel
  refine ⟨store, (load_inWorld _ _).trans loads, statements, ?_⟩
  rw [load_inWorld, disk_after]
  exact Engine.load_execute_of_removal (Dataset.isFaithful_onDisk _) rfl (Prod.ext loads rfl) parsed
    saves

end Inquiry

end HistoricalFigures
