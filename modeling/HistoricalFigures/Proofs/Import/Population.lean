import HistoricalFigures.Import.FromDbpedia
import HistoricalFigures.Proofs.Dataset.Loading
import HistoricalFigures.Proofs.Figure.Addition
import HistoricalFigures.Proofs.Figure.Listed
import HistoricalFigures.Proofs.Figure.Naming

/-!
**An import makes the list longer by the different identifiers of its entities**, which are as many as it
counts exactly if no identifier is repeated.

* `Dataset.storeOf_written_of_free`: what is loaded from the document of a store.
* `Dataset.Engine.Tells`: the instances that a document tells.
* `Dataset.Engine.insert_cases`, `forM_insert_cases`: what one entity adds, and what entities add.
* `Dataset.Engine.importEntities_cases`: how an import ends.
* `Import.list_grows_by_distinct_ids`: the figures that are listed before an import and after it.
-/
namespace HistoricalFigures

open Rdf (Store)

/-! ### Documents of stores -/

/-- Where a statement is read back it tells of the same instance. -/
theorem Rdf.instances_map_reread (statements : List Rdf.Statement) :
    Rdf.instances (statements.map Turtle.reread) = Rdf.instances statements := by
  have named : (statements.map Turtle.reread).filter Rdf.namesFigureClass =
      (statements.filter Rdf.namesFigureClass).map Turtle.reread := List.filter_map
  rw [Rdf.instances, named, List.map_map]
  rfl

namespace Dataset

/-- **What is loaded from the document of a store** are its statements as they are read back. -/
theorem storeOf_written_of_free {store : Store} (readable : IsReadable store) (free : ¬ HasReserved store) :
    ∃ loaded, Engine.storeOf (written store) = .ok loaded ∧
      loaded.statements = (store.statements.map Turtle.reread).eraseDups := by
  have parsed := Turtle.parse_serialize [] Rdf.nodup_defaultNamespaces
    Turtle.isDeclarable_defaultNamespaces readable
    (fun statement member reserved => free ⟨statement, member, reserved⟩)
  obtain ⟨loaded, loads⟩ := exists_storeOf_written readable free
  obtain ⟨statements, parsed', made⟩ := storeOf_eq_ok.mp loads
  obtain rfl := Except.ok.inj (parsed.symm.trans parsed')
  exact ⟨loaded, loads, Store.statements_ofStatements made⟩

namespace Engine

variable {σ : Type}

/-- A document that can be loaded and saved, with the instances that it tells. -/
def Tells (engine : Engine σ) (state : σ) (people : List String) : Prop :=
  ∃ store, (engine.load.run state).1 = .ok store ∧ ¬ HasReserved store ∧
    Rdf.instances store.statements = people

/-- A failure that writing a document ends in, with what it leaves. -/
def FailsWriting (engine : Engine σ) (failure : Failure) (after : σ) : Prop :=
  ∃ text before, (engine.gateway.write text).run before = (.error failure, after)

variable {engine : Engine σ}

/-- **A store that can be saved is told of where its document is shown.** -/
theorem tells_of_shows {state : σ} {store : Store} (readable : IsReadable store)
    (free : ¬ HasReserved store) (shows_ : engine.Shows state (written store)) :
    engine.Tells state (Rdf.instances store.statements) := by
  obtain ⟨loaded, stored, statements⟩ := storeOf_written_of_free readable free
  refine ⟨loaded, (load_eq_storeOf shows_).trans stored, ?_, ?_⟩
  · rintro ⟨statement, member, reserved⟩
    rw [statements, List.mem_eraseDups] at member
    obtain ⟨original, inside, rfl⟩ := List.mem_map.mp member
    exact free ⟨original, inside, reserved⟩
  · rw [statements, Rdf.instances_eraseDups, Rdf.instances_map_reread]

section Growth

variable (faithful : engine.gateway.IsFaithful) (writable : engine.readOnly = false)
include faithful writable

/-- **Inserting an entity adds its address to the instances**, or fails as writing does. -/
theorem insert_cases {entity : Assoc Json} (textual : Figure.IsTextual entity)
    (standard : Figure.IsStandard (Figure.insertQuery (Figure.triples entity)))
    (other : Figure.address entity ≠ Rdf.figureClass) {state : σ} {people : List String}
    (tells : engine.Tells state people) :
    (∃ after, (Figure.insert engine.execute (Figure.insertQuery (Figure.triples entity))).run state =
        (.ok (), after) ∧ engine.Tells after (people ++ [Figure.address entity]).eraseDups) ∨
    ∃ failure after, (Figure.insert engine.execute (Figure.insertQuery (Figure.triples entity))).run
        state = (.error failure, after) ∧ engine.FailsWriting failure after := by
  obtain ⟨store, loads, free, rfl⟩ := tells
  obtain ⟨query, told, parsed, changes, makes, answers⟩ :=
    Figure.exists_parse_insertQuery textual standard
  obtain ⟨changed, answered, statements⟩ := answers store
  obtain ⟨document, here, stored⟩ := shows_of_load (Prod.ext loads rfl)
  have executed : (engine.execute (Figure.insertQuery (Figure.triples entity))).run state =
      (engine.save changed >>= fun _ => pure (.obj [("success", .bool true)])).run
        (engine.load.run state).2 := by
    rw [run_execute, accepted_of_parse writable parsed]
    dsimp only
    rw [run_run (Prod.ext loads rfl), answered]
    exact if_neg changes
  rcases saves : (engine.save changed).run (engine.load.run state).2 with ⟨failure | _, after⟩
  · rw [Action.run_bind_error saves] at executed
    exact .inr ⟨failure, after, Action.run_bind_error executed _, written changed, _, saves⟩
  · rw [Action.run_bind_ok saves] at executed
    refine .inl ⟨after, Action.run_bind_ok executed _, ?_⟩
    have readable := Query.isReadTerm_answer answered (isReadable_of_storeOf stored)
    have unreserved : ¬ HasReserved changed := by
      rintro ⟨statement, member, reserved⟩
      rw [statements, Rdf.mem_joined] at member
      rcases member with old | new
      · exact free ⟨statement, old, reserved⟩
      · exact makes.not_hasReservedTag statement new reserved
    have leaves := save_cases faithful readable (read_of_shows faithful writable here) saves
    have grown := tells_of_shows readable unreserved (shows_of_read faithful leaves)
    rwa [statements, Rdf.instances_joined, makes.instances_eq other] at grown

/-- **Inserting entities adds their addresses to the instances**, or fails as writing does. -/
theorem forM_insert_cases {entities : List (Assoc Json)}
    (textual : ∀ entity ∈ entities, Figure.IsTextual entity)
    (standard : ∀ entity ∈ entities, Figure.IsStandard (Figure.insertQuery (Figure.triples entity)))
    (other : ∀ entity ∈ entities, Figure.address entity ≠ Rdf.figureClass) {state : σ}
    {people : List String} (once : people.Nodup) (tells : engine.Tells state people) :
    let inserts := (entities.map fun entity => Figure.insertQuery (Figure.triples entity)).forM
      (Figure.insert engine.execute)
    (∃ after, inserts.run state = (.ok (), after) ∧
        engine.Tells after (people ++ entities.map Figure.address).eraseDups) ∨
      ∃ failure after, inserts.run state = (.error failure, after) ∧ engine.FailsWriting failure after := by
  induction entities generalizing state people with
  | nil =>
    refine .inl ⟨state, rfl, ?_⟩
    rwa [List.map_nil, List.append_nil, Rdf.eraseDups_of_nodup once]
  | cons entity later found =>
    obtain ⟨textualHere, textualLater⟩ := List.forall_mem_cons.mp textual
    obtain ⟨standardHere, standardLater⟩ := List.forall_mem_cons.mp standard
    obtain ⟨otherHere, otherLater⟩ := List.forall_mem_cons.mp other
    rcases insert_cases faithful writable textualHere standardHere otherHere tells with
      ⟨middle, runs, grown⟩ | ⟨failure, after, runs, writing⟩
    · rcases found textualLater standardLater otherLater (Store.nodup_eraseDups _) grown with
        ⟨after, ends, more⟩ | ⟨failure, after, ends, writing⟩
      · refine .inl ⟨after, (Action.run_bind_ok runs _).trans ends, ?_⟩
        rwa [Rdf.eraseDups_append_left, List.append_assoc] at more
      · exact .inr ⟨failure, after, (Action.run_bind_ok runs _).trans ends, writing⟩
    · exact .inr ⟨failure, after, Action.run_bind_error runs _, writing⟩

/-- **An import counts its entities and adds their addresses**, or fails as writing does. -/
theorem importEntities_cases {entities : List (Assoc Json)}
    (textual : ∀ entity ∈ entities, Figure.IsTextual entity)
    (standard : ∀ entity ∈ entities, Figure.IsStandard (Figure.insertQuery (Figure.triples entity)))
    (other : ∀ entity ∈ entities, Figure.address entity ≠ Rdf.figureClass) {state : σ}
    {people : List String} (once : people.Nodup) (tells : engine.Tells state people) :
    let imports := Figure.importEntities engine.execute Rdf.figureClassName (entities.map .obj)
    (∃ report after, imports.run state = (.ok report, after) ∧ report.count = entities.length ∧
        engine.Tells after (people ++ entities.map Figure.address).eraseDups) ∨
      ∃ failure after, imports.run state = (.error failure, after) ∧
        engine.FailsWriting failure after := by
  intro imports
  by_cases nothing : entities = []
  · subst nothing
    refine .inl ⟨.nothing, state, rfl, rfl, ?_⟩
    rwa [List.map_nil, List.append_nil, Rdf.eraseDups_of_nodup once]
  let queries := entities.map fun entity => Figure.insertQuery (Figure.triples entity)
  have built : (entities.map Json.obj).mapM (Figure.insertQuery? Rdf.figureClassName) =
      .ok (queries.map some) := by
    rw [List.map_map]
    exact mapM_map_eq_ok fun entity member => Figure.insertQuery?_eq (textual entity member)
  have same : (queries.map some).filterMap (fun query => query) = queries := by
    rw [List.filterMap_map]
    exact List.filterMap_some
  have runs : imports.run state = _ :=
    Figure.run_importEntities (by simpa using nothing) built same state
  rw [runs]
  rcases forM_insert_cases faithful writable textual standard other once tells with
    ⟨after, ends, grown⟩ | ⟨failure, after, ends, writing⟩
  · exact .inl ⟨_, after, Action.run_bind_ok ends _, List.length_map _, grown⟩
  · exact .inr ⟨failure, after, Action.run_bind_error ends _, writing⟩

end Growth

end Engine

end Dataset

/-! ### Imports -/

namespace Import

open Dataset (Engine HasReserved)
open Figure (Entity entityUri)

/-- An import has counted its entities, and the list of figures goes on with the different addresses
of them if none of these was listed before. -/
structure Grows {σ : Type} (engine : Engine σ) (before : List Figure) (entities : List Entity)
    (report : Figure.ImportReport) (after : σ) : Prop where
  count : report.count = entities.length
  entry : ∀ time order, Json.member "importedCount" .null (entryOf time order (.ok entities)) =
    .ok (.int report.count)
  listed : ∃ behind left, (Figure.list engine.execute).run after = (.ok behind, left) ∧
    ((∀ figure ∈ before, ∀ entity ∈ entities, figure.uri ≠ .str (entityUri entity.id)) →
      behind.map Figure.uri = before.map Figure.uri ++
          ((entities.map Entity.id).map entityUri).eraseDups.map .str ∧
        (behind.length = before.length + report.count ↔ (entities.map Entity.id).Nodup))

/-- **The list behind an import**, where the addresses of the entities are told as well. -/
theorem grows_of_tells {σ : Type} {engine : Engine σ} {store : Store} {before : List Figure}
    (addresses : before.map Figure.uri = (Rdf.instances store.statements).map .str)
    {entities : List Entity} {report : Figure.ImportReport} (count : report.count = entities.length)
    {after : σ} (grown : engine.Tells after (Rdf.instances store.statements ++
      (entities.map Entity.id).map entityUri).eraseDups) :
    Grows engine before entities report after := by
  obtain ⟨more, loads, _, people⟩ := grown
  obtain ⟨behind, lists, told⟩ := Figure.exists_run_list (Prod.ext loads rfl)
  refine ⟨count, fun time order => by rw [count]; rfl, behind, _, lists, fun new => ?_⟩
  have once : (Rdf.instances store.statements).Nodup := Store.nodup_eraseDups _
  have apart : ∀ uri ∈ (entities.map Entity.id).map entityUri,
      uri ∉ Rdf.instances store.statements := by
    refine List.forall_mem_map.mpr (List.forall_mem_map.mpr fun entity member listed => ?_)
    have among := List.mem_map_of_mem (f := Json.str) listed
    rw [← addresses] at among
    obtain ⟨figure, known, same⟩ := List.mem_map.mp among
    exact new figure known entity member same
  rw [people, Rdf.eraseDups_append_of_disjoint once apart, List.map_append, ← addresses] at told
  refine ⟨told, ?_⟩
  have lengths := congrArg List.length told
  simp only [List.length_map, List.length_append] at lengths
  rw [lengths, Nat.add_left_cancel_iff, count, ← List.nodup_map_iff Figure.entityUri_injective,
    ← Rdf.length_eraseDups_eq_iff, List.length_map, List.length_map]

/-- **An import makes the list longer by the different identifiers of its entities.** Figures of texts
have entities, and the identifiers of these are those that the names of the figures make, one after
the other. Where the names in the queries stand for what they should, and the document can be loaded
and saved, the entities are imported unless writing fails. The import then counts all of them, and the
list grows by what it counts exactly if no identifier is repeated. -/
theorem list_grows_by_ids {σ : Type} {engine : Engine σ} {state loaded : σ} {store : Store}
    (faithful : engine.gateway.IsFaithful) (writable : engine.readOnly = false)
    (loads : engine.load.run state = (.ok store, loaded)) (free : ¬ HasReserved store)
    {figures : List Figure} (texts : ∀ figure ∈ figures, figure.IsOfTexts) :
    ∃ entities before, Figure.toEntities figures = .ok entities ∧
      entities.map Entity.id = (figures.map Figure.identifier).filter (· ≠ "") ∧
      (Figure.list engine.execute).run state = (.ok before, loaded) ∧
      let imports := Figure.importEntities engine.execute Rdf.figureClassName
        (entities.map Entity.toJson)
      (∀ entity ∈ entities, Figure.IsStandard (Figure.insertQuery (Figure.triples entity.members))) →
        (∃ report after, imports.run state = (.ok report, after) ∧
          Grows engine before entities report after) ∨
        ∃ failure after, imports.run state = (.error failure, after) ∧
          engine.FailsWriting failure after := by
  obtain ⟨entities, made, ids, textual⟩ := Figure.exists_toEntities texts
  obtain ⟨before, lists, addresses⟩ := Figure.exists_run_list loads
  refine ⟨entities, before, made, ids, lists, ?_⟩
  intro imports standard
  have other : ∀ entity ∈ entities, entityUri entity.id ≠ Rdf.figureClass := by
    intro entity member
    have among : entity.id ∈ figures.map Figure.identifier :=
      (List.mem_filter.mp (ids ▸ List.mem_map_of_mem member)).1
    obtain ⟨figure, _, same⟩ := List.mem_map.mp among
    exact same ▸ Figure.entityUri_identifier_ne figure
  have ends := Engine.importEntities_cases faithful writable (List.forall_mem_map.mpr textual)
    (List.forall_mem_map.mpr standard) (List.forall_mem_map.mpr other) (Store.nodup_eraseDups _)
    ⟨store, congrArg Prod.fst loads, free, rfl⟩
  rw [Entity.map_obj_members, List.length_map, Entity.map_address_members] at ends
  rcases ends with ⟨report, after, runs, count, grown⟩ | fails
  · exact .inl ⟨report, after, runs, grows_of_tells addresses count grown⟩
  · exact .inr fails

/-- A document that is kept as the state. -/
def keeping : Engine String := ⟨⟨get, set⟩, false⟩

theorem isFaithful_keeping : keeping.gateway.IsFaithful where
  read_state _ := rfl
  read_written _ writes := by
    cases writes
    rfl
  read_kept fails _ := nomatch fails

theorem load_keeping : keeping.load.run "" = (.ok Store.empty, "") := rfl

/-- Three figures, of which two have names that make one identifier. -/
def neighbours : List Figure :=
  Figure.alikeNames ++ [Figure.bearing "http://dbpedia.org/resource/Luz" "Luz"]

theorem isOfTexts_neighbours : ∀ figure ∈ neighbours, figure.IsOfTexts := by
  unfold neighbours Figure.alikeNames
  simp only [List.cons_append, List.nil_append, List.forall_mem_cons, List.not_mem_nil, false_imp_iff,
    implies_true, and_true]
  exact ⟨Figure.isOfTexts_bearing _ _, Figure.isOfTexts_bearing _ _, Figure.isOfTexts_bearing _ _⟩

/-- Neither their identifiers nor their texts have the word of a declaration. -/
theorem isStandard_neighbours {entities : List Entity}
    (made : Figure.toEntities neighbours = .ok entities) :
    ∀ entity ∈ entities, Figure.IsStandard (Figure.insertQuery (Figure.triples entity.members)) := by
  have lacks : ((Figure.toEntities neighbours).toOption.all fun entities => entities.all fun entity =>
      Text.lacksWord "prefix".toList (Figure.memberText entity.members "id").toList &&
        (Figure.facts entity.members).all fun fact =>
          Text.lacksWord "prefix".toList (Literal.escapeLiteral fact.2).toList) = true := by
    decide +kernel
  rw [made] at lacks
  intro entity member
  obtain ⟨id, texts⟩ := Bool.and_eq_true_iff.mp (List.all_eq_true.mp lacks entity member)
  exact Figure.isStandard_of_lacksWord id (List.all_eq_true.mp texts)

/-- The import of them counts three, and two are listed. -/
theorem list_grows_by_ids_of_neighbours :
    keeping.gateway.IsFaithful ∧ keeping.readOnly = false ∧
      keeping.load.run "" = (.ok Store.empty, "") ∧ ¬ HasReserved Store.empty ∧
      (∀ figure ∈ neighbours, figure.IsOfTexts) ∧
      ∃ entities report after behind left, Figure.toEntities neighbours = .ok entities ∧
        entities.map Entity.id = ["ana_paz", "ana_paz", "luz"] ∧
        (Figure.importEntities keeping.execute Rdf.figureClassName
          (entities.map Entity.toJson)).run "" = (.ok report, after) ∧ report.count = 3 ∧
        (Figure.list keeping.execute).run after = (.ok behind, left) ∧
        behind.map Figure.uri = ["http://example.org/personasHistoricasBolivianas#ana_paz",
          "http://example.org/personasHistoricasBolivianas#luz"].map .str := by
  have free : ¬ HasReserved Store.empty := fun ⟨_, absent, _⟩ => nomatch absent
  refine ⟨isFaithful_keeping, rfl, load_keeping, free, isOfTexts_neighbours, ?_⟩
  obtain ⟨entities, before, made, ids, lists, ends⟩ :=
    list_grows_by_ids isFaithful_keeping rfl load_keeping free isOfTexts_neighbours
  have named : entities.map Entity.id = ["ana_paz", "ana_paz", "luz"] := ids.trans (by decide)
  obtain rfl : before = [] := by
    obtain ⟨_, lists', none⟩ := Figure.exists_run_list load_keeping
    cases lists.symm.trans lists'
    exact List.map_eq_nil_iff.mp none
  rcases ends (isStandard_neighbours made) with
    ⟨report, after, runs, grows⟩ | ⟨failure, after, _, text, state, fails⟩
  · obtain ⟨behind, left, listed, told⟩ := grows.listed
    have addresses := (told fun _ absent => absurd absent List.not_mem_nil).1
    have count : entities.length = 3 := (List.length_map Entity.id).symm.trans (congrArg List.length named)
    have different : (["ana_paz", "ana_paz", "luz"].map entityUri).eraseDups =
        ["http://example.org/personasHistoricasBolivianas#ana_paz",
          "http://example.org/personasHistoricasBolivianas#luz"] := by decide
    rw [named, different] at addresses
    exact ⟨entities, report, after, behind, left, made, named, runs, grows.count.trans count, listed,
      addresses⟩
  · cases fails

end Import

end HistoricalFigures
