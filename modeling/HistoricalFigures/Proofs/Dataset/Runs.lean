import HistoricalFigures.Proofs.Dataset.Execution

/-!
**Runs of queries on one document.**

* `Engine.after`, `Engine.completed`, `Engine.saved`: what a run leaves, which of its queries are
  answered, and the stores that it saves.
* `load_of_written`: the file that a store was written to is loaded as that store.
* `load_after_iff_of_faithful`, `load_after_iff`: the document can be loaded after a run exactly if
  no store with a reserved language was saved.
* `load_execute_iff_of_faithful`: what is loaded stays the same exactly if nothing else is saved.
* `Engine.AgreesWithMemory`: a run gives the answers and the stores that the same queries give in
  memory.
* `agreesWithMemory_of_shows`, `agreesWithMemory`: every run does, as long as no object has an empty
  datatype or a reserved language.
-/
namespace HistoricalFigures

open Rdf (Statement Store)

/-! ### Runs -/

/-- The store that the query of a text makes of another one, if it changes anything. -/
def Query.changedBy (text : String) (store : Store) : Option Store :=
  match parse text with
  | .ok query =>
    if query.body.kind = .select then none else (query.answer store).toOption.map Prod.snd
  | .error _ => none

/-- A text that changes a store mentions a change. -/
theorem Query.mentionsUpdate_of_changedBy {text : String} {store changed : Store}
    (changes : changedBy text store = some changed) : MentionsUpdate text := by
  unfold changedBy at changes
  split at changes
  · rename_i query parsed
    split at changes
    · cases changes
    · rename_i selects
      exact mentionsUpdate_of_parse parsed selects
  · cases changes

namespace Dataset

namespace Engine

variable {σ : Type}

/-- The state after queries that are run one after the other, whether they succeed or not. -/
def after (engine : Engine σ) : List String → σ → σ
  | [], state => state
  | text :: later, state => engine.after later ((engine.execute text).run state).2

/-- The queries of a run that are answered. -/
def completed (engine : Engine σ) : List String → σ → List String
  | [], _ => []
  | text :: later, state =>
    match (engine.execute text).run state with
    | (.ok _, after) => text :: engine.completed later after
    | (.error _, after) => engine.completed later after

/-- The stores that a run saves: what each change that is answered makes of the store that is loaded
before it. -/
def saved (engine : Engine σ) : List String → σ → List Store
  | [], _ => []
  | text :: later, state =>
    match (engine.execute text).run state, (engine.load.run state).1 with
    | (.ok _, after), .ok store => (Query.changedBy text store).toList ++ engine.saved later after
    | (_, after), _ => engine.saved later after

/-- A run that agrees with one in memory. A query that fails is left out in memory and changes
nothing; one that is answered has the answer in memory, and the store in memory is loaded after
it. -/
def AgreesWithMemory (engine : Engine σ) : List String → σ → Store → Prop
  | [], _, _ => True
  | text :: later, state, store =>
    match (engine.execute text).run state with
    | (.error _, after) =>
      (engine.load.run after).1 = .ok store ∧ engine.AgreesWithMemory later after store
    | (.ok payload, after) =>
      ∃ carried, Query.answerText text store = .ok (payload, carried) ∧
        (engine.load.run after).1 = .ok carried ∧ engine.AgreesWithMemory later after carried

/-- What a run saves that begins with a query that is answered. -/
theorem saved_cons {engine : Engine σ} {text : String} {state : σ} {store : Store}
    (answered : ((engine.execute text).run state).1.isOk = true)
    (loads : (engine.load.run state).1 = .ok store) (later : List String) :
    engine.saved (text :: later) state =
      (Query.changedBy text store).toList ++
        engine.saved later ((engine.execute text).run state).2 := by
  rcases runs : (engine.execute text).run state with ⟨_ | payload, next⟩
  · rw [runs] at answered
    cases answered
  · rw [saved, runs, loads]

/-- What one query saves is what it makes of the store that is loaded. -/
theorem changedBy_of_mem_saved {engine : Engine σ} {text : String} {state : σ} {changed : Store}
    (member : changed ∈ engine.saved [text] state) :
    ∃ store, Query.changedBy text store = some changed := by
  rw [saved] at member
  split at member
  · rename_i store _ _
    rw [saved, List.append_nil, Option.mem_toList] at member
    exact ⟨store, member⟩
  · rw [saved] at member
    exact absurd member List.not_mem_nil

theorem completed_subset (engine : Engine σ) (queries : List String) (state : σ) :
    engine.completed queries state ⊆ queries := by
  induction queries generalizing state with
  | nil => exact List.Subset.refl []
  | cons text later found =>
    rw [completed]
    split
    · exact List.cons_subset_cons text (found _)
    · exact List.subset_cons_of_subset text (found _)

/-! ### Which runs leave a document that can be loaded -/

section Faithful

variable {engine : Engine σ} {state loaded : σ} {document : String} {store : Store}
  (faithful : engine.gateway.IsFaithful) (writable : engine.readOnly = false)
include faithful writable

theorem shows_after_of_error (queries : List String) {failure : Failure}
    (shows_ : engine.Shows state document) (broken : storeOf document = .error failure) :
    engine.Shows (engine.after queries state) document := by
  induction queries generalizing state with
  | nil => exact shows_
  | cons text later found =>
    rcases runs : (engine.execute text).run state with ⟨outcome, next⟩
    rw [after, runs]
    rcases execute_cases faithful writable shows_ runs with ⟨_, stays⟩ | ⟨_, _, _, _, _, stored, _⟩
    · exact found stays
    · rw [broken] at stored
      cases stored

/-- **The document can be loaded after a run exactly if no store with a reserved language was
saved.** -/
theorem load_after_iff_of_faithful (queries : List String) (shows_ : engine.Shows state document)
    (stored : storeOf document = .ok store) :
    (∃ loaded, (engine.load.run (engine.after queries state)).1 = .ok loaded) ↔
      ∀ changed ∈ engine.saved queries state, ¬ HasReserved changed := by
  -- The document that is shown carries the induction, not the state: a query that fails may still
  -- leave directories behind.
  induction queries generalizing state document store with
  | nil =>
    refine ⟨fun _ changed member => absurd member List.not_mem_nil, fun _ => ⟨store, ?_⟩⟩
    rw [after, load_eq_storeOf shows_, stored]
  | cons text later found =>
    rcases runs : (engine.execute text).run state with ⟨outcome, next⟩
    have loads := (load_eq_storeOf shows_).trans stored
    rcases execute_cases faithful writable shows_ runs with
      ⟨⟨failure, rfl⟩, stays⟩ | ⟨payload, before, query, changed, rfl, same, parsed, answers, leaves⟩
    · rw [after, saved, runs]
      exact found stays stored
    · obtain rfl : before = store := Except.ok.inj (same.symm.trans stored)
      rw [after, saved, runs, loads]
      dsimp only
      rw [Query.changedBy, parsed]
      dsimp only
      by_cases selects : query.body.kind = .select
      · rw [if_pos selects] at leaves ⊢
        exact found leaves stored
      · rw [if_neg selects] at leaves ⊢
        rw [answers]
        have readable := Query.isReadTerm_answer answers (isReadable_of_storeOf stored)
        by_cases reserved : HasReserved changed
        · have broken := storeOf_written_of_reserved readable reserved
          have stays := shows_after_of_error faithful writable later leaves broken
          constructor
          · rintro ⟨loaded, succeeds⟩
            rw [load_eq_storeOf stays, broken] at succeeds
            cases succeeds
          · intro free
            exact absurd reserved (free changed List.mem_cons_self)
        · obtain ⟨loaded, restored⟩ := exists_storeOf_written readable reserved
          rw [found leaves restored]
          exact ⟨fun free => List.forall_mem_cons.mpr ⟨reserved, free⟩,
            fun free => (List.forall_mem_cons.mp free).2⟩

/-- **What is loaded behind one query stays the same exactly if what the query saves, if anything,
is that store again.** -/
theorem load_execute_iff_of_faithful (text : String) (shows_ : engine.Shows state document)
    (stored : storeOf document = .ok store) :
    (engine.load.run ((engine.execute text).run state).2).1 = .ok store ↔
      ∀ changed ∈ engine.saved [text] state, storeOf (written changed) = .ok store := by
  rcases runs : (engine.execute text).run state with ⟨outcome, next⟩
  have loads := (load_eq_storeOf shows_).trans stored
  rcases execute_cases faithful writable shows_ runs with
    ⟨⟨failure, rfl⟩, stays⟩ | ⟨payload, before, query, changed, rfl, same, parsed, answers, leaves⟩
  · rw [saved, runs]
    exact ⟨fun _ changed member => absurd member List.not_mem_nil,
      fun _ => (load_eq_storeOf stays).trans stored⟩
  · obtain rfl : before = store := Except.ok.inj (same.symm.trans stored)
    rw [saved, runs, loads]
    dsimp only
    rw [Query.changedBy, parsed, load_eq_storeOf leaves]
    dsimp only
    by_cases selects : query.body.kind = .select
    · rw [if_pos selects, if_pos selects]
      exact ⟨fun _ changed member => absurd member List.not_mem_nil, fun _ => stored⟩
    · rw [if_neg selects, if_neg selects, answers]
      exact ⟨fun reloads _ member => List.mem_singleton.mp member ▸ reloads,
        fun each => each changed List.mem_cons_self⟩

/-- **Nothing is left of a document behind a removal of whatever there is**, if it can be saved. -/
theorem load_execute_of_removal {text : String} {namespaces : Rdf.Namespaces}
    (loads : engine.load.run state = (.ok store, loaded))
    (parsed : Query.parse text = .ok ⟨namespaces, .delete none none none⟩)
    (saves : ((engine.save Store.empty).run loaded).1.isOk = true) :
    (engine.load.run ((engine.execute text).run state).2).1 = .ok Store.empty := by
  obtain ⟨document, here, stored⟩ := shows_of_load loads
  obtain ⟨payload, removes⟩ := Query.answer_delete_any namespaces store
  have executed : (engine.execute text).run state =
      (engine.save Store.empty >>= fun _ => pure payload).run loaded := by
    rw [run_execute, accepted_of_parse writable parsed]
    dsimp only
    rw [run_run loads, removes]
    rfl
  have reads := read_of_shows faithful writable here
  rcases outcome : (engine.save Store.empty).run loaded with ⟨_ | _, next⟩
  · rw [outcome] at saves
    cases saves
  · have leaves := shows_of_read faithful
      (save_cases faithful (fun _ member => absurd member List.not_mem_nil) reads outcome)
    rw [executed, Action.run_bind_ok outcome]
    refine (load_eq_storeOf leaves).trans (storeOf_written_eq_self ?_ ?_)
    · exact fun _ member => absurd member List.not_mem_nil
    · exact fun _ member => absurd member List.not_mem_nil

/-! ### Runs in memory -/

/-- **Every run agrees with the one in memory**, as long as no object has an empty datatype or a
reserved language. -/
theorem agreesWithMemory_of_shows (queries : List String) (shows_ : engine.Shows state document)
    (stored : storeOf document = .ok store)
    (kept : ∀ statement ∈ store.statements, IsKeptTerm statement.object)
    (inserted : ∀ text ∈ engine.completed queries state,
      ∀ statement ∈ Query.insertionsOf text, IsKeptTerm statement.object) :
    engine.AgreesWithMemory queries state store := by
  -- Kept objects stay kept, so that what one query saves is what the next one loads.
  induction queries generalizing state document store with
  | nil => trivial
  | cons text later found =>
    rcases runs : (engine.execute text).run state with ⟨outcome, next⟩
    rcases execute_cases faithful writable shows_ runs with
      ⟨⟨failure, rfl⟩, stays⟩ | ⟨payload, before, query, changed, rfl, same, parsed, answers, leaves⟩
    · rw [completed, runs] at inserted
      rw [AgreesWithMemory, runs]
      exact ⟨(load_eq_storeOf stays).trans stored, found stays stored kept inserted⟩
    · obtain rfl : before = store := Except.ok.inj (same.symm.trans stored)
      rw [completed, runs] at inserted
      obtain ⟨here, rest⟩ := List.forall_mem_cons.mp inserted
      have additions : Query.insertionsOf text = query.insertions := by
        rw [Query.insertionsOf, parsed]
      have keptChanged : ∀ statement ∈ changed.statements, IsKeptTerm statement.object := by
        intro statement member
        rcases Query.mem_answer answers member with old | added
        · exact kept statement old
        · exact here statement (additions ▸ added)
      have restored : storeOf (if query.body.kind = .select then document else written changed) =
          .ok changed := by
        by_cases selects : query.body.kind = .select
        · rw [if_pos selects, stored, Query.eq_of_answer_select selects answers]
        · rw [if_neg selects]
          exact storeOf_written_eq_self
            (Query.isReadTerm_answer answers (isReadable_of_storeOf stored)) keptChanged
      rw [AgreesWithMemory, runs]
      refine ⟨changed, ?_, (load_eq_storeOf leaves).trans restored,
        found leaves restored keptChanged rest⟩
      rw [Query.answerText, parsed]
      exact answers

end Faithful

end Engine

/-! ### Documents in files -/

/-- Queries on the document in the file at a path, which they may change. -/
def Engine.onDisk (path : Path) : Engine Disk := ⟨Gateway.onDisk path.place, false⟩

/-- **The file that a store was written to is loaded as that store.** -/
theorem load_of_written {path : Path} {disk : Disk} {store : Store} (readable : IsReadable store)
    (kept : ∀ statement ∈ store.statements, IsKeptTerm statement.object)
    (there : disk.octetsAt path.place = .ok (Utf8.encode (written store))) :
    (Engine.onDisk path).load.run disk = (.ok store, disk) := by
  have reads : (Engine.onDisk path).gateway.read.run disk = (.ok (written store), disk) :=
    run_readDocument_of_octetsAt there (Utf8.decodeLines_encode (return_notMem_written readable))
  have shows_ : ((Engine.onDisk path).readOr (Engine.onDisk path).bootstrap).run disk =
      (.ok (written store), disk) := by
    rw [Engine.run_readOr (isFaithful_onDisk path), reads]
  rw [Engine.run_load shows_, storeOf_written_eq_self readable kept]
/-- **A file that can be loaded can be loaded after a run of queries exactly if no store with a
reserved language was saved.** -/
theorem load_after_iff (path : Path) (queries : List String) {disk : Disk} {store : Store}
    (loads : ((Engine.onDisk path).load.run disk).1 = .ok store) :
    (∃ loaded, ((Engine.onDisk path).load.run ((Engine.onDisk path).after queries disk)).1 =
        .ok loaded) ↔
      ∀ changed ∈ (Engine.onDisk path).saved queries disk, ¬ HasReserved changed := by
  obtain ⟨document, here, stored⟩ := Engine.shows_of_load (Prod.ext loads rfl)
  exact Engine.load_after_iff_of_faithful (isFaithful_onDisk path) rfl queries ⟨_, here⟩ stored

/-- The disk with an empty file as its document. -/
def emptyFile : Disk := Disk.ofFiles [("onto.ttl", .file (Utf8.encode ""))]

/-- An empty file holds no statements. -/
theorem load_emptyFile :
    ((Engine.onDisk (Path.ofText "onto.ttl")).load.run emptyFile).1 = .ok Store.empty := by rfl

/-- An empty file and one insertion. -/
theorem load_after_iff_of_emptyFile :
    (∃ loaded, ((Engine.onDisk (Path.ofText "onto.ttl")).load.run
        ((Engine.onDisk (Path.ofText "onto.ttl")).after
          ["INSERT DATA \x7b <a> <b> \x22x\x22@PREFIX . \x7d"] emptyFile)).1 = .ok loaded) ↔
      ∀ changed ∈ (Engine.onDisk (Path.ofText "onto.ttl")).saved
        ["INSERT DATA \x7b <a> <b> \x22x\x22@PREFIX . \x7d"] emptyFile, ¬ HasReserved changed :=
  load_after_iff _ _ load_emptyFile

/-- **A language in capitals passes for a language, but not the small letters that it is written
in**: an insertion that succeeds leaves a document that cannot be loaded. -/
theorem not_load_after_capital_prefix :
    (∃ store, ((Engine.onDisk (Path.ofText "onto.ttl")).load.run emptyFile).1 = .ok store) ∧
      ¬ ∃ store, ((Engine.onDisk (Path.ofText "onto.ttl")).load.run
        ((Engine.onDisk (Path.ofText "onto.ttl")).after
          ["INSERT DATA \x7b <a> <b> \x22x\x22@PREFIX . \x7d"] emptyFile)).1 = .ok store := by
  refine ⟨⟨Store.empty, load_emptyFile⟩, ?_⟩
  obtain ⟨document, here, stored⟩ := Engine.shows_of_load (Prod.ext load_emptyFile rfl)
  rw [Engine.load_after_iff_of_faithful (isFaithful_onDisk _) rfl _ ⟨_, here⟩ stored]
  have answered : (((Engine.onDisk (Path.ofText "onto.ttl")).execute
      "INSERT DATA \x7b <a> <b> \x22x\x22@PREFIX . \x7d").run emptyFile).1.isOk = true := by
    decide +kernel
  have changes : (Query.changedBy "INSERT DATA \x7b <a> <b> \x22x\x22@PREFIX . \x7d"
      Store.empty).map Store.statements = some [⟨"a", "b", .tagged "x" "prefix"⟩] := by
    decide +kernel
  obtain ⟨changed, isChanged, statements⟩ := Option.map_eq_some_iff.mp changes
  intro free
  refine free changed ?_ ⟨⟨"a", "b", .tagged "x" "prefix"⟩, ?_, by decide⟩
  · rw [Engine.saved_cons answered load_emptyFile, isChanged]
    exact List.mem_cons_self
  · rw [statements]
    exact List.mem_cons_self

/-- **Queries on a file agree with those in memory**, as long as no object that is there or inserted
has an empty datatype or a reserved language. -/
theorem agreesWithMemory (path : Path) (queries : List String) {disk : Disk} {store : Store}
    (loads : ((Engine.onDisk path).load.run disk).1 = .ok store)
    (kept : ∀ statement ∈ store.statements, IsKeptTerm statement.object)
    (inserted : ∀ text ∈ (Engine.onDisk path).completed queries disk,
      ∀ statement ∈ Query.insertionsOf text, IsKeptTerm statement.object) :
    (Engine.onDisk path).AgreesWithMemory queries disk store := by
  obtain ⟨document, here, stored⟩ := Engine.shows_of_load (Prod.ext loads rfl)
  exact Engine.agreesWithMemory_of_shows (isFaithful_onDisk path) rfl queries ⟨_, here⟩ stored kept
    inserted

/-- An insertion with a language, a plain text and a number, one that is refused, a selection and a
removal. -/
theorem agreesWithMemory_of_emptyFile :
    (Engine.onDisk (Path.ofText "onto.ttl")).AgreesWithMemory
      ["INSERT DATA \x7b <a> <b> \x22x\x22@es-419, '1', 2 . \x7d",
        "INSERT DATA \x7b <a> <b> \x7d",
        "SELECT ?nombre WHERE \x7b ?s ?p ?o \x7d",
        "DELETE WHERE \x7b ?s ?p \x221\x22 \x7d"] emptyFile Store.empty := by
  refine agreesWithMemory _ _ load_emptyFile (by simp [Store.empty]) ?_
  intro text member
  have each : ∀ text ∈ ["INSERT DATA \x7b <a> <b> \x22x\x22@es-419, '1', 2 . \x7d",
      "INSERT DATA \x7b <a> <b> \x7d", "SELECT ?nombre WHERE \x7b ?s ?p ?o \x7d",
      "DELETE WHERE \x7b ?s ?p \x221\x22 \x7d"],
      ∀ statement ∈ Query.insertionsOf text, IsKeptTerm statement.object := by decide +kernel
  exact each text (Engine.completed_subset _ _ _ member)

end Dataset

end HistoricalFigures
