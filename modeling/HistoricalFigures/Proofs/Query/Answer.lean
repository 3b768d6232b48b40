import HistoricalFigures.Proofs.Outcome
import HistoricalFigures.Proofs.Rdf.Store
import HistoricalFigures.Proofs.Turtle.ReadTerms
import HistoricalFigures.Query.Evaluation

/-!
**Running queries on statements in memory**, without any document.

* `Query.answer`, `answerText`: the answer to a query and the statements after it.
* `Query.insertions`, `insertionsOf`: the statements that a query adds.
* `mem_answer`: what is there after a query was there before or was added by it.
* `mem_answer_of`: what a query adds is there after it, and what was there before unless the query
  removes it.
* `isReadTerm_answer`: where all objects can stand in documents, they can after a query.
-/
namespace HistoricalFigures

open Rdf (Namespaces Statement Store)

/-! ### Answers -/

/-- The answer to a query on statements in memory, and the statements after it. -/
def Query.answer (query : Query) (store : Store) : Except Failure (Json × Store) :=
  match query.body with
  | .select projection searchTerm subject =>
    .ok ((Query.select projection searchTerm subject store).toJson, store)
  | .insert triples =>
    let (changed, outcome) := Query.insertTriples query.namespaces triples store
    outcome.map fun _ => (.obj [("success", .bool true)], changed)
  | .delete subject predicate object =>
    let (changed, removed) := Query.deleteMatching subject predicate object store
    .ok (.obj [("success", .bool true), ("removed", .int removed)], changed)

/-- The statements that a query adds. -/
def Query.insertions (query : Query) : List Statement :=
  match query.body with
  | .insert triples => (Query.readTriples query.namespaces triples).toOption.getD []
  | _ => []

/-- Whether a query removes a statement where it finds it. -/
def Query.removes (query : Query) (statement : Statement) : Bool :=
  match query.body with
  | .delete subject predicate object =>
    (Query.deletionPattern subject predicate object).fits statement
  | _ => false

namespace Query

/-- The answer to the query that a text writes, and the statements after it. -/
def answerText (text : String) (store : Store) : Except Failure (Json × Store) :=
  match parse text with
  | .ok query => query.answer store
  | .error cause => .error (.query cause)

/-- The statements that the query that a text writes adds. -/
def insertionsOf (text : String) : List Statement :=
  match parse text with
  | .ok query => query.insertions
  | .error _ => []

/-! ### Statements -/

/-- The statements of triples come from one of them each. -/
theorem exists_of_mem_readTriples {namespaces : Namespaces} {triples : List String}
    {statements : List Statement} (reads : readTriples namespaces triples = .ok statements)
    {statement : Statement} (member : statement ∈ statements) :
    ∃ triple ∈ triples, ∃ found, readTriple namespaces triple = .ok found ∧ statement ∈ found := by
  obtain ⟨lists, each, rfl⟩ := eq_ok_of_map reads
  obtain ⟨found, listed, inside⟩ := List.mem_flatten.mp member
  obtain ⟨triple, among, read⟩ := (mem_of_mapM_eq_ok each).2 found listed
  exact ⟨triple, among, found, read, inside⟩

theorem isReadTerm_of_readTriples {namespaces : Namespaces} {triples : List String}
    {statements : List Statement} (reads : readTriples namespaces triples = .ok statements) :
    ∀ statement ∈ statements, Turtle.IsReadTerm statement.object := by
  intro statement member
  obtain ⟨triple, _, found, read, inside⟩ := exists_of_mem_readTriples reads member
  unfold readTriple at read
  split at read
  · cases read
  · rename_i parsed
    cases read
    exact Turtle.isReadTerm_of_parseTriple parsed statement inside
  · split at read <;> cases read

section Insertions

variable {namespaces : Namespaces} {triples : List String} {statements : List Statement}

/-- Where a triple is not read nothing is inserted. -/
theorem insertTriples_of_unread {failure : Failure}
    (unread : readTriples namespaces triples = .error failure) (store : Store) :
    insertTriples namespaces triples store = (store, .error failure) := by
  rw [insertTriples, unread]

/-- **Where all triples are read their statements are added**, one after the other. -/
theorem insertTriples_of_read (reads : readTriples namespaces triples = .ok statements)
    (store : Store) :
    insertTriples namespaces triples store =
      ((store.addAll (statements.map some)).1,
        match (store.addAll (statements.map some)).2 with
        | .ok _ => .ok statements
        | .error refusal => .error (.incomplete refusal)) := by
  rw [insertTriples, reads]
  dsimp only
  rcases store.addAll (statements.map some) with ⟨grown, _ | _⟩ <;> rfl

/-- **An insertion that succeeds tells what it reads, and adds it.** -/
theorem insertTriples_eq_ok {store after : Store}
    (inserts : insertTriples namespaces triples store = (after, .ok statements)) :
    readTriples namespaces triples = .ok statements ∧
      ∀ statement, statement ∈ after.statements ↔
        statement ∈ store.statements ∨ statement ∈ statements := by
  cases reads : readTriples namespaces triples with
  | error failure =>
    rw [insertTriples_of_unread reads] at inserts
    cases inserts
  | ok found =>
    rw [insertTriples_of_read reads] at inserts
    rcases adds : store.addAll (found.map some) with ⟨grown, refusal | count⟩
    · rw [adds] at inserts
      cases inserts
    · rw [adds] at inserts
      cases inserts
      refine ⟨rfl, fun statement => ⟨fun member => Store.mem_addAll ?_, Store.mem_of_addAll adds⟩⟩
      rw [adds]
      exact member

end Insertions

theorem insertions_eq {query : Query} {triples : List String} (body : query.body = .insert triples)
    {statements : List Statement} (reads : readTriples query.namespaces triples = .ok statements) :
    query.insertions = statements := by
  rw [Query.insertions, body]
  dsimp only
  rw [reads]
  rfl

theorem eq_of_answer_select {query : Query} {store changed : Store} {payload : Json}
    (selects : query.body.kind = .select) (answers : query.answer store = .ok (payload, changed)) :
    store = changed := by
  unfold Query.answer at answers
  split at answers
  · cases answers
    rfl
  · rename_i body
    rw [body] at selects
    cases selects
  · rename_i body
    rw [body] at selects
    cases selects

theorem answer_delete_any (namespaces : Namespaces) (store : Store) :
    ∃ payload, Query.answer ⟨namespaces, .delete none none none⟩ store =
      .ok (payload, Store.empty) := by
  have nothing : (deleteMatching none none none store).1 = Store.empty :=
    Store.ext_statements (List.filter_eq_nil_iff.mpr fun _ _ => Bool.false_ne_true)
  exact ⟨_, congrArg (fun changed => Except.ok (_, changed)) nothing⟩

/-- **What is there after a query was there before or was added by it.** -/
theorem mem_answer {query : Query} {store changed : Store} {payload : Json}
    (answers : query.answer store = .ok (payload, changed)) {statement : Statement}
    (member : statement ∈ changed.statements) :
    statement ∈ store.statements ∨ statement ∈ query.insertions := by
  unfold Query.answer at answers
  split at answers
  · cases answers
    exact .inl member
  · rename_i triples body
    obtain ⟨found, told, same⟩ := eq_ok_of_map answers
    cases same
    obtain ⟨reads, among⟩ := insertTriples_eq_ok (Prod.ext rfl told)
    rw [insertions_eq body reads]
    exact (among statement).mp member
  · cases answers
    exact .inl (Store.mem_without.mp member).1

/-- **What a query adds is there after it, and so is what was there before**, unless the query
removes it. -/
theorem mem_answer_of {query : Query} {store changed : Store} {payload : Json}
    (answers : query.answer store = .ok (payload, changed)) {statement : Statement}
    (given : statement ∈ query.insertions ∨
      statement ∈ store.statements ∧ query.removes statement = false) :
    statement ∈ changed.statements := by
  obtain ⟨namespaces, body⟩ := query
  cases body with
  | select projection searchTerm subject =>
    cases answers
    exact (given.resolve_left List.not_mem_nil).1
  | insert triples =>
    obtain ⟨found, told, same⟩ := eq_ok_of_map answers
    cases same
    obtain ⟨reads, among⟩ := insertTriples_eq_ok (Prod.ext rfl told)
    rw [insertions_eq rfl reads] at given
    exact (among statement).mpr (given.symm.imp_left And.left)
  | delete subject predicate object =>
    cases answers
    exact Store.mem_without.mpr (given.resolve_left List.not_mem_nil)

theorem isReadTerm_insertions (query : Query) :
    ∀ statement ∈ query.insertions, Turtle.IsReadTerm statement.object := by
  intro statement member
  unfold Query.insertions at member
  split at member
  · rename_i triples _
    cases reads : readTriples query.namespaces triples with
    | error failure =>
      rw [reads] at member
      exact absurd member List.not_mem_nil
    | ok found =>
      rw [reads] at member
      exact isReadTerm_of_readTriples reads statement member
  · exact absurd member List.not_mem_nil

/-- **Where all objects can stand in documents, they can after a query.** -/
theorem isReadTerm_answer {query : Query} {store changed : Store} {payload : Json}
    (answers : query.answer store = .ok (payload, changed))
    (readable : ∀ statement ∈ store.statements, Turtle.IsReadTerm statement.object) :
    ∀ statement ∈ changed.statements, Turtle.IsReadTerm statement.object := by
  intro statement member
  rcases mem_answer answers member with old | added
  · exact readable statement old
  · exact isReadTerm_insertions query statement added

end Query

end HistoricalFigures
