import Mathlib.Data.List.TakeWhile
import HistoricalFigures.Proofs.Query.Answer
import HistoricalFigures.Proofs.Rdf.History
import HistoricalFigures.Query.Parsing

/-!
**When an insertion is all or nothing.** All of its triples are read before the store is touched, but
a statement that can be read may still lack a part, and then those before it have been added.

* `joined`: statements with others behind them that are new to them.
* `statements_addAll_eq_joined`: adding statements joins those before the first that lacks a part.
* `IsAllOrNothing`: an outcome leaves everything as it was, or adds all that it tells.
* `readable`: the statements of triples up to the first that lacks a part.
* `statements_insertTriples`: what is in the store behind an insertion, whatever its outcome.
* `isAllOrNothing_iff`: the insertions that are all or nothing.
-/
namespace HistoricalFigures

namespace Rdf

/-! ### Joining statements -/

/-- Statements with others behind them, of which each that is new to them stands there once, where it
was added first. -/
def joined (statements added : List Statement) : List Statement :=
  statements ++ (added.filter (· ∉ statements)).eraseDups

theorem joined_nil (statements : List Statement) : joined statements [] = statements :=
  List.append_nil statements

/-- What is there already is not added again. -/
theorem joined_cons_of_mem {statements : List Statement} {first : Statement}
    (known : first ∈ statements) (later : List Statement) :
    joined statements (first :: later) = joined statements later := by
  rw [joined, List.filter_cons_of_neg (by simpa using known), joined]

/-- What is new stands at the end before the rest is added. -/
theorem joined_cons_of_notMem {statements : List Statement} {first : Statement}
    (new : first ∉ statements) (later : List Statement) :
    joined statements (first :: later) = joined (statements ++ [first]) later := by
  have others : (later.filter (· ∉ statements)).filter (fun other => !other == first) =
      later.filter (· ∉ statements ++ [first]) := by
    rw [List.filter_filter]
    refine List.filter_congr fun other _ => ?_
    by_cases same : other = first <;> simp [same]
  rw [joined, List.filter_cons_of_pos (by simpa using new), List.eraseDups_cons, others, joined,
    List.append_assoc, List.singleton_append]

/-- Additions one after the other join what is added. -/
theorem foldl_added (statements added : List Statement) :
    (added.map Event.added).foldl Event.apply statements = joined statements added := by
  induction added generalizing statements with
  | nil => exact (joined_nil statements).symm
  | cons first later found =>
    rw [List.map_cons, List.foldl_cons, found, Event.apply]
    split
    · rename_i known
      exact (joined_cons_of_mem known later).symm
    · rename_i new
      exact (joined_cons_of_notMem new later).symm

/-- Joining changes nothing just where everything is there already. -/
theorem joined_eq_self_iff {statements added : List Statement} :
    joined statements added = statements ↔ ∀ statement ∈ added, statement ∈ statements := by
  constructor
  · intro same statement member
    by_contra new
    have nothing : (added.filter (· ∉ statements)).eraseDups = [] := by simpa [joined] using same
    have inside : statement ∈ (added.filter (· ∉ statements)).eraseDups :=
      List.mem_eraseDups.mpr (List.mem_filter.mpr ⟨member, by simpa using new⟩)
    rw [nothing] at inside
    exact List.not_mem_nil inside
  · intro known
    have nothing : added.filter (· ∉ statements) = [] :=
      List.filter_eq_nil_iff.mpr fun statement member => by simpa using known statement member
    rw [joined, nothing, List.eraseDups_nil, List.append_nil]

theorem accepted_map_some (statements : List Statement) :
    accepted (statements.map some) = statements.takeWhile fun statement => statement.IsComplete := by
  induction statements with
  | nil => rfl
  | cons first later found =>
    rw [List.map_cons, accepted, List.takeWhile_cons, found]
    simp only [decide_eq_true_eq]

/-- **Adding statements joins those before the first that lacks a part.** -/
theorem statements_addAll_eq_joined (store : Store) (statements : List Statement) :
    (store.addAll (statements.map some)).1.statements =
      joined store.statements (statements.takeWhile fun statement => statement.IsComplete) := by
  rw [statements_addAll, accepted_map_some, foldl_added]

end Rdf

namespace Query

open Rdf (Namespaces Statement Store joined)

/-! ### Insertions -/

/-- An outcome leaves the statements of a store as they were where it is a failure, and has added all
that it tells where it is none. -/
def IsAllOrNothing (store : Store) : Store × Except Failure (List Statement) → Prop
  | (after, .ok statements) => after.statements = joined store.statements statements
  | (after, .error _) => after.statements = store.statements

variable (namespaces : Namespaces) (triples : List String)

/-- The statements of triples up to the first that lacks a part; none if a triple cannot be read. -/
def readable : List Statement :=
  match readTriples namespaces triples with
  | .ok statements => statements.takeWhile fun statement => statement.IsComplete
  | .error _ => []

/-- **What is in the store behind an insertion**, whatever its outcome. -/
theorem statements_insertTriples (store : Store) :
    (insertTriples namespaces triples store).1.statements =
      joined store.statements (readable namespaces triples) := by
  cases reads : readTriples namespaces triples with
  | error failure =>
    rw [insertTriples_of_unread reads, readable, reads]
    exact (Rdf.joined_nil _).symm
  | ok statements =>
    rw [insertTriples_of_read reads, readable, reads]
    exact Rdf.statements_addAll_eq_joined store statements

variable {namespaces triples}

theorem readable_of_read {front behind : List Statement} {statement : Statement}
    (reads : readTriples namespaces triples = .ok (front ++ statement :: behind))
    (complete : ∀ earlier ∈ front, earlier.IsComplete) (lacks : ¬ statement.IsComplete) :
    readable namespaces triples = front := by
  rw [readable, reads]
  dsimp only
  rw [List.takeWhile_append_of_pos (by simpa using complete),
    List.takeWhile_cons_of_neg (by simpa using lacks), List.append_nil]

/-- A statement that lacks a part is refused, and nothing is told. -/
theorem insertTriples_of_incomplete {front behind : List Statement} {statement : Statement}
    (reads : readTriples namespaces triples = .ok (front ++ statement :: behind))
    (lacks : ¬ statement.IsComplete) (store : Store) :
    ∃ refusal, (insertTriples namespaces triples store).2 = .error (.incomplete refusal) := by
  rw [insertTriples_of_read reads]
  rcases adds : store.addAll ((front ++ statement :: behind).map some) with ⟨grown, refusal | count⟩
  · exact ⟨refusal, rfl⟩
  · have member : statement ∈ front ++ statement :: behind := by simp
    exact absurd (grown.complete statement (Store.mem_of_addAll adds (.inr member))) lacks

/-- Where no statement lacks a part all of them are told. -/
theorem insertTriples_of_complete {statements : List Statement}
    (reads : readTriples namespaces triples = .ok statements)
    (complete : ∀ statement ∈ statements, statement.IsComplete) (store : Store) :
    (insertTriples namespaces triples store).2 = .ok statements := by
  obtain ⟨count, adds⟩ := Store.exists_addAll complete store
  rw [insertTriples_of_read reads, adds]

/-- Either no statement lacks a part, or there is a first one that does. -/
theorem complete_or_exists_first (statements : List Statement) :
    (∀ statement ∈ statements, statement.IsComplete) ∨
      ∃ front statement behind, statements = front ++ statement :: behind ∧
        (∀ earlier ∈ front, earlier.IsComplete) ∧ ¬ statement.IsComplete := by
  induction statements with
  | nil => exact .inl fun statement member => absurd member List.not_mem_nil
  | cons first later found =>
    by_cases complete : first.IsComplete
    · rcases found with all | ⟨front, statement, behind, rfl, before, lacks⟩
      · exact .inl (List.forall_mem_cons.mpr ⟨complete, all⟩)
      · exact .inr ⟨first :: front, statement, behind, rfl,
          List.forall_mem_cons.mpr ⟨complete, before⟩, lacks⟩
    · exact .inr ⟨[], first, later, rfl, fun earlier member => absurd member List.not_mem_nil,
        complete⟩

/-- **The insertions that are all or nothing** are those in which what stands before the first
statement that lacks a part is in the store already. -/
theorem isAllOrNothing_iff (namespaces : Namespaces) (triples : List String) (store : Store) :
    IsAllOrNothing store (insertTriples namespaces triples store) ↔
      ∀ front statement behind,
        readTriples namespaces triples = .ok (front ++ statement :: behind) →
          (∀ earlier ∈ front, earlier.IsComplete) → ¬ statement.IsComplete →
            ∀ earlier ∈ front, earlier ∈ store.statements := by
  have left := statements_insertTriples namespaces triples store
  cases reads : readTriples namespaces triples with
  | error failure =>
    refine iff_of_true ?_ fun front statement behind same => nomatch same
    rw [insertTriples_of_unread reads]
    exact rfl
  | ok statements =>
    rcases inserts : insertTriples namespaces triples store with ⟨after, outcome⟩
    rcases complete_or_exists_first statements with complete |
      ⟨front, statement, behind, rfl, before, lacks⟩
    · have told := insertTriples_of_complete reads complete store
      have all : readable namespaces triples = statements := by
        rw [readable, reads]
        exact List.takeWhile_eq_self_iff.mpr (by simpa using complete)
      rw [inserts] at left told
      cases told
      refine iff_of_true (all ▸ left) fun front statement behind same _ lacks => ?_
      cases same
      exact absurd (complete statement (by simp)) lacks
    · obtain ⟨refusal, told⟩ := insertTriples_of_incomplete reads lacks store
      rw [inserts] at left told
      rw [readable_of_read reads before lacks] at left
      cases told
      change after.statements = store.statements ↔ _
      rw [left, Rdf.joined_eq_self_iff]
      constructor
      · intro known front' statement' behind' same before' lacks'
        have alike : front = front' := (readable_of_read reads before lacks).symm.trans
          (readable_of_read (reads.trans same) before' lacks')
        exact alike ▸ known
      · exact fun each => each front statement behind rfl before lacks

theorem not_isAllOrNothing_of_failed {store : Store}
    {outcome : Store × Except Failure (List Statement)} (fails : outcome.2.isOk = false)
    (changed : outcome.1.statements ≠ store.statements) : ¬ IsAllOrNothing store outcome := by
  rcases outcome with ⟨after, failure | statements⟩
  · exact changed
  · cases fails

/-- **An empty subject leaves half of an insertion behind**: the insertion is refused, and the
statement before the one without a subject is in the store. -/
theorem not_isAllOrNothing_of_emptySubject : ∃ query triples,
    parse "INSERT DATA \x7b <a> <b> <c> . <> <b> <c> . \x7d" = .ok query ∧
      query.body = .insert triples ∧
        (insertTriples query.namespaces triples Store.empty).1.statements = [⟨"a", "b", .uri "c"⟩] ∧
          ¬ IsAllOrNothing Store.empty (insertTriples query.namespaces triples Store.empty) := by
  have parsed : (parse "INSERT DATA \x7b <a> <b> <c> . <> <b> <c> . \x7d").map
      (fun query => (query.namespaces, query.body)) =
        .ok (Rdf.defaultNamespaces, .insert ["<a> <b> <c> .", "<> <b> <c> ."]) := by rfl
  obtain ⟨⟨_, _⟩, found, same⟩ := eq_ok_of_map parsed
  cases same
  have left : (insertTriples Rdf.defaultNamespaces ["<a> <b> <c> .", "<> <b> <c> ."]
      Store.empty).1.statements = [⟨"a", "b", .uri "c"⟩] := by decide +kernel
  have fails : (insertTriples Rdf.defaultNamespaces ["<a> <b> <c> .", "<> <b> <c> ."]
      Store.empty).2.isOk = false := by decide +kernel
  have changed : (insertTriples Rdf.defaultNamespaces ["<a> <b> <c> .", "<> <b> <c> ."]
      Store.empty).1.statements ≠ Store.empty.statements := by
    rw [left]
    exact nofun
  exact ⟨_, _, found, rfl, left, not_isAllOrNothing_of_failed fails changed⟩

end Query

end HistoricalFigures
