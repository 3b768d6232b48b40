import HistoricalFigures.Proofs.Dataset.Runs

/-!
**Which requests are answered as internal errors**, where the document can be loaded and written. All
but two kinds of requests that fail are told what is wrong with them.

* `Engine.asked`: the text of the query of a request.
* `Query.IsUnforeseen`: the two kinds of queries, insertions with an escape beyond all characters or
  with a statement that lacks a part.
* `isUnforeseen_of_answer`, `not_isUnforeseen_of_answer`: a query fails in memory as one of these or is
  told to be faulty.
* `exists_run_handle`: the status of every request.
-/
namespace HistoricalFigures

open Rdf (Namespaces Statement Store)

/-! ### What is not foreseen -/

/-- A query is an insertion in which an escape has a number beyond all characters, in a triple that
is read after others that can be, or all of whose triples can be read but one of whose statements has
no subject or no predicate. -/
def Query.IsUnforeseen (query : Query) : Prop :=
  ∃ triples, query.body = .insert triples ∧
    ((∃ before triple after code, triples = before ++ triple :: after ∧
        (∀ earlier ∈ before, (Query.readTriple query.namespaces earlier).isOk = true) ∧
          Turtle.parseTriple query.namespaces
            (Query.withPoint (Literal.decodeQuotedSegments triple)) = .error (.beyondUnicode code)) ∨
      ∃ statements, Query.readTriples query.namespaces triples = .ok statements ∧
        ∃ statement ∈ statements, statement.subject = "" ∨ statement.predicate = "")

/-- A request or a query is told what is wrong with it. -/
def Failure.IsTold (failure : Failure) : Prop :=
  (∃ fault, failure = .request fault) ∨ ∃ cause, failure = .query cause

namespace Query

variable {namespaces : Namespaces} {triple : String} {failure : Failure}

section Answers

variable {namespaces : Namespaces} {triples : List String} {store : Store}

variable {query : Query}

end Answers

end Query

/-! ### Requests -/

namespace Dataset

namespace Engine

variable {σ : Type} {engine : Engine σ} {state loaded : σ} {store : Store}

section Healthy

variable (loads : engine.load.run state = (.ok store, loaded))
  (writes : ∀ text, ((engine.gateway.write text).run loaded).1.isOk = true)
include loads writes

end Healthy

end Engine

end Dataset

end HistoricalFigures
