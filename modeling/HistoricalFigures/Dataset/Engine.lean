import HistoricalFigures.Dataset.Gateway
import HistoricalFigures.Query.Evaluation
import HistoricalFigures.Turtle.Printing

/-!
Running queries on the document of an ontology. Nothing is kept between two queries: each reads the
document anew, and one that changes it writes the whole document.

* `Engine.load`: the statements of the document; a missing one is created.
* `Engine.execute`: the answer to a query.
* `Engine.handle`: the status and the answer to a request.
-/
namespace HistoricalFigures.Dataset

open Rdf (Store)

/-- Queries are run on the document behind a gateway, which may only be read or also changed. -/
structure Engine (σ : Type) where
  gateway : Gateway σ
  readOnly : Bool

namespace Engine

variable {σ : Type}

/-- The document, or what else to do where it is missing. -/
def readOr (engine : Engine σ) (otherwise : Action σ String) : Action σ String :=
  tryCatch engine.gateway.read fun failure =>
    match failure with
    | .dataset .missing => otherwise
    | _ => throw failure

/-- The document where none was found: the empty one, which becomes the document unless only
reading is allowed or another one has come in the meantime. -/
def bootstrap (engine : Engine σ) : Action σ String :=
  if engine.readOnly then pure Turtle.emptyDocument
  else engine.readOr do
    engine.gateway.write Turtle.emptyDocument
    pure Turtle.emptyDocument

/-- The statements of a document. -/
def storeOf (document : String) : Except Failure Store :=
  match Turtle.parse [] document with
  | .ok statements => (Store.ofStatements statements).mapError .incomplete
  | .error cause =>
    if cause.isGrammar then .error (.dataset .malformed) else .error (.document cause)

/-- The statements of the document. -/
def load (engine : Engine σ) : Action σ Store := do
  let document ← engine.readOr engine.bootstrap
  Action.ofExcept id (storeOf document)

/-- The statements become the document. -/
def save (engine : Engine σ) (store : Store) : Action σ Unit :=
  engine.gateway.write (Turtle.serialize Rdf.defaultNamespaces store.statements)

/-- The answer to a query that is run. -/
def run (engine : Engine σ) (query : Query) : Action σ Json := do
  let store ← engine.load
  match query.body with
  | .select projection searchTerm subject =>
    pure (Query.select projection searchTerm subject store).toJson
  | .insert triples =>
    let (changed, outcome) := Query.insertTriples query.namespaces triples store
    let _ ← Action.ofExcept id outcome
    engine.save changed
    pure (.obj [("success", .bool true)])
  | .delete subject predicate object =>
    let (changed, removed) := Query.deleteMatching subject predicate object store
    engine.save changed
    pure (.obj [("success", .bool true), ("removed", .int removed)])

/-- The answer to a query. -/
def execute (engine : Engine σ) (text : String) : Action σ Json := do
  if text.toList.all Unicode.isBlank then throw (.request .noQuery)
  let kind ← Action.ofExcept .query (Query.classify text)
  if kind ≠ .select ∧ engine.readOnly then throw .readOnly
  let query ← Action.ofExcept .query (Query.parse text)
  engine.run query

/-- The answer to a query that may be no text. -/
def executeValue (engine : Engine σ) : Json → Action σ Json
  | .str text => engine.execute text
  | _ => throw (.request .noQuery)

/-- The answer to a request, an object with the query as a member. -/
def answer (engine : Engine σ) : Json → Action σ Json
  | .obj members => engine.executeValue ((Assoc.get? members "query").getD .null)
  | _ => throw (.request .noObject)

/-- The status of a request that fails, and the failure as an answer. What is not foreseen is not
told. -/
def refusal (failure : Failure) : Int × Json :=
  let told (status : Int) (details : Assoc Json) :=
    (status, Json.obj ([("error", .str failure.message)] ++ details))
  match failure with
  | .request _ => told 400 []
  | .query (.triple triple _) => told 400 [("triple", .str triple)]
  | .query _ => told 400 []
  | .readOnly => told 403 []
  | .dataset _ => told 500 []
  | _ => (500, .obj [("error", .str "Internal server error")])

/-- The status and the answer to a request. -/
def handle (engine : Engine σ) (body : Json) : Action σ (Int × Json) := do
  match ← (engine.answer body).attempt with
  | .ok payload => pure (200, payload)
  | .error failure => pure (refusal failure)

end Engine

end HistoricalFigures.Dataset
