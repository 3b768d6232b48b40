import HistoricalFigures.Failure
import HistoricalFigures.Literal.Encoded
import HistoricalFigures.Query.Parsing
import HistoricalFigures.Query.Results
import HistoricalFigures.Turtle.Triple

/-!
Running queries on a store.

* `insertTriples`: all triples are read before any of their statements is added.
* `deleteMatching`: the statements that fit a pattern are removed.
* `select`: rows for the historical figures that fit a search term.
-/
namespace HistoricalFigures.Query

open Rdf (Namespaces Pattern Statement Store Term)

/-! ### Insertions -/

/-- A triple with a point at its end. -/
def withPoint (triple : String) : String :=
  if (Unicode.trimEnd triple.toList).getLast? = some '.' then triple else triple ++ " ."

/-- The statements of a triple, its Base64 segments decoded. -/
def readTriple (namespaces : Namespaces) (triple : String) : Except Failure (List Statement) :=
  match Turtle.parseTriple namespaces (withPoint (Literal.decodeQuotedSegments triple)) with
  | .ok [] => .error (.query (.triple triple .noStatement))
  | .ok statements => .ok statements
  | .error cause =>
    if cause.isGrammar then .error (.query (.triple triple (.grammar cause)))
    else .error (.document cause)

/-- The statements of triples, one after the other. -/
def readTriples (namespaces : Namespaces) (triples : List String) :
    Except Failure (List Statement) :=
  (triples.mapM (readTriple namespaces)).map List.flatten

/-- The store with the statements of triples, and those statements. -/
def insertTriples (namespaces : Namespaces) (triples : List String) (store : Store) :
    Store × Except Failure (List Statement) :=
  match readTriples namespaces triples with
  | .error failure => (store, .error failure)
  | .ok statements =>
    match store.addAll (statements.map some) with
    | (grown, .ok _) => (grown, .ok statements)
    | (grown, .error refusal) => (grown, .error (.incomplete refusal))

/-! ### Deletions -/

/-- The pattern of a deletion: its object is compared with the values of objects. -/
def deletionPattern (subject predicate object : Option String) : Pattern :=
  ⟨subject, predicate, match object with | some value => .value value | none => .any⟩

/-- The store without the statements that fit the pattern of a deletion, and how many they were. -/
def deleteMatching (subject predicate object : Option String) (store : Store) : Store × Nat :=
  store.removeAll (deletionPattern subject predicate object)

/-! ### Selections -/

/-- The first object of a subject for a predicate. -/
def firstValue? (store : Store) (subject predicate : String) : Option Term :=
  ((store.matching ⟨some subject, some predicate, .any⟩).head?).map Statement.object

/-- The predicates whose values are searched. -/
def searchedPredicates : List String :=
  [Rdf.ontologyNamespace ++ "nombre", Rdf.ontologyNamespace ++ "resumen"]

/-- Whether a term in search form occurs in the first name or the first summary of a subject. An
empty term occurs everywhere. -/
def fitsTerm (store : Store) (searchTerm subject : String) : Bool :=
  searchTerm = "" || searchedPredicates.any fun predicate =>
    (firstValue? store subject predicate).any fun value =>
      Text.contains searchTerm.toList (Literal.searchChars value.value.toList)

/-- The predicate that a variable is read from. -/
def variablePredicate (name : String) : String :=
  Rdf.ontologyNamespace ++ if name = "descripcion" then "resumen" else name

/-- The value of a variable for a subject. -/
def variableValue? (store : Store) (subject name : String) : Option Term :=
  if name = "persona" then some (.uri subject)
  else firstValue? store subject (variablePredicate name)

/-- The row of a subject. -/
def namedRow (store : Store) (projection : List String) (subject : String) : Assoc Term :=
  projection.filterMap fun name => (variableValue? store subject name).map fun term => (name, term)

/-- The rows of a subject that is described: its predicates and values, its classes left out. -/
def describedRows (store : Store) (subject : String) : List (Assoc Term) :=
  ((store.matching ⟨some subject, none, .any⟩).filter fun statement =>
    statement.predicate ≠ Rdf.typePredicate).map fun statement =>
      [("predicado", .uri statement.predicate), ("valor", statement.object)]

/-- The historical figures that a selection is about. -/
def candidates (store : Store) (subject : Option String) : List String :=
  (store.subjectsOfType Rdf.figureClass Rdf.typePredicate).filter fun candidate =>
    subject.all (candidate = ·)

/-- The results of a selection. -/
def select (projection : List String) (searchTerm : String) (subject : Option String)
    (store : Store) : Results :=
  let found := (candidates store subject).filter (fitsTerm store searchTerm)
  ⟨projection,
    if (Body.select projection searchTerm subject).describes then
      found.flatMap (describedRows store)
    else found.map (namedRow store projection)⟩

end HistoricalFigures.Query
