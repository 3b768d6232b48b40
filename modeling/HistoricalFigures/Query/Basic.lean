import HistoricalFigures.Query.Kind
import HistoricalFigures.Rdf.Vocabulary

/-!
Queries.

* `Query`: what is asked, with the namespaces that are declared.
* `Query.Body.describes`: whether a query lists the predicates and values of resources.
-/
namespace HistoricalFigures

/-- What a query asks for. -/
inductive Query.Body where
  /-- Adding the statements of triples. -/
  | insert (triples : List String)
  /-- Removing the statements that fit a pattern; a part that is none fits everything. -/
  | delete (subject predicate object : Option String)
  /-- Listing the values of variables for the instances that fit a search term, or for one subject
  among them. -/
  | select (projection : List String) (searchTerm : String) (subject : Option String)
  deriving DecidableEq

/-- A query with the namespaces that it declares. -/
structure Query where
  namespaces : Rdf.Namespaces
  body : Query.Body

namespace Query

/-- The kind of a query. -/
def Body.kind : Body → Kind
  | .insert _ => .insert
  | .delete _ _ _ => .delete
  | .select _ _ _ => .select

/-- The variables of a selection that lists the predicates and values of resources. -/
def describingVariables : List String := ["predicado", "valor"]

/-- Whether a query lists the predicates and values of resources: it selects those two variables,
in either order. -/
def Body.describes : Body → Bool
  | .select projection _ _ =>
    projection = describingVariables || projection = describingVariables.reverse
  | _ => false

end Query

end HistoricalFigures
