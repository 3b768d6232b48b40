import HistoricalFigures.Rdf.Term

/-!
Results of selections.

* `Results`: variables and rows.
* `Results.toJson`: the results in the JSON format of SPARQL.
-/
namespace HistoricalFigures.Query

open Rdf (Term)

/-- The variables of a selection and its rows. A row has the variables that have a value. -/
structure Results where
  projection : List String
  rows : List (Assoc Term)

/-- A row as JSON. -/
def rowJson (row : Assoc Term) : Json := .obj (row.map fun (name, term) => (name, term.toJson))

/-- The results as JSON. -/
def Results.toJson (results : Results) : Json :=
  .obj [("head", .obj [("vars", Json.ofTexts results.projection)]),
    ("results", .obj [("bindings", .arr (results.rows.map rowJson))])]

end HistoricalFigures.Query
