import HistoricalFigures.Text.Lines

/-!
The queries that a Fuseki dataset is asked on its own account.

* `statsQuery`, `graphsQuery`, `pingQuery`: their texts.
-/
namespace HistoricalFigures.Fuseki

/-- The numbers of subjects, predicates, objects and triples. -/
def statsQuery : String :=
  Text.lines [
    "",
    "SELECT",
    "  (COUNT(DISTINCT ?s) AS ?subjects)",
    "  (COUNT(DISTINCT ?p) AS ?predicates)",
    "  (COUNT(DISTINCT ?o) AS ?objects)",
    "  (COUNT(*) AS ?triples)",
    "WHERE \x7b",
    "  ?s ?p ?o",
    "\x7d"]

/-- The named graphs. -/
def graphsQuery : String :=
  Text.lines [
    "",
    "SELECT DISTINCT ?g",
    "WHERE \x7b",
    "  GRAPH ?g \x7b ?s ?p ?o \x7d",
    "\x7d",
    "ORDER BY ?g"]

/-- Whether there is any triple. -/
def pingQuery : String := "ASK \x7b ?s ?p ?o \x7d"

end HistoricalFigures.Fuseki
