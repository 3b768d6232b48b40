import HistoricalFigures.Text.Lines

/-!
The queries that are sent to the ontology.

* `listQuery`, `searchQuery`, `describeQuery`, `clearQuery`, `insertQuery`: their texts. What is put
  into a text between quotes has to be escaped before.
-/
namespace HistoricalFigures.Figure

/-- The declarations of the namespaces. -/
def declarations : String :=
  Text.lines [
    "PREFIX rdf: <http://www.w3.org/1999/02/22-rdf-syntax-ns#>",
    "PREFIX phb: <http://example.org/personasHistoricasBolivianas#>"]

/-- The clause that a variable without its diacritics contains a term. -/
def containsClause (name term : String) : String :=
  "CONTAINS(REPLACE(LCASE(?" ++ name ++ "), \"[\\\\u0300-\\\\u036f]\", \"\"), \"" ++ term ++ "\")"

/-- The search for a term in names and summaries. -/
def searchQuery (term : String) : String :=
  declarations ++ Text.lines [
    "PREFIX rdfs: <http://www.w3.org/2000/01/rdf-schema#>",
    "",
    "SELECT ?persona ?nombre ?descripcion ?fechaNacimiento ?fechaFallecimiento",
    "       ?lugarNacimiento ?lugarFallecimiento ?nacionalidad ?ocupacion ?imagenReferencia",
    "WHERE \x7b",
    "  ?persona rdf:type phb:PersonaHistoricaBoliviana .",
    "  ?persona phb:nombre ?nombre .",
    "  " ++ Text.optionalClause "?persona phb:resumen ?descripcion",
    "  " ++ Text.optionalClause "?persona phb:fechaNacimiento ?fechaNacimiento",
    "  " ++ Text.optionalClause "?persona phb:fechaFallecimiento ?fechaFallecimiento",
    "  " ++ Text.optionalClause "?persona phb:lugarNacimiento ?lugarNacimiento",
    "  " ++ Text.optionalClause "?persona phb:lugarFallecimiento ?lugarFallecimiento",
    "  " ++ Text.optionalClause "?persona phb:nacionalidad ?nacionalidad",
    "  " ++ Text.optionalClause "?persona phb:ocupacion ?ocupacion",
    "  " ++ Text.optionalClause "?persona phb:imagenReferencia ?imagenReferencia",
    "",
    "  FILTER(",
    "    " ++ containsClause "nombre" term ++ " ||",
    "    " ++ containsClause "descripcion" term,
    "  )",
    "\x7d",
    "ORDER BY ?nombre",
    "LIMIT 50"]

/-- All historical figures. -/
def listQuery : String :=
  declarations ++ Text.lines [
    "",
    "SELECT DISTINCT ?persona ?nombre ?resumen ?fechaNacimiento ?fechaFallecimiento",
    "       ?lugarNacimiento ?lugarFallecimiento ?nacionalidad ?ocupacion ?imagenReferencia",
    "WHERE \x7b",
    "  ?persona rdf:type phb:PersonaHistoricaBoliviana .",
    "  " ++ Text.optionalClause "?persona phb:nombre ?nombre",
    "  " ++ Text.optionalClause "?persona phb:resumen ?resumen",
    "  " ++ Text.optionalClause "?persona phb:fechaNacimiento ?fechaNacimiento",
    "  " ++ Text.optionalClause "?persona phb:fechaFallecimiento ?fechaFallecimiento",
    "  " ++ Text.optionalClause "?persona phb:lugarNacimiento ?lugarNacimiento",
    "  " ++ Text.optionalClause "?persona phb:lugarFallecimiento ?lugarFallecimiento",
    "  " ++ Text.optionalClause "?persona phb:nacionalidad ?nacionalidad",
    "  " ++ Text.optionalClause "?persona phb:ocupacion ?ocupacion",
    "  " ++ Text.optionalClause "?persona phb:imagenReferencia ?imagenReferencia",
    "\x7d"]

/-- All predicates and values of a resource. -/
def describeQuery (uri : String) : String :=
  declarations ++ Text.lines [
    "",
    "SELECT ?predicado ?valor",
    "WHERE \x7b",
    "  <" ++ uri ++ "> ?predicado ?valor .",
    "\x7d"]

/-- The removal of everything. -/
def clearQuery : String := "DELETE WHERE \x7b ?s ?p ?o \x7d"

/-- The insertion of triples. -/
def insertQuery (triples : List String) : String :=
  declarations ++ Text.lines [
    "",
    "INSERT DATA \x7b",
    "  " ++ "\n  ".intercalate triples] ++ "\x7d"

end HistoricalFigures.Figure
