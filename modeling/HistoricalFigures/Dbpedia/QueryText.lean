import HistoricalFigures.Text.Lines

/-!
The queries that are sent to DBpedia.

* `searchQuery`, `personQuery`, `figureQuery`: their texts. What is put into a text between quotes
  has to be escaped before.
* `languageFilter`: the clauses that restrict a search to languages.
-/
namespace HistoricalFigures.Dbpedia

/-- The clauses that restrict the names and the summaries of a search to a language, or to both
languages. -/
def languageFilter (language : String) : String :=
  if language = "both" then
    "FILTER(LANG(?name) = \"es\" || LANG(?name) = \"en\")\n" ++
      "  FILTER(LANG(?abstract) = \"es\" || LANG(?abstract) = \"en\")"
  else
    "FILTER(LANG(?name) = \"" ++ language ++ "\")\n" ++
      "  FILTER(LANG(?abstract) = \"" ++ language ++ "\")"

/-- The clause that a value of a person for a predicate mentions one of some words. -/
def mentionClause (predicate name : String) (words : List String) : String :=
  let tests := words.map fun word =>
    "CONTAINS(LCASE(STR(?" ++ name ++ ")), \"" ++ word ++ "\")"
  "\x7b ?person dbo:" ++ predicate ++ " ?" ++ name ++ " . FILTER(" ++ " || ".intercalate tests ++
    ") \x7d"

/-- The clause for the label of a value in a language. -/
def labelClause (name language : String) : String :=
  Text.optionalClause ("?" ++ name ++ " rdfs:label ?" ++ name ++ "Label . FILTER(LANG(?" ++ name ++
    "Label) = \"" ++ language ++ "\")")

/-- The clauses that restrict a search to people related to Bolivia. -/
def boliviaFilter : String :=
  Text.lines [
    "",
    "    FILTER EXISTS \x7b",
    "      \x7b ?person dbo:nationality dbr:Bolivia \x7d UNION",
    "      \x7b ?person dbp:nationality dbr:Bolivia \x7d UNION",
    "      \x7b ?person dbo:birthPlace dbr:Bolivia \x7d UNION",
    "      \x7b ?person dbp:birthPlace dbr:Bolivia \x7d UNION",
    "      \x7b ?person dbo:deathPlace dbr:Bolivia \x7d UNION",
    "      \x7b ?person dbp:deathPlace dbr:Bolivia \x7d UNION",
    "      " ++ mentionClause "birthPlace" "bp" ["bolivia"] ++ " UNION",
    "      " ++ mentionClause "deathPlace" "dp" ["bolivia"] ++ " UNION",
    "      " ++ mentionClause "abstract" "ab" ["bolivian", "boliviana"],
    "    \x7d"]

/-- The search for a term in names and summaries. -/
def searchQuery (language term : String) (limit : String) : String :=
  Text.lines [
    "",
    "PREFIX dbo: <http://dbpedia.org/ontology/>",
    "PREFIX dbr: <http://dbpedia.org/resource/>",
    "PREFIX dbp: <http://dbpedia.org/property/>",
    "PREFIX rdfs: <http://www.w3.org/2000/01/rdf-schema#>",
    "",
    "SELECT DISTINCT ?person ?name ?abstract ?thumbnail ?birthDate ?deathDate",
    "       ?birthPlace ?deathPlace ?nationality ?occupation",
    "WHERE \x7b",
    "  ?person a dbo:Person ;",
    "          rdfs:label ?name ;",
    "          dbo:abstract ?abstract .",
    "",
    "  " ++ languageFilter language,
    "",
    "  FILTER(",
    "    CONTAINS(LCASE(STR(?name)), LCASE(\"" ++ term ++ "\")) ||",
    "    CONTAINS(LCASE(STR(?abstract)), LCASE(\"" ++ term ++ "\"))",
    "  )",
    boliviaFilter,
    "  " ++ Text.optionalClause "?person dbo:thumbnail ?thumbnail",
    "  " ++ Text.optionalClause "?person dbo:birthDate ?birthDate",
    "  " ++ Text.optionalClause "?person dbo:deathDate ?deathDate",
    "  " ++ Text.optionalClause "?person dbo:birthPlace ?birthPlace",
    "  " ++ Text.optionalClause "?person dbo:deathPlace ?deathPlace",
    "  " ++ Text.optionalClause "?person dbo:nationality ?nationality",
    "  " ++ Text.optionalClause "?person dbo:occupation ?occupation",
    "\x7d",
    "ORDER BY ?name",
    "LIMIT " ++ limit]

/-- The labels of the places, the nationality and the occupation of a person. -/
def personQuery (uri language : String) : String :=
  Text.lines [
    "",
    "PREFIX dbo: <http://dbpedia.org/ontology/>",
    "PREFIX rdfs: <http://www.w3.org/2000/01/rdf-schema#>",
    "",
    "SELECT ?birthPlace ?birthPlaceLabel ?deathPlace ?deathPlaceLabel ?nationality",
    "       ?nationalityLabel ?occupation ?occupationLabel ?thumbnail",
    "WHERE \x7b",
    "  OPTIONAL \x7b",
    "    <" ++ uri ++ "> dbo:birthPlace ?birthPlace .",
    "    " ++ labelClause "birthPlace" language,
    "  \x7d",
    "  OPTIONAL \x7b",
    "    <" ++ uri ++ "> dbo:deathPlace ?deathPlace .",
    "    " ++ labelClause "deathPlace" language,
    "  \x7d",
    "  OPTIONAL \x7b",
    "    <" ++ uri ++ "> dbo:nationality ?nationality .",
    "    " ++ labelClause "nationality" language,
    "  \x7d",
    "  OPTIONAL \x7b",
    "    <" ++ uri ++ "> dbo:occupation ?occupation .",
    "    " ++ labelClause "occupation" language,
    "  \x7d",
    "  " ++ Text.optionalClause ("<" ++ uri ++ "> dbo:thumbnail ?thumbnail"),
    "\x7d",
    "LIMIT 1"]

/-- The full record of a person. -/
def figureQuery (uri language : String) : String :=
  Text.lines [
    "",
    "PREFIX dbo: <http://dbpedia.org/ontology/>",
    "PREFIX rdfs: <http://www.w3.org/2000/01/rdf-schema#>",
    "",
    "SELECT ?name ?abstract ?thumbnail ?birthDate ?deathDate ?birthPlace ?deathPlace",
    "       ?nationality ?occupation ?notableWork ?award ?education ?almaMater ?party ?position",
    "WHERE \x7b",
    "  <" ++ uri ++ "> rdfs:label ?name ;",
    "          rdfs:comment ?abstract .",
    "  FILTER(LANG(?name) = \"" ++ language ++ "\")",
    "  FILTER(LANG(?abstract) = \"" ++ language ++ "\")",
    "",
    "  " ++ Text.optionalClause ("<" ++ uri ++ "> dbo:thumbnail ?thumbnail"),
    "  " ++ Text.optionalClause ("<" ++ uri ++ "> dbo:birthDate ?birthDate"),
    "  " ++ Text.optionalClause ("<" ++ uri ++ "> dbo:deathDate ?deathDate"),
    "  " ++ Text.optionalClause ("<" ++ uri ++ "> dbo:birthPlace ?birthPlace"),
    "  " ++ Text.optionalClause ("<" ++ uri ++ "> dbo:deathPlace ?deathPlace"),
    "  " ++ Text.optionalClause ("<" ++ uri ++ "> dbo:nationality ?nationality"),
    "  " ++ Text.optionalClause ("<" ++ uri ++ "> dbo:occupation ?occupation"),
    "  " ++ Text.optionalClause ("<" ++ uri ++ "> dbo:notableWork ?notableWork"),
    "  " ++ Text.optionalClause ("<" ++ uri ++ "> dbo:award ?award"),
    "  " ++ Text.optionalClause ("<" ++ uri ++ "> dbo:education ?education"),
    "  " ++ Text.optionalClause ("<" ++ uri ++ "> dbo:almaMater ?almaMater"),
    "  " ++ Text.optionalClause ("<" ++ uri ++ "> dbo:party ?party"),
    "  " ++ Text.optionalClause ("<" ++ uri ++ "> dbo:position ?position"),
    "\x7d"]

end HistoricalFigures.Dbpedia
