import HistoricalFigures.Dbpedia.QueryText
import HistoricalFigures.Figure.Basic
import HistoricalFigures.Literal.Escaping
import HistoricalFigures.World

/-!
Historical figures on DBpedia.

* `query`: a query to one of the endpoints.
* `search`: the figures whose name or summary contains a term, completed by their details.
* `personDetails`, `figureDetails`: what is told of one person.
* `categories`: what can be imported.
-/
namespace HistoricalFigures.Dbpedia

/-! ### Endpoints -/

/-- The endpoint in English. -/
def englishEndpoint : String := "https://dbpedia.org/sparql"

/-- The endpoint in Spanish. -/
def spanishEndpoint : String := "https://es.dbpedia.org/sparql"

/-- The address of an endpoint, which may be given as an address itself. -/
def endpointUrl (endpoint : String) : Except Failure String :=
  if endpoint = "es" then .ok spanishEndpoint
  else if endpoint = "en" then .ok englishEndpoint
  else if "http://".toList.isPrefixOf endpoint.toList || "https://".toList.isPrefixOf endpoint.toList
  then .ok endpoint
  else .error (.argument (.endpoint endpoint))

/-- The seconds that a query may take. -/
def timeout : Nat := 30

/-- The rows of a query result. -/
def rowsOf (result : Json) : Except Json.Fault Json := do
  Json.member "bindings" (.arr []) (← Json.member "results" (.obj []) result)

/-- The result of a query, which has rows that can be counted. -/
def query (text endpoint : String) : Action World Json := do
  let url ← Action.ofExcept id (endpointUrl endpoint)
  let result ← World.ask url text timeout
  let rows ← Action.shaped (rowsOf result)
  let _ ← Action.shaped rows.length
  pure result

/-! ### Details of a person -/

/-- What is told of a person beyond the row of a search. A value that does not count as given is not
told. -/
structure Details where
  birthPlace : Json
  deathPlace : Json
  nationality : Json
  occupation : Json
  thumbnail : Json

/-- No details. -/
def Details.none : Details := ⟨.null, .null, .null, .null, .null⟩

/-- The details that are told, as JSON. -/
def Details.toJson (details : Details) : Json :=
  .obj ([("lugarNacimiento", details.birthPlace), ("lugarFallecimiento", details.deathPlace),
    ("nacionalidad", details.nationality), ("ocupacion", details.occupation),
    ("thumbnail", details.thumbnail)].filter fun member => member.2.isTruthy)

/-- The label of a value in a row, or else the last segment of its address. -/
def labelOrLocalId (name : String) (row : Json) : Except Json.Fault Json := do
  let label ← Figure.boundValue (name ++ "Label") row
  if label.isTruthy then .ok label
  else .str <$> Figure.localIdOf (← Figure.boundValue name row)

/-- The details in a row. -/
def Details.ofRow (row : Json) : Except Json.Fault Details := do
  let birthPlace ← labelOrLocalId "birthPlace" row
  let deathPlace ← labelOrLocalId "deathPlace" row
  let nationality ← labelOrLocalId "nationality" row
  let occupation ← labelOrLocalId "occupation" row
  let thumbnail ← Figure.boundValue "thumbnail" row
  .ok ⟨birthPlace, deathPlace, nationality, occupation, thumbnail⟩

/-- The details in the first row of a query result. -/
def Details.ofResult (result : Json) : Except Json.Fault Details := do
  let rows ← rowsOf result
  if rows.isTruthy then Details.ofRow (← rows.first) else .ok .none

/-- The details of a person; a query that fails tells none. -/
def personDetails (uri : Json) (language endpoint : String) : Action World Details := do
  match ← (query (personQuery uri.shown language) endpoint).attempt with
  | .error _ => pure .none
  | .ok result => Action.shaped (Details.ofResult result)

/-- A figure completed by details. -/
def complete (figure : Figure) (details : Details) : Figure :=
  { figure with
    birthPlace := details.birthPlace.orElse figure.birthPlace
    deathPlace := details.deathPlace.orElse figure.deathPlace
    nationality := details.nationality.orElse figure.nationality
    occupation := details.occupation.orElse figure.occupation
    thumbnail := details.thumbnail.orElse figure.thumbnail }

/-! ### Figures -/

/-- The figure of a row. -/
def figureOf (row : Json) : Except Json.Fault Figure := do
  let uri ← Figure.boundValue "person" row
  let id ← Figure.localIdOf uri
  let name ← Figure.boundValue "name" row
  let description ← Figure.boundValue "abstract" row
  let thumbnail ← Figure.boundValue "thumbnail" row
  let birthDate ← Figure.boundValue "birthDate" row
  let deathDate ← Figure.boundValue "deathDate" row
  let birthPlace ← Figure.boundValue "birthPlace" row
  let deathPlace ← Figure.boundValue "deathPlace" row
  let nationality ← Figure.boundValue "nationality" row
  let occupation ← Figure.boundValue "occupation" row
  .ok
    { id := id
      uri := uri
      name := name
      description := description
      thumbnail := thumbnail
      birthDate := birthDate
      deathDate := deathDate
      birthPlace := birthPlace
      deathPlace := deathPlace
      nationality := nationality
      occupation := occupation
      source := "dbpedia" }

/-- The languages of searches. -/
def languages : List String := ["es", "en", "both"]

/-- What is searched, and how. -/
structure Search where
  term : String
  language : String
  endpoint : String
  /-- The most rows; a text is read as a number. -/
  limit : Json
  /-- Whether every figure is completed by its details. -/
  withDetails : Bool

/-- The language of the details that an endpoint tells. -/
def detailsLanguage (endpoint : String) : String := if endpoint = "es" then "es" else "en"

/-- The figure of a search, completed by its details if they are wanted. -/
def completed (search : Search) (figure : Figure) : Action World Figure := do
  if search.withDetails then
    let details ← personDetails figure.uri (detailsLanguage search.endpoint) search.endpoint
    pure (complete figure details)
  else pure figure

/-- The figures of rows whose identifiers are neither among those seen nor repeated. -/
def figuresFrom (search : Search) (seen : List String) : List Json → Action World (List Figure)
  | [] => pure []
  | row :: rest => do
    let figure ← Action.shaped (figureOf row)
    if figure.id ∈ seen then figuresFrom search seen rest
    else
      let figure ← completed search figure
      let others ← figuresFrom search (figure.id :: seen) rest
      pure (figure :: others)

/-- The query of a search. -/
def Search.text (search : Search) : Except Failure String :=
  if search.language ∈ languages then
    match search.limit.integer with
    | .ok limit =>
      .ok (searchQuery search.language (Literal.escapeLiteral search.term) (Json.intText limit))
    | .error fault => .error (.shape fault)
  else .error (.argument (.language search.language))

/-- The figures whose name or summary contains a term. -/
def Search.run (search : Search) : Action World (List Figure) := do
  let text ← Action.ofExcept id search.text
  let result ← query text search.endpoint
  let rows ← Action.shaped (rowsOf result)
  figuresFrom search [] (← Action.shaped rows.items)

/-- The full record of a person, or nothing if there is none in the language. -/
def figureDetails (uri language endpoint : String) : Action World (Option Figure) := do
  let result ← query (figureQuery uri language) endpoint
  let rows ← Action.shaped (rowsOf result)
  if rows.isTruthy then
    let row ← Action.shaped (rows.first.bind Json.members)
    let person := Json.obj [("type", .str "uri"), ("value", .str uri)]
    some <$> Action.shaped (figureOf (.obj (row.put "person" person)))
  else pure none

/-! ### Categories -/

/-- A class of DBpedia that can be imported. -/
structure Category where
  id : String
  spanishName : String
  englishName : String
  sourceClass : String
  targetClass : String
  spanishDescription : String
  englishDescription : String

/-- The classes of DBpedia that can be imported. -/
def allCategories : List Category :=
  [{ id := "historical-bolivian-person"
     spanishName := "Personas Históricas Bolivianas"
     englishName := "Bolivian Historical Figures"
     sourceClass := "dbo:Person"
     targetClass := Rdf.figureClassName
     spanishDescription := "Personas destacadas en la historia de Bolivia"
     englishDescription := "Prominent figures in Bolivian history" }]

/-- A category as JSON, in Spanish or else in English. -/
def Category.toJson (language : String) (category : Category) : Json :=
  let spanish := language = "es"
  .obj [("id", .str category.id),
    ("name", .str (if spanish then category.spanishName else category.englishName)),
    ("dbpediaClass", .str category.sourceClass), ("ontologyClass", .str category.targetClass),
    ("description",
      .str (if spanish then category.spanishDescription else category.englishDescription))]

/-- The categories as JSON. -/
def categories (language : String) : Json := .arr (allCategories.map (Category.toJson language))

end HistoricalFigures.Dbpedia
