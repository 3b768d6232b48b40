import HistoricalFigures.Action
import HistoricalFigures.Figure.Entity
import HistoricalFigures.Literal.Encoded
import HistoricalFigures.Literal.SearchForm
import HistoricalFigures.Query.Kind

/-!
The services on an ontology, whatever backend runs its queries.

* `search`, `list`, `fromQuery`: historical figures.
* `render`, `renderAll`: figures as they are shown.
* `describe`: the predicates and values of a resource.
* `importEntities`, `clear`: changes of the ontology.
-/
namespace HistoricalFigures.Figure

/-! ### Figures of rows -/

/-- A value decoded if it is a text that looks encoded. -/
def decodeValue (value : Json) : Except Json.Fault Json := do
  if !value.isTruthy then return value
  let length ← value.length
  match value with
  | .str text => return .str (Literal.decodeIfEncoded text)
  | _ => if length % 4 = 0 then throw (.noText value.typeName) else return value

/-- Whether the texts of a row are taken as they are, or decoded where they look encoded. -/
inductive Texts where
  | asTheyAre
  | decoded

/-- The value of a variable in a row. -/
def rowValue (texts : Texts) (name : String) (row : Json) : Except Json.Fault Json := do
  let value ← boundValue name row
  match texts with
  | .asTheyAre => .ok value
  | .decoded => decodeValue value

/-- The summary of a row, under one name or another. -/
def summaryOf (texts : Texts) (row : Json) : Except Json.Fault Json := do
  let description ← rowValue texts "descripcion" row
  if description.isTruthy then .ok description else rowValue texts "resumen" row

/-- The figure of a row of the ontology. -/
def ofRow (texts : Texts) (row : Json) : Except Json.Fault Figure := do
  let uri ← boundValue "persona" row
  let description ← summaryOf texts row
  let id ← localIdOf uri
  let name ← rowValue texts "nombre" row
  let thumbnail ← boundValue "imagenReferencia" row
  let birthDate ← rowValue texts "fechaNacimiento" row
  let deathDate ← rowValue texts "fechaFallecimiento" row
  let birthPlace ← rowValue texts "lugarNacimiento" row
  let deathPlace ← rowValue texts "lugarFallecimiento" row
  let nationality ← rowValue texts "nacionalidad" row
  let occupation ← rowValue texts "ocupacion" row
  .ok
    { id := id
      uri := uri
      name := name
      description := description
      thumbnail := thumbnail
      birthDate := birthDate
      deathDate := deathDate
      birthPlace := birthPlace
      deathPlace := deathPlace
      nationality := nationality
      occupation := occupation
      source := "ontology" }

/-- The rows of a query result; one that does not count as given has none. -/
def rowsOf (result : Json) : Except Json.Fault (List Json) := do
  let results ← Json.member "results" (.obj []) (result.orElse (.obj []))
  let rows ← Json.member "bindings" (.arr []) results
  (rows.orElse (.arr [])).items

variable {σ : Type}

/-- The figures whose name or summary contains a term, whatever its case and its diacritics. -/
def search (execute : Executor σ) (term : String) : Action σ (List Figure) := do
  let result ← execute (searchQuery (Literal.escapeLiteral (Literal.searchForm term)))
  let rows ← Action.shaped (rowsOf result)
  let figures ← Action.shaped (rows.mapM (ofRow .asTheyAre))
  pure (distinct figures)

/-- All figures. -/
def list (execute : Executor σ) : Action σ (List Figure) := do
  let rows ← Action.shaped (rowsOf (← execute listQuery))
  Action.shaped (rows.mapM (ofRow .decoded))

/-! ### Figures of queries that users write -/

/-- The variables of a figure with the other names that they may have, the first ones first. -/
def aliases : List (String × List String) :=
  [("persona", ["s"]), ("nombre", ["label"]), ("descripcion", ["resumen", "abstract", "comment"]),
    ("imagenReferencia", ["thumbnail"])]

/-- The row with a variable that it lacks taken from the first of its other names that it has. -/
def completeVariable (row : Assoc Json) (names : String × List String) : Assoc Json :=
  if (row.get? names.1).isSome then row
  else
    match names.2.findSome? row.get? with
    | some value => row.put names.1 value
    | none => row

/-- What is shown for a missing name and for a missing summary in a language. -/
def missingTexts (language : String) : String × String :=
  if language = "es" then ("Sin nombre", "Sin descripción") else ("No name", "No description")

/-- The figure of a row of a query that a user wrote. -/
def ofFreeRow (language : String) (row : Json) : Except Json.Fault Figure := do
  let named := aliases.foldl completeVariable (← row.members)
  let figure ← ofRow .decoded (.obj named)
  let id ← if figure.id = "" then slug <$> Json.textOrEmptyFor .lower figure.name else .ok figure.id
  let (name, description) := missingTexts language
  .ok
    { figure with
      id := id
      name := figure.name.orElse (.str name)
      description := figure.description.orElse (.str description) }

/-- The figures that a query lists. Only a query that selects is run. -/
def fromQuery (execute : Executor σ) (query language : String) : Action σ (List Figure) := do
  let kind ← Action.ofExcept .query (Query.classify query)
  if kind ≠ .select then throw (.argument .notSelecting)
  let rows ← Action.shaped (rowsOf (← execute query))
  Action.shaped (rows.mapM (ofFreeRow language))

/-- A figure as it is shown. -/
def render (figure : Figure) : Action σ Json :=
  if figure.isShallow then pure figure.toJson else throw (.tooDeep .value)

/-- Figures as they are shown. -/
def renderAll (figures : List Figure) : Action σ Json := do
  pure (.arr (← figures.mapM render))

/-! ### Resources -/

/-- A predicate of a resource and its value. -/
structure Property where
  predicate : Json
  value : Json

/-- A property as JSON. -/
def Property.toJson (property : Property) : Json :=
  .obj [("predicate", property.predicate), ("value", property.value)]

/-- The property of a row; a row without both of its variables has none. -/
def Property.ofRow (row : Json) : Except Json.Fault (Option Property) := do
  if !(← Json.holds "predicado" row) then return none
  if !(← Json.holds "valor" row) then return none
  let predicate ← Json.entry "value" (← Json.entry "predicado" row)
  let value ← Json.entry "value" (← Json.entry "valor" row)
  return some ⟨predicate, value⟩

/-- The properties of a resource, its classes left out. -/
def describe (execute : Executor σ) (uri : String) : Action σ (List Property) := do
  let rows ← Action.shaped (rowsOf (← execute (describeQuery uri)))
  let found ← Action.shaped (rows.mapM Property.ofRow)
  pure (found.filterMap fun property => property)

/-! ### Changes -/

/-- Removes everything. -/
def clear (execute : Executor σ) : Action σ Json := execute clearQuery

/-- What an import did. -/
inductive ImportReport where
  /-- There was nothing to import. -/
  | nothing
  | imported (count : Nat)

/-- The number of entities that were imported. -/
def ImportReport.count : ImportReport → Nat
  | .nothing => 0
  | .imported count => count

/-- The words for what an import did. -/
def ImportReport.message : ImportReport → String
  | .nothing => "No entities to import"
  | .imported count =>
    "Imported " ++ Json.numberText count ++ " entities into the ontology"

/-- Runs an insertion, which has to be accepted. -/
def insert (execute : Executor σ) (query : String) : Action σ Unit := do
  let response ← execute query
  let success ← Action.shaped (Json.member "success" .null response)
  if !success.isTruthy then
    let reason ← Action.shaped (Json.member "error" .null response)
    throw (.importing (.rejected reason))

/-- Inserts entities one after the other up to the first one that is not accepted. Entities without
an identifier or a label are left out. -/
def importEntities (execute : Executor σ) (className : String) (entities : List Json) :
    Action σ ImportReport := do
  if entities.isEmpty then return .nothing
  let queries ← Action.shaped (entities.mapM (insertQuery? className))
  let queries := queries.filterMap fun query => query
  queries.forM (insert execute)
  return .imported queries.length

end HistoricalFigures.Figure
