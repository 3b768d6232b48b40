import HistoricalFigures.Figure.Basic
import HistoricalFigures.Figure.QueryText
import HistoricalFigures.Literal.Escaping
import HistoricalFigures.Unicode.Digit

/-!
Entities: historical figures on the way into the ontology.

* `insertQuery?`: the query that inserts an entity.
* `Entity`, `Figure.toEntity?`: the entity of a figure of another source.
-/
namespace HistoricalFigures.Figure

/-! ### Inserting entities -/

/-- The address of the entity with an identifier. -/
def entityUri (id : String) : String := Rdf.ontologyNamespace ++ id

/-- The triple between an entity and a text. -/
def textTriple (uri name text : String) : String :=
  "<" ++ uri ++ "> phb:" ++ name ++ " \"" ++ Literal.escapeLiteral text ++ "\" ."

/-- The members of an entity that become a triple if they are given, in order. -/
def optionalMembers : List String :=
  ["fechaNacimiento", "fechaFallecimiento", "lugarNacimiento", "lugarFallecimiento", "nacionalidad"]

/-- The triple for a member of an entity, if it is given. -/
def optionalTriple (uri name : String) (entity : Json) : Except Json.Fault (List String) := do
  let value ← Json.member name .null entity
  if value.isTruthy then
    .ok [textTriple uri name (← Json.textFor .replace value)]
  else .ok []

/-- The occupations of an entity: a text is a single one. -/
def occupations (entity : Json) : Except Json.Fault (List Json) := do
  match (← Json.member "ocupacion" .null entity).orElse (.arr []) with
  | .str text => .ok [.str text]
  | value => value.items

/-- The triples of an entity with an identifier and a label. -/
def entityTriples (className : String) (id label entity : Json) :
    Except Json.Fault (List String) := do
  let uri := entityUri id.shown
  let name ← Json.textOrEmptyFor .replace label
  let summary ← Json.textOrEmptyFor .replace (← Json.member "description" (.str "") entity)
  let details ← optionalMembers.mapM fun member => optionalTriple uri member entity
  let works ← (← occupations entity).mapM (Json.textOrEmptyFor .replace)
  let image ← optionalTriple uri "imagenReferencia" entity
  .ok (["<" ++ uri ++ "> rdf:type phb:" ++ className ++ " .", textTriple uri "nombre" name,
    textTriple uri "resumen" summary] ++ details.flatten ++ works.map (textTriple uri "ocupacion") ++
    image)

/-- The query that inserts an entity of a class. An entity without an identifier or a label has
none. -/
def insertQuery? (className : String) (entity : Json) : Except Json.Fault (Option String) := do
  let id ← Json.member "id" .null entity
  let label ← Json.member "label" .null entity
  if id.isTruthy && label.isTruthy then
    some <$> insertQuery <$> entityTriples className id label entity
  else .ok none

/-! ### Entities of figures -/

/-- An entity made from a figure of another source. -/
structure Entity where
  id : String
  label : Json
  description : Json
  birthDate : String
  deathDate : String
  birthPlace : Json
  deathPlace : Json
  nationality : Json
  occupations : List Json
  image : Json

/-- An entity as JSON. -/
def Entity.toJson (entity : Entity) : Json :=
  .obj [("id", .str entity.id), ("label", entity.label), ("description", entity.description),
    ("fechaNacimiento", .str entity.birthDate), ("fechaFallecimiento", .str entity.deathDate),
    ("lugarNacimiento", entity.birthPlace), ("lugarFallecimiento", entity.deathPlace),
    ("nacionalidad", entity.nationality), ("ocupacion", .arr entity.occupations),
    ("imagenReferencia", entity.image), ("type", .str Rdf.figureClassName)]

/-- The form of a date: digits, and hyphens between year, month and day. -/
def datePattern : List (Char → Bool) :=
  let digit := Unicode.isDigit
  let hyphen := fun c => c = '-'
  [digit, digit, digit, digit, hyphen, digit, digit, hyphen, digit, digit]

/-- Whether the characters of a text are of the given classes, one after the other. -/
def hasForm : List (Char → Bool) → List Char → Bool
  | [], text => text.isEmpty
  | _ :: _, [] => false
  | p :: form, c :: rest => p c && hasForm form rest

/-- The date that a text begins with, or the empty text. -/
def leadingDate (text : List Char) : List Char :=
  let date := text.take datePattern.length
  if hasForm datePattern date then date else []

/-- The date of a value that may go on with a time. -/
def dateOf (value : Json) : Except Json.Fault String := do
  let text ← Json.textOrEmptyFor .strip value
  .ok (String.ofList (leadingDate (Unicode.trim text.toList)))

/-- The occupations of a figure: a text is a single one, an empty one none. -/
def occupationList (value : Json) : Except Json.Fault (List Json) :=
  match value with
  | .str text => .ok (if text = "" then [] else [value])
  | _ => value.items

/-- The entity of a figure. A figure whose name makes no identifier has none. -/
def toEntity? (figure : Figure) : Except Json.Fault (Option Entity) := do
  let id := slug (← Json.textOrEmptyFor .lower figure.name)
  if id = "" then .ok none
  else
    let birthDate ← dateOf figure.birthDate
    let deathDate ← dateOf figure.deathDate
    let occupations ← occupationList figure.occupation
    let empty := Json.str ""
    .ok (some
      { id := id
        label := figure.name
        description := figure.description.orElse empty
        birthDate := birthDate
        deathDate := deathDate
        birthPlace := figure.birthPlace.orElse empty
        deathPlace := figure.deathPlace.orElse empty
        nationality := figure.nationality.orElse (.str "Boliviana")
        occupations := occupations
        image := figure.thumbnail.orElse empty })

/-- The entities of figures, those without one left out. -/
def toEntities (figures : List Figure) : Except Json.Fault (List Entity) :=
  (figures.mapM toEntity?).map fun found => found.filterMap fun entity => entity

end HistoricalFigures.Figure
