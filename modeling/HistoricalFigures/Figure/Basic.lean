import HistoricalFigures.Figure.Identifier
import HistoricalFigures.Json.Access
import HistoricalFigures.Rdf.Vocabulary

/-!
Historical figures.

* `Figure`: a figure as it is shown, whatever source it comes from.
* `Figure.toJson`: a figure as JSON.
* `Figure.isShallow`: whether a figure can be shown.
* `localIdOf`: the identifier of a figure by the value that should be its address.
-/
namespace HistoricalFigures

/-- A historical figure. What a source says of it is kept as it came, text or not. -/
structure Figure where
  id : String
  uri : Json
  name : Json
  description : Json
  thumbnail : Json
  birthDate : Json
  deathDate : Json
  birthPlace : Json
  deathPlace : Json
  nationality : Json
  occupation : Json
  source : String

namespace Figure

/-- A figure as JSON. -/
def toJson (figure : Figure) : Json :=
  .obj [("id", .str figure.id), ("uri", figure.uri), ("name", figure.name),
    ("description", figure.description), ("thumbnail", figure.thumbnail),
    ("fechaNacimiento", figure.birthDate), ("fechaFallecimiento", figure.deathDate),
    ("lugarNacimiento", figure.birthPlace), ("lugarFallecimiento", figure.deathPlace),
    ("nacionalidad", figure.nationality), ("ocupacion", figure.occupation),
    ("source", .str figure.source), ("type", .str Rdf.figureClassName)]

/-- The most lists and objects within each other of a value that is shown. -/
def maxDepth : Nat := 494

/-- Whether a figure can be shown, that is, whether none of its values goes too deep. -/
def isShallow (figure : Figure) : Bool :=
  [figure.uri, figure.name, figure.description, figure.thumbnail, figure.birthDate,
    figure.deathDate, figure.birthPlace, figure.deathPlace, figure.nationality,
    figure.occupation].all (Json.isWithin maxDepth)

/-- The identifier of a figure by the value that should be its address. -/
def localIdOf (uri : Json) : Except Json.Fault String :=
  if uri.isTruthy then do
    let marked ← Json.holds "#" uri
    localId <$> Json.textFor (if marked then .rsplit else .rstrip) uri
  else .ok ""

/-- The value of a variable in a row of a query result. -/
def boundValue (name : String) (row : Json) : Except Json.Fault Json := do
  Json.member "value" (.str "") (← Json.member name (.obj []) row)

/-- The figures from a place on whose identifiers are neither among those seen nor repeated. -/
def distinctFrom (seen : List String) : List Figure → List Figure
  | [] => []
  | figure :: rest =>
    if figure.id ∈ seen then distinctFrom seen rest
    else figure :: distinctFrom (figure.id :: seen) rest

/-- The figures without those whose identifier came before. -/
def distinct (figures : List Figure) : List Figure := distinctFrom [] figures

end Figure

end HistoricalFigures
