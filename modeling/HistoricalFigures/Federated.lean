import HistoricalFigures.Dbpedia.Search
import HistoricalFigures.Figure.Service

/-!
Searching DBpedia and the ontology together.

* `Federated.search`: what both sources find, and which of them could be searched.
-/
namespace HistoricalFigures.Federated

/-- What a source finds, and whether it could be searched. -/
structure Source where
  figures : List Figure
  isAvailable : Bool

/-- A source that could not be searched, or was left out. -/
def Source.none : Source := ⟨[], false⟩

/-- A source that finds figures. Where one of them cannot be shown it counts as one that could not be
searched, but those before that one stay. -/
def Source.ofFigures (figures : List Figure) : Source :=
  ⟨figures.takeWhile Figure.isShallow, figures.all Figure.isShallow⟩

/-- What both sources find, DBpedia first. -/
structure Findings where
  dbpedia : Source
  ontology : Source

/-- The figures of both sources. -/
def Findings.figures (findings : Findings) : List Figure :=
  findings.dbpedia.figures ++ findings.ontology.figures

/-- The sources that could not be searched, by name. -/
def Findings.unavailable (findings : Findings) : List String :=
  (if findings.dbpedia.isAvailable then [] else ["dbpedia"]) ++
    if findings.ontology.isAvailable then [] else ["ontology"]

/-- The findings as JSON. -/
def Findings.toJson (findings : Findings) : Json :=
  .obj [("results", .arr (findings.figures.map Figure.toJson)),
    ("sources", .obj [("dbpedia", .bool findings.dbpedia.isAvailable),
      ("ontology", .bool findings.ontology.isAvailable)])]

/-- The source that an action searches; it may fail. -/
def sourceOf {σ : Type} (action : Action σ (List Figure)) : Action σ Source := do
  match ← action.attempt with
  | .ok figures => pure (.ofFigures figures)
  | .error _ => pure .none

/-- Searches DBpedia, and the ontology if there is a backend for it. -/
def search (execute : Option (Executor World)) (order : Dbpedia.Search) : Action World Findings := do
  let dbpedia ← sourceOf order.run
  let ontology ← match execute with
    | some execute => sourceOf (Figure.search execute order.term)
    | none => pure .none
  pure ⟨dbpedia, ontology⟩

end HistoricalFigures.Federated
