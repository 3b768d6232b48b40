import HistoricalFigures.Dbpedia.Search
import HistoricalFigures.Figure.Service
import HistoricalFigures.Import.History

/-!
Importing figures of DBpedia into the ontology. Every attempt becomes an entry of the history.

* `searchAndInsert`: the search and the insertion.
* `run`: the attempt and its entry.
-/
namespace HistoricalFigures.Import

/-- What is imported. -/
structure Order where
  term : String
  limit : Json
  endpoint : String

/-- The search of an import. -/
def Order.search (order : Order) : Dbpedia.Search :=
  ⟨order.term, "es", order.endpoint, order.limit, true⟩

/-- Searches figures and inserts their entities, of which there has to be one. -/
def searchAndInsert (execute : Executor World) (order : Order) : Action World (List Figure.Entity) := do
  World.say ("Searching DBpedia for '" ++ order.term ++ "' (limit " ++ order.limit.shown ++ ")")
  let figures ← order.search.run
  let entities ← Action.shaped (Figure.toEntities figures)
  if entities.isEmpty then throw (.importing .noEntities)
  let report ← Figure.importEntities execute Rdf.figureClassName
    (entities.map Figure.Entity.toJson)
  World.say report.message
  pure entities

/-- The entry of an attempt by its outcome. -/
def entryOf (time : String) (order : Order) (outcome : Except Failure (List Figure.Entity)) : Json :=
  let ending := match outcome with
    | .ok entities =>
      [("status", Json.str "success"), ("importedCount", .int entities.length)]
    | .error failure => [("status", .str "failed"), ("error", .str failure.message)]
  .obj ([("timestamp", .str time), ("searchTerm", .str order.term), ("limit", order.limit)] ++ ending)

/-- One more entry of the history. A file that cannot be written is passed over. -/
def recordEntry (historyPath : String) (entry : Json) : Action World Unit := do
  match ← (World.onDisk (appendHistory historyPath entry)).attempt with
  | .ok _ => pure ()
  | .error (.disk _) => pure ()
  | .error failure => throw failure

/-- Imports figures of DBpedia. -/
def run (execute : Executor World) (historyPath : String) (order : Order) :
    Action World (List Figure.Entity) := do
  let time := (← get).time
  let outcome ← (searchAndInsert execute order).attempt
  recordEntry historyPath (entryOf time order outcome)
  Action.ofExcept id outcome

end HistoricalFigures.Import
