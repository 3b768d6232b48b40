import HistoricalFigures.Json.Reading
import HistoricalFigures.World

/-!
The history of imports, a file with a list.

* `readHistory`: the list; a file that is missing or holds no list counts as an empty one. Only a
  list that is nested too deep is an error.
* `appendHistory`: one more entry at the end.
-/
namespace HistoricalFigures.Import

/-- The list that a text writes. -/
def historyOf (text : String) : Except Failure (List Json) := do
  match ← (Json.parseShallow text).mapError (.tooDeep ∘ .text) with
  | some (.arr entries) => .ok entries
  | _ => .ok []

/-- The list in the file with a path. -/
def readHistory (path : String) (disk : Disk) : Except Failure (List Json) :=
  match disk.readOctets path with
  | .ok octets =>
    match Utf8.decodeLines octets with
    | .ok text => historyOf text
    | .error _ => .ok []
  | .error _ => .ok []

/-- One more entry at the end of the list in the file with a path. -/
def appendHistory (path : String) (entry : Json) : Action Disk Unit := do
  let disk ← get
  let entries ← Action.ofExcept id (readHistory path disk)
  Action.requireFewMissing (Path.ofText path)
  let (changed, outcome) := disk.writeText path (Json.arr (entries ++ [entry])).indented
  set changed
  Action.ofExcept .disk outcome

end HistoricalFigures.Import
