import HistoricalFigures.Json.Reading
import HistoricalFigures.World

/-!
The mappings between DBpedia and the ontology, a file with an object.

* `Mappings.load`, `Mappings.save`: the object of the file.
-/
namespace HistoricalFigures.Mappings

/-- The mappings where there is no file. -/
def empty : Json :=
  .obj [("classMappings", .arr []), ("propertyMappings", .arr []), ("languageMappings", .arr [])]

/-- The object that a text writes. -/
def ofText (text : String) : Except Failure Json := do
  match ← (Json.parseShallow text).mapError (.tooDeep ∘ .text) with
  | some (.obj members) => .ok (.obj members)
  | some _ => .error (.mappings .fileNoObject)
  | none => .error (.mappings (.unreadable "not a JSON text"))

/-- The object that a file holds. -/
def ofOctets (octets : ByteArray) : Except Failure Json :=
  match Utf8.decodeLines octets with
  | .error fault => .error (.mappings (.unreadable fault.message))
  | .ok text => ofText text

/-- The mappings in the file with a path. -/
def load (path : String) (disk : Disk) : Except Failure Json :=
  match disk.readOctets path with
  | .ok octets => ofOctets octets
  | .error error =>
    if error.obstacle = .missing then .ok empty
    else .error (.mappings (.unreadable error.message))

/-- The mappings become the file with a path. -/
def write (path : String) (mappings : Json) : Action Disk Unit := do
  match mappings with
  | .obj _ =>
    Action.requireFewMissing (Path.ofText path)
    let (changed, outcome) := (← get).writeText path mappings.indented
    set changed
    Action.ofExcept (fun error => .mappings (.unwritable error)) outcome
  | _ => throw (.mappings .noObject)

/-- The mappings become the file with a path, and a line tells so. -/
def save (path : String) (mappings : Json) : Action World Unit := do
  World.onDisk (write path mappings)
  World.say ("Mappings saved to " ++ path)

end HistoricalFigures.Mappings
