import HistoricalFigures.Disk.Directories
import HistoricalFigures.Encoding.Utf8

/-!
Reading and writing files.

* `Disk.readOctets`, `Disk.writeText`: whole files by their paths.
* `Disk.replaceText`: a file is replaced as a whole, by way of a temporary one, or stays as it is.
* `Disk.ofFiles`: the disk with given files.
-/
namespace HistoricalFigures.Disk

/-! ### Whole files -/

/-- The octets of the file at a path. -/
def octetsAt (disk : Disk) (path : Path) : Except Obstacle ByteArray := do
  match ← disk.nodeAt path with
  | .file octets => .ok octets
  | .directory => .error .isDirectory

/-- The disk with a text as the file at a path. -/
def putText (disk : Disk) (path : Path) (text : String) : Except Obstacle Disk := do
  let place ← disk.resolve path
  if disk.node? place = some .directory then .error .isDirectory
  else .ok (disk.put place (.file (Utf8.encode text)))

/-- The octets of the file with a path. -/
def readOctets (disk : Disk) (path : String) : Except DiskError ByteArray :=
  (disk.octetsAt (Path.ofText path)).mapError fun obstacle => ⟨obstacle, path⟩

/-- The disk with a text as the file with a path and with the directories on the way to it, and
whether that succeeded. -/
def writeText (disk : Disk) (path text : String) : Disk × Except DiskError Unit :=
  match disk.makeDirectories (Path.ofText path).directory with
  | (disk, .error error) => (disk, .error error)
  | (disk, .ok _) =>
    match disk.putText (Path.ofText path) text with
    | .error obstacle => (disk, .error ⟨obstacle, path⟩)
    | .ok written => (written, .ok ())

/-! ### Replacing a file -/

/-- The name of a temporary file with a number. -/
def temporaryName (number : Nat) : String :=
  ".document-" ++ String.ofList (Number.natText number) ++ ".tmp"

/-- The first number from a given one on whose temporary file is not there. -/
def freeNumber (disk : Disk) (directory : Place) : Nat → Nat → Nat
  | 0, number => number
  | tries + 1, number =>
    if (disk.node? (directory ++ [temporaryName number])).isSome then
      disk.freeNumber directory tries (number + 1)
    else number

/-- A place in a directory where nothing is. -/
def temporaryPlace (disk : Disk) (directory : Place) : Place :=
  directory ++ [temporaryName (disk.freeNumber directory disk.entries.length 0)]

/-- The disk with the file at a place moved to a path, unless a directory is there. -/
def moveFile (disk : Disk) (source : Place) (target : Path) : Except Obstacle Disk := do
  let place ← disk.resolve target
  match disk.node? place, disk.node? source with
  | some .directory, _ => .error .isDirectory
  | _, some node => .ok ((disk.remove source).put place node)
  | _, none => .error .missing

/-- The disk with a text as the file at a place, and whether that succeeded. The text goes to a
temporary file first, which then takes the place; a temporary file that cannot is removed. -/
def replaceText (disk : Disk) (place : Place) (text : String) : Disk × Except Obstacle Unit :=
  let directory := place.dropLast
  match disk.makeDirectories directory with
  | (disk, .error error) => (disk, .error error.obstacle)
  | (disk, .ok _) =>
    let temporary := disk.temporaryPlace directory
    match disk.putText temporary text with
    | .error obstacle => (disk, .error obstacle)
    | .ok written =>
      match written.moveFile temporary place with
      | .ok replaced => (replaced, .ok ())
      | .error obstacle => (written.remove temporary, .error obstacle)

/-! ### Given files -/

/-- The disk with one more node at a path and with the directories on the way to it. -/
def withNode (disk : Disk) (path : String) (node : Node) : Disk :=
  let (disk, outcome) := disk.makeDirectories (Path.ofText path).directory
  match outcome, disk.resolve (Path.ofText path) with
  | .ok _, .ok place => disk.put place node
  | _, _ => disk

/-- The disk with the given nodes at their paths. -/
def ofFiles (files : List (String × Node)) : Disk :=
  files.foldl (fun disk (path, node) => disk.withNode path node) empty

end HistoricalFigures.Disk
