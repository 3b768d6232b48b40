import HistoricalFigures.Disk.Basic

/-!
Paths, and the places that they lead to.

* `Path.ofText`, `Path.text`: the names of a path, and the path that names write.
* `Path.place`: the place that a path leads to if there is a directory at every name.
* `Disk.resolve`: the place that a path leads to on a disk; every name on the way needs a directory,
  and neither a name nor the path may be too long.
* `Disk.nodeAt`: what is found there.
-/
namespace HistoricalFigures

/-- The names of a path, empty ones between slashes that follow each other. The path of the root, and
with it every path from the root, begins with a slash as a name. -/
abbrev Path := List String

namespace Path

/-- What stands between the slashes of a text. The first piece is under way. -/
def pieces : List Char → List (List Char)
  | [] => [[]]
  | '/' :: rest => [] :: pieces rest
  | c :: rest =>
    match pieces rest with
    | [] => [[c]]
    | first :: others => (c :: first) :: others

/-- The names of a path. -/
def ofText (text : String) : Path :=
  match text.toList with
  | '/' :: rest => Place.rootName :: (pieces rest).map String.ofList
  | whole => (pieces whole).map String.ofList

/-- The path that names write. -/
def text (path : Path) : String :=
  match path with
  | [] => ""
  | first :: rest =>
    if first = Place.rootName then first ++ "/".intercalate rest else "/".intercalate path

/-- Whether a text can be a path. None has a null character. -/
def isWellFormed (text : String) : Bool := !text.toList.contains '\x00'

/-- The place that a path leads to if there is a directory at every name. -/
def place (path : Path) : Place := path.foldl Place.descend []

/-- The path of the directory that holds what a path leads to. -/
def directory (path : Path) : Path := path.dropLast

/-- A path that is followed by a name, with every longer path up to one. -/
def extend (path : Path) : List String → List Path
  | [] => []
  | name :: rest => (path ++ [name]) :: extend (path ++ [name]) rest

/-- The paths along a path, from the shortest one, that path included. A path is not written with
a slash at its end, so those that end with no name are left out. -/
def stages (path : Path) : List Path :=
  (extend [] path).filter fun stage => stage.getLast? ≠ some ""

end Path

namespace Disk

/-- The most octets of a name. -/
def maxNameSize : Nat := 255

/-- The most octets of a path. -/
def maxPathSize : Nat := 4095

/-- Whether a name is too long for any file or directory. -/
def isTooLong (name : String) : Bool := maxNameSize < name.utf8ByteSize

/-- The directory behind one more name. -/
def enter (disk : Disk) (place : Place) (name : String) : Except Obstacle Place :=
  if isTooLong name then .error .nameTooLong
  else
    match disk.node? (place.descend name) with
    | some .directory => .ok (place.descend name)
    | some (.file _) => .error .notDirectory
    | none => .error .missing

/-- The place behind the names of a path. All but the last one lead to directories, and a path
without any name leads nowhere. -/
def walk (disk : Disk) (path : Path) : Except Obstacle Place := do
  let directory ← path.dropLast.foldlM disk.enter []
  match path.getLast? with
  | none => .ok directory
  | some last =>
    if path = [""] then .error .missing
    else if isTooLong last then .error .nameTooLong
    else .ok (directory.descend last)

/-- The place that a path leads to. A path that is too long as a whole leads nowhere, whatever its
names. -/
def resolve (disk : Disk) (path : Path) : Except Obstacle Place :=
  if maxPathSize < path.text.utf8ByteSize then .error .nameTooLong else disk.walk path

/-- What is found at a path. -/
def nodeAt (disk : Disk) (path : Path) : Except Obstacle Node := do
  match disk.node? (← disk.resolve path) with
  | some node => .ok node
  | none => .error .missing

/-- Whether something is found at a path. -/
def isThere (disk : Disk) (path : Path) : Bool := (disk.nodeAt path).isOk

/-- Whether a directory is found at a path. -/
def isDirectory (disk : Disk) (path : Path) : Bool :=
  match disk.nodeAt path with
  | .ok .directory => true
  | _ => false

end Disk

end HistoricalFigures
