import HistoricalFigures.Text.Shown

/-!
What is found at places: files and directories.

* `Place`: where a file or a directory is.
* `Disk`: what is found at each place.
* `Disk.node?_put_self`, `Disk.node?_put_of_ne`: what is found after something was put at a place.
-/
namespace HistoricalFigures

/-! ### Places -/

/-- The names that lead to a place from the directory at the top. A place beyond that directory
begins with two points for every step up, or with a slash for the root. -/
abbrev Place := List String

namespace Place

/-- The name that leads to the root. -/
def rootName : String := "/"

/-- The name that leads upwards. -/
def upName : String := ".."

/-- Whether a place is the top, above the top, or the root. -/
def isFixed (place : Place) : Bool := place.all (· = upName) || place = [rootName]

/-- Whether a place is the top or below it. -/
def isInside (place : Place) : Bool :=
  place.head?.all fun name => name ≠ upName && name ≠ rootName

/-- The place above a place. The root is above itself. -/
def up (place : Place) : Place :=
  if place.all (· = upName) then place ++ [upName]
  else if place = [rootName] then place
  else place.dropLast

/-- The place behind one more name: no name and one point stay, two points lead upwards, and a slash
leads to the root. -/
def descend (place : Place) (name : String) : Place :=
  if name = "" ∨ name = "." then place
  else if name = upName then place.up
  else if name = rootName then [rootName]
  else place ++ [name]

end Place

/-! ### Nodes -/

/-- What is found at a place. -/
inductive Node where
  | file (octets : ByteArray)
  | directory

instance : DecidableEq Node
  | .file first, .file second =>
    match ByteArray.instDecidableEq first second with
    | isTrue same => isTrue (congrArg Node.file same)
    | isFalse different => isFalse fun same => different (Node.file.inj same)
  | .directory, .directory => isTrue rfl
  | .file _, .directory => isFalse Node.noConfusion
  | .directory, .file _ => isFalse Node.noConfusion

/-- What is found at each place. What is fixed is a directory that is always there. -/
structure Disk where
  entries : List (Place × Node)

namespace Disk

/-- A disk without files. -/
def empty : Disk := ⟨[]⟩

instance : Inhabited Disk := ⟨empty⟩

/-- What is found at a place. -/
def node? (disk : Disk) (place : Place) : Option Node :=
  if place.isFixed then some .directory else disk.entries.lookup place

/-- The disk without what was at a place. -/
def remove (disk : Disk) (place : Place) : Disk :=
  ⟨disk.entries.filter fun entry => entry.1 ≠ place⟩

/-- The disk with a node at a place. -/
def put (disk : Disk) (place : Place) (node : Node) : Disk :=
  ⟨(disk.remove place).entries ++ [(place, node)]⟩

/-- Without what was at a place, nothing is found there. -/
theorem lookup_remove_self (entries : List (Place × Node)) (place : Place) :
    (entries.filter fun entry => entry.1 ≠ place).lookup place = none := by
  induction entries with
  | nil => rfl
  | cons entry rest ih =>
    obtain ⟨first, node⟩ := entry
    rw [List.filter_cons]
    split
    · rename_i unlike
      have different : first ≠ place := by simpa using unlike
      rw [List.lookup_cons, beq_eq_false_iff_ne.mpr different.symm]
      exact ih
    · exact ih

/-- Without what was at a place, the same is found at all others. -/
theorem lookup_remove_of_ne (entries : List (Place × Node)) {place other : Place}
    (different : other ≠ place) :
    (entries.filter fun entry => entry.1 ≠ place).lookup other = entries.lookup other := by
  induction entries with
  | nil => rfl
  | cons entry rest ih =>
    obtain ⟨first, node⟩ := entry
    rw [List.filter_cons]
    split
    · rw [List.lookup_cons, List.lookup_cons, ih]
    · rename_i alike
      have same : first = place := by simpa using alike
      have unlike : (other == first) = false := by simpa [same] using different
      rw [List.lookup_cons, unlike]
      exact ih

/-- What was put at a place is found there, unless a directory always is. -/
theorem node?_put_self (disk : Disk) {place : Place} (node : Node)
    (free : place.isFixed = false) : (disk.put place node).node? place = some node := by
  rw [node?, free]
  simp only [put, remove, List.lookup_append, lookup_remove_self]
  simp

/-- What is put at a place changes nothing at all others. -/
theorem node?_put_of_ne (disk : Disk) {place other : Place} (node : Node)
    (different : other ≠ place) : (disk.put place node).node? other = disk.node? other := by
  have unlike : (other == place) = false := by simpa using different
  rw [node?, node?]
  simp only [put, remove, List.lookup_append, lookup_remove_of_ne _ different]
  simp [List.lookup_cons, unlike]

/-- The files at and below the top. -/
def files (disk : Disk) : List (Place × ByteArray) :=
  disk.entries.filterMap fun (place, node) =>
    match node with
    | .file octets => if place.isInside then some (place, octets) else none
    | .directory => none

end Disk

/-! ### Obstacles -/

/-- What stands in the way at a place. -/
inductive Obstacle where
  | missing
  | exists
  | notDirectory
  | isDirectory
  | nameTooLong
  deriving DecidableEq

/-- An obstacle with the path at which it was met, as it was given. -/
structure DiskError where
  obstacle : Obstacle
  path : String

/-- The words for an obstacle, behind their number. -/
def Obstacle.text : Obstacle → String
  | .missing => "[Errno 2] No such file or directory"
  | .exists => "[Errno 17] File exists"
  | .notDirectory => "[Errno 20] Not a directory"
  | .isDirectory => "[Errno 21] Is a directory"
  | .nameTooLong => "[Errno 36] File name too long"

/-- The words for an obstacle at a path. -/
def DiskError.message (error : DiskError) : String :=
  error.obstacle.text ++ ": " ++ Text.shown error.path

end HistoricalFigures
