import HistoricalFigures.Disk.Path

/-!
Making directories.

* `Disk.makeDirectory`: one directory.
* `Disk.makeDirectories`: a directory with those on the way to it; what was made before an obstacle
  stays.
* `Disk.lacksTooMany`: whether that would be too many directories to make at once.
-/
namespace HistoricalFigures.Disk

/-- The disk with a directory at a path where nothing was. -/
def makeDirectory (disk : Disk) (path : Path) : Except Obstacle Disk := do
  let place ← disk.resolve path
  if (disk.node? place).isSome then .error .exists else .ok (disk.put place .directory)

/-- The disk with a directory at a path, which may have been there. -/
def ensureDirectory (disk : Disk) (path : Path) : Except DiskError Disk :=
  match disk.makeDirectory path with
  | .ok made => .ok made
  | .error obstacle => if disk.isDirectory path then .ok disk else .error ⟨obstacle, path.text⟩

/-- The disk with a directory at one of the paths along a path. Only at the last one a file is an
obstacle: before, what follows shows it. -/
def makeStage (disk : Disk) (stage : Path) (isLast : Bool) : Except DiskError Disk :=
  match disk.ensureDirectory stage with
  | .ok made => .ok made
  | .error error => if error.obstacle = .exists && !isLast then .ok disk else .error error

/-- The disk with directories at paths behind one that was just made. A path that ends with a point
was made with the one before it. -/
def makeBehind (disk : Disk) : List Path → Disk × Except DiskError Unit
  | [] => (disk, .ok ())
  | stage :: later =>
    if stage.getLast? = some "." then disk.makeBehind later
    else
      match disk.makeStage stage later.isEmpty with
      | .ok made => made.makeBehind later
      | .error error => (disk, .error error)

/-- The paths along a path that are to be made: those where nothing is, or else the last one. -/
def stagesToMake (disk : Disk) (path : Path) : List Path :=
  match path.stages.dropWhile disk.isThere with
  | [] => path.stages.getLast?.toList
  | stages => stages

/-- The most directories that are made on the way to one. -/
def maxMade : Nat := 985

/-- Whether more directories are to be made on the way to one than can be made at once. -/
def lacksTooMany (disk : Disk) (path : Path) : Bool := maxMade < (disk.stagesToMake path).length

/-- The disk with directories at a path and on the way to it, and whether that succeeded. -/
def makeDirectories (disk : Disk) (path : Path) : Disk × Except DiskError Unit :=
  match disk.stagesToMake path with
  | [] => (disk, .ok ())
  | stage :: later =>
    match disk.makeStage stage later.isEmpty with
    | .ok made => made.makeBehind later
    | .error error => (disk, .error error)

end HistoricalFigures.Disk
