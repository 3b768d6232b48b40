import HistoricalFigures.Command.Run
import Std.Time

/-!
The program on the files of the current directory. Its requests over the network all fail.

* `main`: runs the program with its arguments.
-/
namespace HistoricalFigures.Program

/-- What is found at a path. -/
def nodeAt? (path : String) : IO (Option Node) := do
  try
    let found ← IO.FS.realPath path
    if ← found.isDir then return some .directory
    return some (.file (← IO.FS.readBinFile found))
  catch _ => return none

/-- The disk with what is found at the given paths and on the way to them. -/
def diskOf (paths : List String) : IO Disk := do
  let stages := paths.flatMap fun path => (Path.ofText path).stages.map Path.text
  let found ← stages.filterMapM fun path => do
    return (← nodeAt? path).map fun node => (path, node)
  return Disk.ofFiles found

/-- The named values of the environment. -/
def environment : IO Settings.Environment :=
  Settings.names.filterMapM fun name => do
    return (← IO.getEnv name).map fun value => (name, value)

/-- The time as the history of imports writes it. -/
def currentTime : IO String := do
  let now ← Std.Time.Timestamp.now
  return (Std.Time.DateTime.ofTimestampWithZone now .UTC).format "uuuu-MM-dd'T'HH:mm:ss.SSSSSSxxx"

/-- The lines of a stream up to its end. -/
partial def linesOf (stream : IO.FS.Stream) : IO (List String) := do
  let line ← stream.getLine
  if line.isEmpty then return []
  return (line.dropEndWhile fun c => c = '\n' || c = '\r').toString :: (← linesOf stream)

/-- Writes the file at a path if it differs from what was there. -/
def writeBack (before after : Disk) (path : String) : IO Unit := do
  match after.readOctets path with
  | .ok octets =>
    if (before.readOctets path).toOption.map Node.file ≠ some (.file octets) then
      let directory := (Path.ofText path).directory.text
      if directory ≠ "" then IO.FS.createDirAll directory
      IO.FS.writeBinFile path octets
  | .error _ => return

/-- Tells the outcome of a run and makes its exit code. -/
def exitCode : Except Failure Int → IO UInt32
  | .ok code => do
    if code = Command.misused then IO.eprintln "Error: the arguments make no command"
    return code.toNat.toUInt32
  | .error failure => do
    IO.eprintln failure.message
    return Command.failed.toNat.toUInt32

end HistoricalFigures.Program

open HistoricalFigures in
/-- Runs the program with its arguments. -/
def main (arguments : List String) : IO UInt32 := do
  let environment ← Program.environment
  let paths := Invocation.paths environment arguments (← Program.diskOf arguments)
  let disk ← Program.diskOf paths
  let typed ← if arguments.contains "clear" && !arguments.contains "--force" then
    Program.linesOf (← IO.getStdin) else pure []
  let world := { World.ofDisk disk with
    typed := typed
    lastQueryAnswer := .failure "no network"
    lastPostAnswer := .failure "no network"
    time := ← Program.currentTime }
  let (outcome, changed) := (Invocation.run environment arguments).run world
  paths.forM (Program.writeBack disk changed.disk)
  IO.print changed.printed
  IO.eprint changed.errors
  Program.exitCode outcome
