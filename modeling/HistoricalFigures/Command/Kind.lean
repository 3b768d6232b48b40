import HistoricalFigures.Disk.Path
import HistoricalFigures.Number.Integer

/-!
What the values of arguments have to be.

* `Refusal`: why arguments are refused.
* `Kind.check`: whether a text is a value of a kind.
-/
namespace HistoricalFigures.Command

/-- Why arguments are refused. -/
inductive Refusal where
  /-- They make no command. -/
  | misuse
  /-- One that has to be a path holds a null character. -/
  | nullCharacter
  deriving DecidableEq

/-- What a value has to be. -/
inductive Kind where
  | text
  | choice (values : List String)
  | integer
  /-- The path of a file. -/
  | file
  /-- The path of a file or of nothing. -/
  | fileOrNothing

/-- Refuses what does not fit. -/
def require (fits : Bool) : Except Refusal Unit := if fits then .ok () else .error .misuse

/-- Refuses a path that does not fit, and before that what can be no path. -/
def requirePath (path : String) (fits : Bool) : Except Refusal Unit :=
  if Path.isWellFormed path then require fits else .error .nullCharacter

/-- Whether a text is a value of a kind. -/
def Kind.check (disk : Disk) (value : String) : Kind → Except Refusal Unit
  | .text => .ok ()
  | .choice values => require (values.contains value)
  | .integer => require (Number.readInteger value.toList).isOk
  | .file =>
    requirePath value
      (disk.isThere (Path.ofText value) && !disk.isDirectory (Path.ofText value))
  | .fileOrNothing => requirePath value (!disk.isDirectory (Path.ofText value))

end HistoricalFigures.Command
