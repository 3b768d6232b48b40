import HistoricalFigures.Assoc
import HistoricalFigures.Command.Kind

/-!
Options and other arguments of a command.

* `Options`: the options that a command knows.
* `Options.read?`: the arguments told apart; what is no option of the command is an error.
* `Form`: the options and the other arguments of a command.
* `Form.read`: the arguments of a command, each of its kind.
-/
namespace HistoricalFigures.Command

/-- The options that a command knows. -/
structure Options where
  /-- Options without a value, by their names. -/
  flags : List String
  /-- Options with a value, by their names. -/
  valued : Assoc Kind
  /-- Single letters for flags. -/
  letters : List (Char × String)
  /-- Whether options may follow other arguments. -/
  mixed : Bool

/-- Arguments told apart. The last value of an option counts. -/
structure Arguments where
  flags : List String
  values : Assoc String
  others : List String

namespace Options

/-- Whether an argument is an option, or several letters. -/
def looksLikeOption (argument : List Char) : Bool :=
  argument.head? = some '-' && argument.length ≠ 1

/-- The flags that letters stand for. -/
def lettersOf? (options : Options) (letters : List Char) : Option (List String) :=
  letters.mapM fun letter => options.letters.lookup letter

/-- The arguments behind those told apart so far; `waiting` names an option whose value comes
next. -/
def readFrom? (options : Options) (done : Arguments) : Option String → List String → Option Arguments
  | none, [] => some done
  | some _, [] => none
  | some name, value :: rest =>
    options.readFrom? { done with values := done.values.put name value } none rest
  | none, argument :: rest =>
    let text := argument.toList
    let name := String.ofList (text.takeWhile (· ≠ '='))
    let given := (text.dropWhile (· ≠ '=')).drop 1
    if argument = "--" then some { done with others := done.others ++ rest }
    else if !looksLikeOption text then
      if options.mixed then options.readFrom? { done with others := done.others ++ [argument] } none rest
      else some { done with others := done.others ++ argument :: rest }
    else if (options.valued.get? name).isSome then
      if '=' ∈ text then
        options.readFrom? { done with values := done.values.put name (String.ofList given) } none rest
      else options.readFrom? done (some name) rest
    else if options.flags.contains argument then
      options.readFrom? { done with flags := done.flags ++ [argument] } none rest
    else if "--".toList.isPrefixOf text then none
    else
      match options.lettersOf? (text.drop 1) with
      | some flags => options.readFrom? { done with flags := done.flags ++ flags } none rest
      | none => none

/-- The arguments told apart. -/
def read? (options : Options) (arguments : List String) : Option Arguments :=
  options.readFrom? ⟨[], [], []⟩ none arguments

/-- Whether the values of options are of their kinds. The option that comes first is the first to be
refused. -/
def check (options : Options) (disk : Disk) (values : Assoc String) : Except Refusal Unit :=
  values.forM fun (name, value) =>
    match options.valued.get? name with
    | some kind => kind.check disk value
    | none => .ok ()

/-- The arguments told apart, with values of their kinds. -/
def read (options : Options) (disk : Disk) (arguments : List String) : Except Refusal Arguments :=
  match options.read? arguments with
  | none => .error .misuse
  | some found => do
    options.check disk found.values
    .ok found

end Options

/-! ### Whole commands -/

/-- The options and the other arguments of a command. -/
structure Form where
  options : Options
  /-- What the arguments are that have to be there. -/
  needed : List Kind
  /-- What the arguments are that may follow those. -/
  optional : List Kind

/-- Whether arguments are of their kinds, with none missing and none too many. -/
def checkOthers (disk : Disk) : List Kind → List Kind → List String → Except Refusal Unit
  | kind :: needed, optional, value :: others => do
    kind.check disk value
    checkOthers disk needed optional others
  | _ :: _, _, [] => .error .misuse
  | [], kind :: optional, value :: others => do
    kind.check disk value
    checkOthers disk [] optional others
  | [], _, [] => .ok ()
  | [], [], _ :: _ => .error .misuse

/-- The arguments of a command, each of its kind. Options are checked before the others. -/
def Form.read (form : Form) (disk : Disk) (arguments : List String) : Except Refusal Arguments := do
  let found ← form.options.read disk arguments
  checkOthers disk form.needed form.optional found.others
  .ok found

/-- Whether a flag is given. -/
def Arguments.has (arguments : Arguments) (flag : String) : Bool := arguments.flags.contains flag

/-- The value of an option, or else another one. -/
def Arguments.valueOr (arguments : Arguments) (name default : String) : String :=
  (arguments.values.get? name).getD default

/-- The integer that is the value of an option, or else another one. -/
def Arguments.integerOr (arguments : Arguments) (name : String) (default : Int) : Int :=
  ((arguments.values.get? name).bind fun value => (Number.readInteger value.toList).toOption).getD
    default

/-- The first argument that is no option; none counts as an empty one. -/
def Arguments.first (arguments : Arguments) : String := arguments.others.headD ""

end HistoricalFigures.Command
