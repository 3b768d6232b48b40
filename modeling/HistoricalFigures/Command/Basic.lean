import HistoricalFigures.Command.Arguments
import HistoricalFigures.Settings

/-!
The commands of the program.

* `Command`: what the program is asked to do.
* `Command.read`: the command that its name and its arguments write.
* `Invocation`: the arguments of the program itself, up to the name of the command.
-/
namespace HistoricalFigures

/-- What the program is asked to do. A backend that is not named is the one of the settings. -/
inductive Command where
  /-- Running a query that is given or stands in a file. -/
  | query (text file : Option String) (asFigures : Bool) (language : String)
      (backend : Option Backend)
  /-- Searching DBpedia and the ontology. -/
  | search (order : Dbpedia.Search) (asJson : Bool) (backend : Option Backend)
  /-- Listing the figures of the ontology. -/
  | figures (asJson : Bool) (backend : Option Backend)
  /-- Listing the properties of a resource. -/
  | describe (uri : String) (backend : Option Backend)
  /-- Importing figures of DBpedia. -/
  | importFigures (term : String) (limit : Int) (endpoint : String) (backend : Option Backend)
  /-- Removing everything, at once or after a question. -/
  | clear (force : Bool) (backend : Option Backend)
  /-- Showing the history of imports. -/
  | history
  /-- Showing the categories that can be imported. -/
  | categories (language : String)
  | showMappings
  | saveMappings (file : String)
  | testFuseki
  | fusekiStats
  | upload (file graph contentType : String)
  /-- Telling how a shell completes commands. -/
  | completion (shell : String)

namespace Command

/-! ### Parts of commands -/

/-- The option that names a backend. -/
def backendOption : String × Kind := ("--backend", .choice ["local", "fuseki"])

/-- The backend that is named. -/
def backend? (arguments : Arguments) : Option Backend :=
  (arguments.values.get? backendOption.1).bind Backend.ofName?

/-- The options of a command. -/
def optionsOf (flags : List String) (valued : Assoc Kind) : Options := ⟨flags, valued, [], true⟩

/-- The languages of names and summaries. -/
def shownLanguages : List String := ["es", "en"]

/-- The shells whose completion is told. -/
def shells : List String := ["bash", "zsh", "fish", "powershell"]

/-! ### Commands by their arguments -/

/-- The arguments of a command that runs a query. -/
def queryForm : Form where
  options := optionsOf ["--persons"]
    [("--file", .file), ("--language", .choice shownLanguages), backendOption]
  needed := []
  optional := [.text]

/-- The command that runs a query. A query is either given or in a file. -/
def readQuery (disk : Disk) (arguments : List String) : Except Refusal Command := do
  let found ← queryForm.read disk arguments
  let file := found.values.get? "--file"
  require (file.isNone || found.first = "")
  .ok (.query found.others.head? file (found.has "--persons") (found.valueOr "--language" "es")
    (backend? found))

/-- The arguments of a command that searches. -/
def searchForm : Form where
  options := optionsOf ["--no-details", "--json-output"]
    [("--language", .choice Dbpedia.languages), ("--endpoint", .text), ("--limit", .integer),
      backendOption]
  needed := [.text]
  optional := []

/-- The command that searches. -/
def readSearch (disk : Disk) (arguments : List String) : Except Refusal Command := do
  let found ← searchForm.read disk arguments
  let order : Dbpedia.Search :=
    ⟨found.first, found.valueOr "--language" "es", found.valueOr "--endpoint" "es",
      .int (found.integerOr "--limit" 10), !found.has "--no-details"⟩
  .ok (.search order (found.has "--json-output") (backend? found))

/-- The command that lists figures. -/
def readFigures (disk : Disk) (arguments : List String) : Except Refusal Command := do
  let found ← Form.read ⟨optionsOf ["--json-output"] [backendOption], [], []⟩ disk arguments
  .ok (.figures (found.has "--json-output") (backend? found))

/-- The command that describes a resource. -/
def readDescribe (disk : Disk) (arguments : List String) : Except Refusal Command := do
  let found ← Form.read ⟨optionsOf [] [backendOption], [.text], []⟩ disk arguments
  .ok (.describe found.first (backend? found))

/-- The arguments of a command that imports figures. -/
def importForm : Form where
  options := optionsOf [] [("--limit", .integer), ("--endpoint", .text), backendOption]
  needed := [.text]
  optional := []

/-- The command that imports figures. -/
def readImport (disk : Disk) (arguments : List String) : Except Refusal Command := do
  let found ← importForm.read disk arguments
  .ok (.importFigures found.first (found.integerOr "--limit" 20) (found.valueOr "--endpoint" "es")
    (backend? found))

/-- The command that removes everything. -/
def readClear (disk : Disk) (arguments : List String) : Except Refusal Command := do
  let found ← Form.read ⟨optionsOf ["--force"] [backendOption], [], []⟩ disk arguments
  .ok (.clear (found.has "--force") (backend? found))

/-- A command without options and arguments. -/
def readPlain (command : Command) (disk : Disk) (arguments : List String) :
    Except Refusal Command := do
  let _ ← Form.read ⟨optionsOf [] [], [], []⟩ disk arguments
  .ok command

/-- The command that shows the categories. -/
def readCategories (disk : Disk) (arguments : List String) : Except Refusal Command := do
  let found ← Form.read ⟨optionsOf [] [("--language", .choice shownLanguages)], [], []⟩ disk arguments
  .ok (.categories (found.valueOr "--language" "es"))

/-- The command that tells how a shell completes commands. -/
def readCompletion (disk : Disk) (arguments : List String) : Except Refusal Command := do
  let found ← Form.read ⟨optionsOf [] [], [], [.choice shells]⟩ disk arguments
  .ok (.completion (found.others.headD "bash"))

/-- The command that saves mappings. -/
def readSaveMappings (disk : Disk) (arguments : List String) : Except Refusal Command := do
  let found ← Form.read ⟨optionsOf [] [], [.file], []⟩ disk arguments
  .ok (.saveMappings found.first)

/-- The arguments of a command that uploads data. -/
def uploadForm : Form where
  options := optionsOf [] [("--graph", .text), ("--content-type", .text)]
  needed := [.file]
  optional := []

/-- The command that uploads data. -/
def readUpload (disk : Disk) (arguments : List String) : Except Refusal Command := do
  let found ← uploadForm.read disk arguments
  .ok (.upload found.first (found.valueOr "--graph" "")
    (found.valueOr "--content-type" "text/turtle"))

/-- The options of a group of commands. -/
def groupOptions : Options := ⟨[], [], [], false⟩

/-- The name of a command of a group and its arguments. -/
def memberOf (disk : Disk) (arguments : List String) :
    Except Refusal (String × List String) := do
  match (← groupOptions.read disk arguments).others with
  | name :: rest => .ok (name, rest)
  | [] => .error .misuse

/-- The command on mappings that its name and its arguments write. -/
def readMappings (disk : Disk) (arguments : List String) : Except Refusal Command := do
  match ← memberOf disk arguments with
  | ("show", rest) => readPlain .showMappings disk rest
  | ("save", rest) => readSaveMappings disk rest
  | _ => .error .misuse

/-- The command on a Fuseki dataset that its name and its arguments write. -/
def readFuseki (disk : Disk) (arguments : List String) : Except Refusal Command := do
  match ← memberOf disk arguments with
  | ("test", rest) => readPlain .testFuseki disk rest
  | ("stats", rest) => readPlain .fusekiStats disk rest
  | ("upload", rest) => readUpload disk rest
  | _ => .error .misuse

/-- The names of the commands. -/
def names : List String :=
  ["query", "search", "figures", "describe", "import", "clear", "history", "categories", "mappings",
    "fuseki", "completion"]

/-- The command that its name and its arguments write. -/
def read (disk : Disk) (name : String) (arguments : List String) : Except Refusal Command :=
  match name with
  | "query" => readQuery disk arguments
  | "search" => readSearch disk arguments
  | "figures" => readFigures disk arguments
  | "describe" => readDescribe disk arguments
  | "import" => readImport disk arguments
  | "clear" => readClear disk arguments
  | "history" => readPlain .history disk arguments
  | "categories" => readCategories disk arguments
  | "mappings" => readMappings disk arguments
  | "fuseki" => readFuseki disk arguments
  | "completion" => readCompletion disk arguments
  | _ => .error .misuse

end Command

/-! ### The program's own arguments -/

/-- The arguments of the program: perhaps a file of settings, and the name of a command with its
arguments. -/
structure Invocation where
  settingsFile : Option String
  name : String
  arguments : List String

namespace Invocation

/-- The options of the program. -/
def options : Command.Options :=
  ⟨["--verbose"], [("--env-file", .fileOrNothing)], [('v', "--verbose")], false⟩

/-- The arguments told apart. Where a command should be named, options behind two hyphens are refused
like those before them. -/
def read (disk : Disk) (arguments : List String) : Except Command.Refusal Invocation := do
  let found ← options.read disk arguments
  match found.others with
  | name :: rest =>
    if Command.names.contains name then .ok ⟨found.values.get? "--env-file", name, rest⟩
    else do
      let _ ← options.read disk found.others
      .error .misuse
  | [] => .error .misuse

end Invocation

end HistoricalFigures
