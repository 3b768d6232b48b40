import HistoricalFigures.Command.Basic
import HistoricalFigures.Dataset.Engine
import HistoricalFigures.Federated
import HistoricalFigures.Import.FromDbpedia
import HistoricalFigures.Mappings

/-!
Running the commands of the program.

* `Command.run`: a command does its work and ends with an exit code.
* `Invocation.run`: the program with its arguments and the named values of its environment.
-/
namespace HistoricalFigures

/-- Whether a failure is told to the user in a line. -/
def Failure.isForUser : Failure → Bool
  | .document (.beyondUnicode code) => code ≤ 0x7FFFFFFF
  | .document _ => true
  | .incomplete _ => true
  | .query _ => true
  | .request _ => true
  | .readOnly => true
  | .dataset _ => true
  | .importing _ => true
  | .mappings _ => false
  | .fuseki _ => true
  | .argument _ => true
  | .shape (.malformedInteger _) => true
  | .shape (.longInteger _) => true
  | .shape .nanInteger => true
  | .shape (.pairLength _ _) => true
  | .shape _ => false
  | .disk _ => false
  | .noText _ => true
  | .tooDeep _ => false
  | .endpoint _ => false

namespace Command

/-- The exit code of what succeeds. -/
def succeeded : Int := 0

/-- The exit code of what fails. -/
def failed : Int := 1

/-- The exit code of arguments that make no command. -/
def misused : Int := 2

/-- Tells an error and fails. -/
def complain (message : String) : Action World Int := do
  World.complain ("Error: " ++ message)
  pure failed

/-- An action whose failures are told to the user where they are meant for users. -/
def toldToUser (action : Action World Int) : Action World Int :=
  tryCatch action fun failure =>
    if failure.isForUser then complain failure.message else throw failure

/-- Prints a value as JSON. -/
def sayJson (value : Json) : Action World Unit := World.tell value.indented

/-! ### Backends -/

/-- The engine on the document that the settings name. -/
def engineOf (settings : Settings) : Dataset.Engine World where
  gateway := (Dataset.Gateway.onDisk (Path.ofText settings.datasetPath).place).within World.disk
    fun disk world => { world with disk := disk }
  readOnly := settings.readOnly

/-- The backend that is named, or else that of the settings. -/
def executorOf (settings : Settings) (backend : Option Backend) : Executor World :=
  match backend.getD settings.backend with
  | .file => (engineOf settings).execute
  | .fuseki => Fuseki.execute settings.fuseki

/-- The text of a file. -/
def textOf (path : String) : Action World String := do
  match (← get).disk.readOctets path with
  | .error error => throw (.disk error)
  | .ok octets => Action.ofExcept .noText (Utf8.decodeLines octets)

/-- The JSON value that a file holds, if it holds one. -/
def jsonOf? (path : String) : Action World (Option Json) := do
  match ← (textOf path).attempt with
  | .ok text => Action.ofExcept (.tooDeep ∘ .text) (Json.parseShallow text)
  | .error (.noText _) => pure none
  | .error failure => throw failure

/-! ### The commands -/

/-- Prints the figures that a query lists. -/
def runFigureQuery (execute : Executor World) (text language : String) : Action World Int :=
  toldToUser do
    let figures ← Figure.fromQuery execute text language
    sayJson (← Figure.renderAll figures)
    pure succeeded

/-- Prints the answer of a Fuseki dataset to a query. -/
def runFusekiQuery (config : Fuseki.Config) (text : String) : Action World Int := do
  match ← (Fuseki.execute config text).attempt with
  | .ok payload => sayJson payload; pure succeeded
  | .error (.fuseki fault) => sayJson (.obj [("error", .str fault.message)]); pure failed
  | .error (.query cause) => sayJson (.obj [("error", .str cause.message)]); pure failed
  | .error failure => throw failure

/-- Prints the answer of the engine to a query. -/
def runEngineQuery (settings : Settings) (text : Option String) : Action World Int := do
  let (status, payload) ← (engineOf settings).handle (.obj [("query", Json.ofText? text)])
  sayJson payload
  pure (if status = 200 then succeeded else failed)

/-- Runs a query. -/
def runQuery (settings : Settings) (text file : Option String) (asFigures : Bool)
    (language : String) (backend : Option Backend) : Action World Int := do
  let text ← match file with
    | some path => some <$> textOf path
    | none => pure text
  if asFigures then runFigureQuery (executorOf settings backend) (text.getD "") language
  else
    match backend.getD settings.backend with
    | .fuseki => runFusekiQuery settings.fuseki (text.getD "")
    | .file => runEngineQuery settings text

/-- The line of a figure that was found. -/
def foundLine (figure : Figure) : String :=
  "[" ++ figure.source ++ "] " ++ figure.name.shown ++ " <" ++ figure.uri.shown ++ ">"

/-- Searches DBpedia and the ontology. -/
def runSearch (settings : Settings) (order : Dbpedia.Search) (asJson : Bool)
    (backend : Option Backend) : Action World Int := do
  let findings ← Federated.search (some (executorOf settings backend)) order
  if asJson then sayJson findings.toJson
  else
    findings.figures.forM fun figure => World.tell (foundLine figure)
    if !findings.unavailable.isEmpty then
      World.complain ("Sources unavailable: " ++ ", ".intercalate findings.unavailable)
    World.tell (Json.numberText findings.figures.length ++ " result(s)")
  pure succeeded

/-- Lists the figures of the ontology. -/
def runFigures (settings : Settings) (asJson : Bool) (backend : Option Backend) :
    Action World Int :=
  toldToUser do
    let figures ← Figure.list (executorOf settings backend)
    if asJson then sayJson (← Figure.renderAll figures)
    else figures.forM fun figure => World.tell (figure.id ++ "\t" ++ figure.name.shown)
    pure succeeded

/-- Lists the properties of a resource. -/
def runDescribe (settings : Settings) (uri : String) (backend : Option Backend) :
    Action World Int :=
  toldToUser do
    let properties ← Figure.describe (executorOf settings backend) uri
    properties.forM fun property =>
      World.tell (property.predicate.shown ++ "\t" ++ property.value.shown)
    pure succeeded

/-- Imports figures of DBpedia. -/
def runImport (settings : Settings) (order : Import.Order) (backend : Option Backend) :
    Action World Int := do
  match ← (Import.run (executorOf settings backend) settings.historyPath order).attempt with
  | .ok entities =>
    World.tell ("Imported " ++ Json.numberText entities.length ++ " figure(s)")
    pure succeeded
  | .error failure =>
    complain (if failure.isForUser then failure.message else "Import failed: " ++ failure.message)

/-- The question before everything is removed. -/
def clearQuestion : String := "This removes every statement from the ontology. Continue? [y/N]: "

/-- What a typed line answers to a question; nothing means no. -/
def answerOf? (line : String) : Option Bool :=
  let word := String.ofList (Unicode.trim (Unicode.lowercase line.toList))
  if word = "y" ∨ word = "yes" then some true
  else if word = "n" ∨ word = "no" ∨ word = "" then some false
  else none

/-- Asks until one of the typed lines is an answer; where none is, the answer is no. -/
def confirm (question : String) : List String → Action World Bool
  | [] => do
    World.print question
    pure false
  | line :: later => do
    World.print (question ++ line ++ "\n")
    modify fun world => { world with typed := later }
    match answerOf? line with
    | some answer => pure answer
    | none =>
      World.tell "Error: invalid input"
      confirm question later

/-- The line on a removal. -/
def clearedLine (payload : Json) : Except Json.Fault String := do
  match ← Json.member "removed" .null payload with
  | .null => .ok "Ontology cleared"
  | removed => .ok ("Ontology cleared (" ++ removed.shown ++ " statements removed)")

/-- Removes everything. -/
def runClear (settings : Settings) (force : Bool) (backend : Option Backend) :
    Action World Int := do
  let confirmed ← if force then pure true else confirm clearQuestion (← get).typed
  if confirmed then
    toldToUser do
      let payload ← Figure.clear (executorOf settings backend)
      World.tell (← Action.shaped (clearedLine payload))
      pure succeeded
  else pure failed

/-- Shows the mappings. -/
def runShowMappings (settings : Settings) : Action World Int := do
  match Mappings.load settings.mappingsPath (← get).disk with
  | .ok mappings => sayJson mappings; pure succeeded
  | .error (.mappings fault) => complain fault.message
  | .error failure => throw failure

/-- Saves the mappings of a file. -/
def runSaveMappings (settings : Settings) (file : String) : Action World Int := do
  match ← jsonOf? file with
  | none => complain ("Invalid JSON in " ++ file ++ ": not a JSON text")
  | some mappings =>
    match ← (Mappings.save settings.mappingsPath mappings).attempt with
    | .ok _ => pure succeeded
    | .error (.mappings fault) => complain fault.message
    | .error failure => throw failure

/-- An action whose failures as a Fuseki dataset are told to the user. -/
def toldOfFuseki (action : Action World Int) : Action World Int :=
  tryCatch action fun failure =>
    match failure with
    | .fuseki fault => complain fault.message
    | _ => throw failure

/-- Tests a Fuseki dataset. -/
def runTestFuseki (settings : Settings) : Action World Int := do
  let report ← Fuseki.testConnection settings.fuseki
  World.tell report.message
  pure (if report.success then succeeded else failed)

/-- Shows what a Fuseki dataset holds. -/
def runFusekiStats (settings : Settings) : Action World Int :=
  toldOfFuseki do
    sayJson (← Fuseki.stats settings.fuseki)
    pure succeeded

/-- Uploads a file to a Fuseki dataset. -/
def runUpload (settings : Settings) (file graph contentType : String) : Action World Int := do
  let data ← textOf file
  toldOfFuseki do
    let _ ← Fuseki.upload settings.fuseki data graph contentType
    pure succeeded

/-- The line on how a shell completes commands. -/
def completionLine (shell : String) : String :=
  "Run: eval \"$(_PHBSPARQL_COMPLETE=source_" ++ shell ++ " python -m phbsparql)\""

/-- Runs a command. -/
def run (settings : Settings) : Command → Action World Int
  | .query text file asFigures language backend =>
    runQuery settings text file asFigures language backend
  | .search order asJson backend => runSearch settings order asJson backend
  | .figures asJson backend => runFigures settings asJson backend
  | .describe uri backend => runDescribe settings uri backend
  | .importFigures term limit endpoint backend =>
    runImport settings ⟨term, .int limit, endpoint⟩ backend
  | .clear force backend => runClear settings force backend
  | .history => do
    let entries ← Action.ofExcept id (Import.readHistory settings.historyPath (← get).disk)
    sayJson (.arr entries)
    pure succeeded
  | .categories language => do
    sayJson (Dbpedia.categories language)
    pure succeeded
  | .showMappings => runShowMappings settings
  | .saveMappings file => runSaveMappings settings file
  | .testFuseki => runTestFuseki settings
  | .fusekiStats => runFusekiStats settings
  | .upload file graph contentType => runUpload settings file graph contentType
  | .completion shell => do
    World.tell (completionLine shell)
    pure succeeded

end Command

namespace Invocation

/-- The named values of an environment with those of a file of settings, if it is there. -/
def environmentWith (environment : Settings.Environment) (settingsFile : Option String)
    (disk : Disk) : Except Failure Settings.Environment :=
  match settingsFile.bind fun path => (disk.readOctets path).toOption with
  | some octets => Settings.addFile environment octets
  | none => .ok environment

/-- The settings of a run. -/
def settings (environment : Settings.Environment) (invocation : Invocation) (disk : Disk) :
    Except Failure Settings := do
  let named ← environmentWith environment invocation.settingsFile disk
  (Settings.ofEnvironment named).mapError .argument

/-- The settings of a run, if its arguments name a command and its values make settings. -/
def settings? (environment : Settings.Environment) (arguments : List String) (disk : Disk) :
    Option Settings := do
  (settings environment (← (read disk arguments).toOption) disk).toOption

/-- The paths of the files that a run reads or writes; its arguments may be such paths too. -/
def paths (environment : Settings.Environment) (arguments : List String) (disk : Disk) :
    List String :=
  match settings? environment arguments disk with
  | some settings => arguments ++ [settings.datasetPath, settings.historyPath, settings.mappingsPath]
  | none => arguments

/-- What comes of arguments that are refused. -/
def refuse : Command.Refusal → Action World Int
  | .misuse => pure Command.misused
  | .nullCharacter => throw (.argument .nullCharacter)

/-- Runs the program with its arguments and the named values of its environment. The settings are
made before the arguments of the command are read. -/
def run (environment : Settings.Environment) (arguments : List String) : Action World Int := do
  let disk := (← get).disk
  match read disk arguments with
  | .error refusal => refuse refusal
  | .ok invocation =>
    match settings environment invocation disk with
    | .error failure => Command.complain failure.message
    | .ok settings =>
      match Command.read disk invocation.name invocation.arguments with
      | .error refusal => refuse refusal
      | .ok command => command.run settings

end Invocation

end HistoricalFigures
