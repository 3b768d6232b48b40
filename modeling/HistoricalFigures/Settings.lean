import HistoricalFigures.Dbpedia.Search
import HistoricalFigures.Fuseki.Client

/-!
The settings of the program.

* `Settings.ofEnvironment`: the settings that named values make.
* `Settings.addFile`: named values with those of a file of settings.
-/
namespace HistoricalFigures

/-- The backends that run queries. -/
inductive Backend where
  | file
  | fuseki
  deriving DecidableEq

/-- The name of a backend. -/
def Backend.name : Backend → String
  | .file => "local"
  | .fuseki => "fuseki"

/-- The backend with a name. -/
def Backend.ofName? (name : String) : Option Backend :=
  if name = "local" then some .file else if name = "fuseki" then some .fuseki else none

/-- The settings of the program. -/
structure Settings where
  datasetPath : String
  historyPath : String
  mappingsPath : String
  readOnly : Bool
  backend : Backend
  dbpediaEndpoint : String
  spanishDbpediaEndpoint : String
  fuseki : Fuseki.Config

namespace Settings

/-- Named values. -/
abbrev Environment := Assoc String

/-- The names whose values are settings. -/
def names : List String :=
  ["PHB_DATASET_PATH", "PHB_HISTORY_PATH", "PHB_MAPPINGS_PATH", "PHB_READ_ONLY", "PHB_ENV",
    "PHB_BACKEND", "DBPEDIA_ENDPOINT", "DBPEDIA_ES_ENDPOINT", "FUSEKI_URL", "FUSEKI_DATASET",
    "FUSEKI_USERNAME", "FUSEKI_PASSWORD", "FUSEKI_TIMEOUT", "PYTHON_DOTENV_DISABLED"]

/-- The value of a name, or another one if it is missing. -/
def valueOf (environment : Environment) (name default : String) : String :=
  (environment.get? name).getD default

/-- A text in lower case without the blanks around it. -/
def folded (text : String) : String :=
  String.ofList (Unicode.lowercase (Unicode.trim text.toList))

/-- The words that turn something on. -/
def trueWords : List String := ["1", "true", "yes", "on"]

/-- Whether a name has a value that turns something on. -/
def isOn (environment : Environment) (name : String) : Bool :=
  trueWords.contains (folded (valueOf environment name ""))

/-- The settings of the Fuseki dataset. -/
def fusekiOf (environment : Environment) : Except ArgumentFault Fuseki.Config :=
  let text := valueOf environment "FUSEKI_TIMEOUT" "30"
  match Number.Binary64.read? text.toList with
  | none => .error (.timeout text)
  | some timeout =>
    .ok
      { Fuseki.Config.standard with
        baseUrl := valueOf environment "FUSEKI_URL" Fuseki.Config.standard.baseUrl
        dataset := valueOf environment "FUSEKI_DATASET" Fuseki.Config.standard.dataset
        user := valueOf environment "FUSEKI_USERNAME" ""
        password := valueOf environment "FUSEKI_PASSWORD" ""
        timeout := timeout }

/-- The settings that named values make. Only reading is allowed if a flag says so or in
production. -/
def ofEnvironment (environment : Environment) : Except ArgumentFault Settings :=
  let backendName := folded (valueOf environment "PHB_BACKEND" "local")
  match Backend.ofName? backendName with
  | none => .error (.backend backendName)
  | some backend =>
    (fusekiOf environment).map fun fuseki =>
      { datasetPath := valueOf environment "PHB_DATASET_PATH"
          "data/ontologia_personas_historicas_bolivianas.ttl"
        historyPath := valueOf environment "PHB_HISTORY_PATH" "import-history.json"
        mappingsPath := valueOf environment "PHB_MAPPINGS_PATH" "config/mappings.json"
        readOnly := isOn environment "PHB_READ_ONLY" ||
          folded (valueOf environment "PHB_ENV" "") = "production"
        backend := backend
        dbpediaEndpoint := valueOf environment "DBPEDIA_ENDPOINT" Dbpedia.englishEndpoint
        spanishDbpediaEndpoint := valueOf environment "DBPEDIA_ES_ENDPOINT" Dbpedia.spanishEndpoint
        fuseki := fuseki }

/-! ### Files of named values -/

/-- The value that a line gives to a name. A line that begins with a number sign gives none. -/
def declaration? (line : List Char) : Option (String × String) :=
  let name := Unicode.trim (line.takeWhile (· ≠ '='))
  match line.dropWhile (· ≠ '=') with
  | _ :: value =>
    if name = [] ∨ name.head? = some '#' then none
    else some (String.ofList name, String.ofList (Unicode.trim value))
  | [] => none

/-- The values that the lines of a text give to names. -/
def declarations (text : String) : Environment :=
  Assoc.ofList ((text.splitOn "\n").filterMap fun line => declaration? line.toList)

/-- Whether a name and its value can stand in an environment, which ends them at a null character. -/
def isDeclarable (entry : String × String) : Bool :=
  !entry.1.toList.contains '\x00' && !entry.2.toList.contains '\x00'

/-- The values of names with those of a text added for names that have none. -/
def addDeclarations (environment : Environment) (text : String) :
    Except ArgumentFault Environment :=
  let added := (declarations text).filter fun entry => (environment.get? entry.1).isNone
  if added.all isDeclarable then .ok (environment ++ added) else .error .nullCharacter

/-- The words for passing over files of settings. -/
def ignoringWords : List String := ["1", "true", "t", "yes", "y"]

/-- Whether files of settings are passed over. -/
def ignoresFiles (environment : Environment) : Bool :=
  let word := valueOf environment "PYTHON_DOTENV_DISABLED" ""
  ignoringWords.any fun ignoring => Text.dropWord? ignoring.toList word.toList = some []

/-- The values of names with those of a file of settings for names that have none. -/
def addFile (environment : Environment) (octets : ByteArray) : Except Failure Environment :=
  if ignoresFiles environment then .ok environment
  else do
    let text ← (Utf8.decodeMarkedLines octets).mapError .noText
    (addDeclarations environment text).mapError .argument

end Settings

end HistoricalFigures
