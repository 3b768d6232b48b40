import HistoricalFigures.Disk.Files
import HistoricalFigures.Json.Reading
import HistoricalFigures.Query.Error
import HistoricalFigures.Rdf.Store

/-!
Why an action fails.

* `Failure`: the causes.
* `Failure.message`: the words for a cause.
-/
namespace HistoricalFigures

/-- What is wrong with a request. -/
inductive RequestFault where
  | noObject
  | noQuery

/-- What is wrong with the dataset. -/
inductive DatasetFault where
  /-- The file is not there yet. -/
  | missing
  | unreadable
  /-- The file is no document. -/
  | malformed
  | unwritable

/-- Why entities cannot be imported. -/
inductive ImportFault where
  /-- There are none. -/
  | noEntities
  /-- One is refused; the reason may be missing. -/
  | rejected (reason : Json)

/-- Why mappings cannot be loaded or saved. -/
inductive MappingsFault where
  /-- The file cannot be read; the detail says why. -/
  | unreadable (detail : String)
  /-- The file holds something other than an object. -/
  | fileNoObject
  /-- Something other than an object is to be saved. -/
  | noObject
  | unwritable (error : DiskError)

/-- Why a request to a Fuseki dataset has no result. -/
inductive FusekiFault where
  | unreachable (url reason : String)
  | rejected (status : Int) (url body : String)
  | noJson (url body : String)

/-- What is wrong with an argument or a setting. -/
inductive ArgumentFault where
  /-- A query that does not select. -/
  | notSelecting
  | endpoint (name : String)
  | language (name : String)
  | backend (name : String)
  | timeout (text : String)
  /-- A named value that no environment can hold. -/
  | nullCharacter

/-- What goes deeper than it can be followed. -/
inductive DepthFault where
  /-- A JSON text nests values too deep. -/
  | text (container : Json.Container)
  /-- A value that is to be shown nests others too deep. -/
  | value
  /-- More directories are missing than can be made at once. -/
  | directories

/-- Why an action fails. -/
inductive Failure where
  /-- A document cannot be read. -/
  | document (cause : Turtle.Error)
  /-- A statement lacks a part. -/
  | incomplete (refusal : Rdf.Incomplete)
  /-- A query cannot be run. -/
  | query (cause : Query.Error)
  /-- A request holds no query. -/
  | request (fault : RequestFault)
  /-- A write where only reading is allowed. -/
  | readOnly
  | dataset (fault : DatasetFault)
  | importing (fault : ImportFault)
  | mappings (fault : MappingsFault)
  | fuseki (fault : FusekiFault)
  | argument (fault : ArgumentFault)
  /-- A value has another shape than is needed. -/
  | shape (fault : Json.Fault)
  /-- A file or directory is not as it is needed. -/
  | disk (error : DiskError)
  /-- A file does not hold text. -/
  | noText (fault : Utf8.Fault)
  | tooDeep (fault : DepthFault)
  /-- An endpoint fails. -/
  | endpoint (reason : String)

/-- The words for what is wrong with a request. -/
def RequestFault.message : RequestFault → String
  | .noObject => "Request body must be a JSON object"
  | .noQuery => "A SPARQL query is required"

/-- The words for what is wrong with the dataset. -/
def DatasetFault.message : DatasetFault → String
  | .missing => "Dataset file does not exist"
  | .unreadable => "Could not read the dataset file"
  | .malformed => "The dataset file could not be parsed"
  | .unwritable => "Could not save the dataset file"

/-- The words for why entities cannot be imported. -/
def ImportFault.message : ImportFault → String
  | .noEntities => "No valid entities found to import"
  | .rejected reason =>
    if reason.isTruthy then reason.shown else "Unknown error while executing the INSERT query"

/-- The words for why mappings cannot be loaded or saved. -/
def MappingsFault.message : MappingsFault → String
  | .unreadable detail => "Failed to load mappings: " ++ detail
  | .fileNoObject => "Failed to load mappings: expected a JSON object"
  | .noObject => "Mappings must be a JSON object"
  | .unwritable error => "Failed to save mappings: " ++ error.message

/-- The words for why a request to a Fuseki dataset has no result. -/
def FusekiFault.message : FusekiFault → String
  | .unreachable url reason => "Could not reach Fuseki at " ++ url ++ ": " ++ reason
  | .rejected status url body =>
    "Fuseki returned " ++ Json.intText status ++ " for " ++ url ++ ": " ++ Text.cut 200 body
  | .noJson url body =>
    "Fuseki returned a non-JSON response for " ++ url ++ ": " ++ Text.cut 200 body

/-- The words for what is wrong with an argument or a setting. -/
def ArgumentFault.message : ArgumentFault → String
  | .notSelecting => "Only SELECT queries can be read as historical figures"
  | .endpoint name => "Unknown DBpedia endpoint '" ++ name ++ "': expected 'es', 'en' or a URL"
  | .language name => "Invalid language '" ++ name ++ "': expected one of es, en, both"
  | .backend name => "Invalid PHB_BACKEND '" ++ name ++ "': expected 'local' or 'fuseki'"
  | .timeout text => "Invalid FUSEKI_TIMEOUT '" ++ text ++ "': expected a number of seconds"
  | .nullCharacter => "embedded null byte"

/-- The words for what goes too deep. -/
def DepthFault.message : DepthFault → String
  | .text container => (Json.ReadingError.tooDeep container).message
  | .value | .directories => "maximum recursion depth exceeded"

/-- The words for a cause. -/
def Failure.message : Failure → String
  | .document cause => cause.message
  | .incomplete refusal => refusal.message
  | .query cause => cause.message
  | .request fault => fault.message
  | .readOnly => "Writing to the local ontology is not allowed in read-only mode"
  | .dataset fault => fault.message
  | .importing fault => fault.message
  | .mappings fault => fault.message
  | .fuseki fault => fault.message
  | .argument fault => fault.message
  | .shape fault => fault.message
  | .disk error => error.message
  | .noText fault => fault.message
  | .tooDeep fault => fault.message
  | .endpoint reason => reason

end HistoricalFigures
