import HistoricalFigures.Encoding.Percent
import HistoricalFigures.Fuseki.QueryText
import HistoricalFigures.Json.Reading
import HistoricalFigures.Query.Kind
import HistoricalFigures.World

/-!
Datasets of a Fuseki server.

* `Config`: where a dataset is.
* `query`, `update`, `execute`, `upload`: requests to it.
* `stats`, `testConnection`: what it holds, and whether it answers.
-/
namespace HistoricalFigures.Fuseki

/-- Where a dataset is, and how it is asked. -/
structure Config where
  baseUrl : String
  dataset : String
  queryEndpoint : String
  updateEndpoint : String
  dataEndpoint : String
  user : String
  password : String
  /-- The seconds that a request may take. -/
  timeout : Number.Binary64

namespace Config

/-- The dataset that is asked unless another one is named. -/
def standard : Config where
  baseUrl := "http://localhost:3030"
  dataset := "personas_historicas"
  queryEndpoint := "query"
  updateEndpoint := "update"
  dataEndpoint := "data"
  user := ""
  password := ""
  timeout := .ofDecimal false 30 0

/-- The address of an endpoint of the dataset. -/
def url (config : Config) (endpoint : String) : String :=
  String.ofList (Unicode.dropEndWhile (· = '/') config.baseUrl.toList) ++ "/" ++ config.dataset ++
    "/" ++ endpoint

/-- The address for queries. -/
def queryUrl (config : Config) : String := config.url config.queryEndpoint

/-- The address for updates. -/
def updateUrl (config : Config) : String := config.url config.updateEndpoint

/-- The address for data. -/
def dataUrl (config : Config) : String := config.url config.dataEndpoint

/-- The credentials, if both a user and a password are given. -/
def credentials (config : Config) : Option Credentials :=
  if config.user ≠ "" ∧ config.password ≠ "" then some ⟨config.user, config.password⟩ else none

end Config

/-- Whether a status tells of success. -/
def isSuccess (status : Int) : Bool := status < 400

/-- Posts a body and takes the body of the answer, which has to tell of success. -/
def post (config : Config) (url : String) (headers : Http.Headers) (body : String) :
    Action World String := do
  match ← World.post ⟨url, headers, body, config.credentials, config.timeout⟩ with
  | .failure reason => throw (.fuseki (.unreachable url reason))
  | .response status answer =>
    if isSuccess status then pure answer else throw (.fuseki (.rejected status url answer))

/-- The headers of a query. -/
def queryHeaders : Http.Headers :=
  [("Content-Type", "application/sparql-query"), ("Accept", "application/sparql-results+json")]

/-- The result of a query. -/
def query (config : Config) (text : String) : Action World Json := do
  let answer ← post config config.queryUrl queryHeaders text
  match ← Action.ofExcept (.tooDeep ∘ .text) (Json.parseShallow answer) with
  | some result => pure result
  | none => throw (.fuseki (.noJson config.queryUrl answer))

/-- The answer to what has succeeded. -/
def success : Json := .obj [("success", .bool true)]

/-- Runs an update. -/
def update (config : Config) (text : String) : Action World Json := do
  let _ ← post config config.updateUrl [("Content-Type", "application/sparql-update")] text
  pure success

/-- Runs a query or an update. -/
def execute (config : Config) (text : String) : Action World Json := do
  match ← Action.ofExcept .query (Query.classify text) with
  | .select => query config text
  | _ => update config text

/-- The address that data for a graph goes to. -/
def graphUrl (config : Config) (graph : String) : String :=
  if graph = "" then config.dataUrl
  else config.dataUrl ++ "?graph=" ++ Percent.encode graph

/-- Loads data into a graph; an empty name means the default graph. -/
def upload (config : Config) (data graph contentType : String) : Action World Json := do
  let url := graphUrl config graph
  let _ ← post config url [("Content-Type", contentType)] data
  World.say ("Uploaded " ++ Json.numberText data.length ++ " bytes to " ++ url)
  pure success

/-! ### What a dataset holds -/

/-- The numbers that are told of a dataset. -/
def counted : List String := ["subjects", "predicates", "objects", "triples"]

/-- The rows of a query result. -/
def rowsOf (result : Json) : Except Json.Fault Json := do
  Json.member "bindings" (.arr []) (← Json.member "results" (.obj []) result)

/-- The numbers in the first row of a query result; a missing one is zero. -/
def countsOf (result : Json) : Except Json.Fault (Assoc Json) := do
  let rows ← rowsOf result
  let row ← if rows.isTruthy then rows.first else .ok (.obj [])
  counted.mapM fun name => do
    let value ← Json.member "value" (.int 0) (← Json.member name (.obj []) row)
    .ok (name, .int (← value.integer))

/-- The graph of a row, if it has one. -/
def graphOf (row : Json) : Except Json.Fault (Option Json) := do
  if ← Json.holds "g" row then some <$> Json.entry "value" (← Json.entry "g" row) else .ok none

/-- The graphs of a query result. -/
def graphsOf (result : Json) : Except Json.Fault (List Json) := do
  let rows ← (← rowsOf result).items
  let graphs ← rows.mapM graphOf
  .ok (graphs.filterMap fun graph => graph)

/-- The numbers of triples and of their parts, and the named graphs. -/
def stats (config : Config) : Action World Json := do
  let counts ← Action.shaped (countsOf (← query config statsQuery))
  let graphs ← Action.shaped (graphsOf (← query config graphsQuery))
  pure (.obj (counts ++ [("graphs", .arr graphs)]))

/-- The outcome of a test. -/
structure TestReport where
  success : Bool
  message : String

/-- The outcome of a test as JSON. -/
def TestReport.toJson (report : TestReport) : Json :=
  .obj [("success", .bool report.success), ("message", .str report.message)]

/-- Whether the dataset answers queries. -/
def testConnection (config : Config) : Action World TestReport := do
  match ← (query config pingQuery).attempt with
  | .ok _ => pure ⟨true, "Connected to " ++ config.queryUrl⟩
  | .error (.fuseki fault) => pure ⟨false, fault.message⟩
  | .error failure => throw failure

end HistoricalFigures.Fuseki
