import HistoricalFigures.Action
import HistoricalFigures.Http.Headers
import HistoricalFigures.Number.Binary64
import HistoricalFigures.Text.Styling

/-!
What the program acts on: files, texts on the screen, and the network, whose answers are told
beforehand.

* `World`: the state of all that.
* `World.say`, `World.tell`: a line on the screen, as it is or without control sequences.
* `World.ask`, `World.post`: a request and the next answer.
-/
namespace HistoricalFigures

/-- An answer to a query over the network. -/
inductive QueryAnswer where
  | result (value : Json)
  | failure (reason : String)

/-- An answer to a posted body. -/
inductive PostAnswer where
  | response (status : Int) (body : String)
  | failure (reason : String)

/-- A user name and a password. -/
structure Credentials where
  user : String
  password : String

/-- A body that is posted. -/
structure Post where
  url : String
  headers : Http.Headers
  body : String
  credentials : Option Credentials
  timeout : Number.Binary64

/-- A request over the network. -/
inductive Request where
  /-- A query, whose result is to come as JSON within a number of seconds. -/
  | query (url text : String) (timeout : Nat)
  | post (post : Post)

/-- What the program acts on. -/
structure World where
  /-- The files. -/
  disk : Disk
  /-- What has been printed. -/
  printed : String
  /-- What has been printed as errors. -/
  errors : String
  /-- The lines that are still to be typed in. -/
  typed : List String
  /-- The answers to come to queries. -/
  queryAnswers : List QueryAnswer
  /-- The answers to come to posted bodies. -/
  postAnswers : List PostAnswer
  /-- The answer to every query after those. -/
  lastQueryAnswer : QueryAnswer
  /-- The answer to every posted body after those. -/
  lastPostAnswer : PostAnswer
  /-- The requests so far, the last one first. -/
  requests : List Request
  /-- The time as it is written down. -/
  time : String

namespace World

/-- A world with nothing but files, and with a network that answers nothing in particular. -/
def ofDisk (disk : Disk) : World :=
  { disk := disk
    printed := ""
    errors := ""
    typed := []
    queryAnswers := []
    postAnswers := []
    lastQueryAnswer := .result (.obj [])
    lastPostAnswer := .response 200 ""
    requests := []
    time := "" }

/-- Prints a text. -/
def print (text : String) : Action World Unit :=
  modify fun world => { world with printed := world.printed ++ text }

/-- Prints a line. -/
def say (line : String) : Action World Unit := print (line ++ "\n")

/-- Prints a line without the control sequences of terminals. -/
def tell (line : String) : Action World Unit := say (Text.unstyled line)

/-- Prints a line without the control sequences of terminals as an error. -/
def complain (line : String) : Action World Unit :=
  modify fun world => { world with errors := world.errors ++ Text.unstyled line ++ "\n" }

/-- An action on the files. -/
def onDisk {α : Type} (action : Action Disk α) : Action World α :=
  action.within World.disk fun disk world => { world with disk := disk }

/-- Writes down a request. -/
def record (request : Request) : Action World Unit :=
  modify fun world => { world with requests := request :: world.requests }

/-- The next answer to a query. -/
def nextQueryAnswer : Action World QueryAnswer :=
  modifyGet fun world =>
    match world.queryAnswers with
    | [] => (world.lastQueryAnswer, world)
    | answer :: later => (answer, { world with queryAnswers := later })

/-- The next answer to a posted body. -/
def nextPostAnswer : Action World PostAnswer :=
  modifyGet fun world =>
    match world.postAnswers with
    | [] => (world.lastPostAnswer, world)
    | answer :: later => (answer, { world with postAnswers := later })

/-- Sends a query and takes the next answer. -/
def ask (url text : String) (timeout : Nat) : Action World Json := do
  record (.query url text timeout)
  match ← nextQueryAnswer with
  | .result value => pure value
  | .failure reason => throw (.endpoint reason)

/-- Posts a body and takes the next answer. -/
def post (message : Post) : Action World PostAnswer := do
  record (.post message)
  nextPostAnswer

end World

end HistoricalFigures
