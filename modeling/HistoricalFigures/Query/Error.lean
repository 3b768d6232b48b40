import HistoricalFigures.Turtle.Error

/-!
Why a query cannot be run.

* `Error`: the causes.
* `Error.message`: the words for a cause.
-/
namespace HistoricalFigures.Query

/-- Why a query is of no supported form. -/
inductive Unsupported where
  /-- It neither inserts nor deletes nor selects. -/
  | kind
  /-- A deletion without a block. -/
  | deleteBlock
  /-- A deletion whose block is not one pattern. -/
  | severalPatterns
  /-- A deletion with a term that names nothing. -/
  | unknownTerm (term : String)

/-- What is wrong with a triple of an insertion. -/
inductive TripleFault where
  /-- It does not fit the grammar. -/
  | grammar (cause : Turtle.Error)
  /-- It holds no statement. -/
  | noStatement
  /-- There is no block to hold it. -/
  | noBlock

/-- Why a query cannot be run. -/
inductive Error where
  | unsupported (cause : Unsupported)
  /-- A selection without a block. -/
  | invalidSelect
  /-- An insertion with a faulty triple. -/
  | triple (text : String) (fault : TripleFault)

/-- The words for an unsupported query. -/
def Unsupported.message : Unsupported → String
  | .kind => "Unsupported query: expected INSERT DATA, DELETE WHERE or SELECT"
  | .deleteBlock => "DELETE WHERE requires a \x7b ... \x7d block"
  | .severalPatterns => "DELETE WHERE supports a single triple pattern"
  | .unknownTerm term => "Unknown term in DELETE WHERE pattern: " ++ term

/-- The words for what is wrong with a triple. -/
def TripleFault.message : TripleFault → String
  | .grammar cause => cause.message
  | .noStatement => "no statement found"
  | .noBlock => "INSERT DATA requires a \x7b ... \x7d block"

/-- The words for a cause. -/
def Error.message : Error → String
  | .unsupported cause => cause.message
  | .invalidSelect => "Could not interpret SELECT query: missing WHERE clause"
  | .triple text _ => "Could not parse triple: " ++ text

end HistoricalFigures.Query
