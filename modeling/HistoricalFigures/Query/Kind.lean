import HistoricalFigures.Query.Error
import HistoricalFigures.Text.Search
import HistoricalFigures.Unicode.Blank
import HistoricalFigures.Unicode.Uppercase

/-!
The kinds of queries.

* `classify`: the kind of a query, told by the words that occur in it.
-/
namespace HistoricalFigures.Query

/-- The kinds of queries. -/
inductive Kind where
  | insert
  | delete
  | select
  deriving DecidableEq

/-- The name of a kind. -/
def Kind.name : Kind → String
  | .insert => "INSERT"
  | .delete => "DELETE"
  | .select => "SELECT"

/-- What follows the blanks at the start of a text, of which there is one at least. -/
def afterBlanks? (text : List Char) : Option (List Char) :=
  if text.head?.any Unicode.isBlank then some (Unicode.trimStart text) else none

/-- What follows `word` at the start of a text. -/
def afterWord? (word text : List Char) : Option (List Char) :=
  if word.isPrefixOf text then some (text.drop word.length) else none

/-- Two words with blanks between them. -/
def wordPair (first second : String) : Text.Finder Unit := fun _ text =>
  (afterWord? first.toList text).bind fun rest =>
    (afterBlanks? rest).bind fun rest =>
      (afterWord? second.toList rest).map fun rest => Text.endingAt text rest ()

/-- The kind of a query. -/
def classify (text : String) : Except Error Kind :=
  let upper := Unicode.uppercase (Unicode.trim text.toList)
  if Text.contains "INSERT DATA".toList upper then .ok .insert
  else if (Text.findFirst (wordPair "DELETE" "WHERE") upper).isSome then .ok .delete
  else if Text.contains "SELECT".toList upper then .ok .select
  else .error (.unsupported .kind)

end HistoricalFigures.Query
