import HistoricalFigures.Literal.SearchForm
import HistoricalFigures.Query.Kind

/-!
The search term of a selection: the last string among the arguments of the first `CONTAINS` in a
`FILTER`.

* `balancedArgs`: what stands before the parenthesis that closes an opened one.
* `rawTerm`: the search term as it is written, its backslashes removed.
-/
namespace HistoricalFigures.Query

/-- Where a place among arguments lies. -/
inductive ArgumentPlace where
  | outside
  /-- Between double quotes. -/
  | insideString
  /-- Behind a backslash between double quotes. -/
  | behindBackslash
  deriving DecidableEq

/-- What stands before the parenthesis that closes `depth` inner parentheses and one more. -/
def balancedArgsFrom : ArgumentPlace → Nat → List Char → List Char
  | _, _, [] => []
  | .behindBackslash, depth, c :: rest => c :: balancedArgsFrom .insideString depth rest
  | .insideString, depth, c :: rest =>
    c :: balancedArgsFrom (if c = '\\' then .behindBackslash
      else if c = '\x22' then .outside else .insideString) depth rest
  | .outside, depth, c :: rest =>
    if c = '\x22' then c :: balancedArgsFrom .insideString depth rest
    else if c = '(' then c :: balancedArgsFrom .outside (depth + 1) rest
    else if c = ')' then
      match depth with
      | 0 => []
      | inner + 1 => c :: balancedArgsFrom .outside inner rest
    else c :: balancedArgsFrom .outside depth rest

/-- What stands behind an opened parenthesis and before the one that closes it, or the whole text if
none does. Parentheses between double quotes do not count. -/
def balancedArgs (text : List Char) : List Char := balancedArgsFrom .outside 0 text

/-- A word in any case at the edge of a word, then an opening parenthesis; what follows it is
found. -/
def callOf (word : String) : Text.Finder (List Char) := fun before text =>
  if Text.isWordEdge before text then
    match (Text.dropWord? word.toList text).map Unicode.trimStart with
    | some ('(' :: rest) => some (Text.endingAt text rest rest)
    | _ => none
  else none

/-- What stands before the closing double quote; a character behind a backslash is skipped. -/
def upToQuote? : List Char → Option (List Char)
  | [] => none
  | '\\' :: c :: rest => (upToQuote? rest).map fun text => '\\' :: c :: text
  | c :: rest =>
    if c = '\x22' then some []
    else if c = '\\' then none
    else (upToQuote? rest).map (c :: ·)

/-- What stands between two double quotes. -/
def quotedText : Text.Finder (List Char) := fun _ text =>
  match text with
  | '\x22' :: rest => (upToQuote? rest).map fun inner => (inner, inner.length + 1)
  | _ => none

/-- A text without the backslashes before other characters than a line feed. -/
def dropBackslashes : List Char → List Char
  | [] => []
  | '\\' :: c :: rest =>
    if c = '\n' then '\\' :: c :: dropBackslashes rest else c :: dropBackslashes rest
  | c :: rest => c :: dropBackslashes rest

/-- The last string among the arguments of the first `CONTAINS` in what stands behind the opening
parenthesis of a filter. -/
def filterTerm? (afterFilter : List Char) : Option (List Char) :=
  (Text.findFirst (callOf "contains") (balancedArgs afterFilter)).bind fun afterContains =>
    (Text.findAll quotedText (balancedArgs afterContains)).getLast?

/-- The search term as it is written, or the empty text if there is none. -/
def rawTerm (text : List Char) : List Char :=
  dropBackslashes (((Text.findAll (callOf "filter") text).findSome? filterTerm?).getD [])

end HistoricalFigures.Query
