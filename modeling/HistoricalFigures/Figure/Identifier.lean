import HistoricalFigures.Unicode.Blank
import HistoricalFigures.Unicode.Lowercase

/-!
Identifiers of figures.

* `localId`: the last segment of the address of a resource.
* `slug`: an identifier made from a name.
-/
namespace HistoricalFigures.Figure

/-- What stands behind the last `mark` of a text, or the whole text if there is none. -/
def afterLast (mark : Char) (text : List Char) : List Char :=
  (text.reverse.takeWhile (· ≠ mark)).reverse

/-- The last segment of an address: behind its last number sign, or else behind its last slash,
where slashes at the end do not count. -/
def localIdChars (uri : List Char) : List Char :=
  if '#' ∈ uri then afterLast '#' uri
  else afterLast '/' (Unicode.dropEndWhile (· = '/') uri)

/-- The last segment of an address. -/
def localId (uri : String) : String := String.ofList (localIdChars uri.toList)

/-- The characters that an identifier keeps: small letters and digits. -/
def isSlugChar (c : Char) : Bool := c.isLower || c.isDigit

/-- The maximal runs of the characters of an identifier, in order. A run under way comes first. -/
def slugRuns : List Char → List (List Char)
  | [] => []
  | c :: rest =>
    if isSlugChar c then
      match rest.head?.any isSlugChar, slugRuns rest with
      | true, run :: runs => (c :: run) :: runs
      | _, runs => [c] :: runs
    else slugRuns rest

/-- The identifier made from a name: the runs of small letters and digits of its lower case, joined
by low lines. -/
def slugChars (name : List Char) : List Char :=
  ['_'].intercalate (slugRuns (Unicode.lowercase name))

/-- The identifier made from a name. -/
def slug (name : String) : String := String.ofList (slugChars name.toList)

end HistoricalFigures.Figure
