import HistoricalFigures.Text.Search
import HistoricalFigures.Unicode.Blank
import HistoricalFigures.Unicode.Uppercase

/-!
Cutting the block of an insertion into triples.

* `stretches`: the block cut behind every point that ends a triple.
* `splitTriples`: the triples without the blanks around them.
* `flatten_stretches`: the stretches make up the block.
-/
namespace HistoricalFigures.Query

/-- Where a place in a block lies. -/
inductive Place where
  | outside
  /-- Between angle brackets. -/
  | insideIri
  /-- Between quotes. -/
  | insideQuotes (quote : Char)
  /-- Behind a backslash between quotes. -/
  | behindBackslash (quote : Char)
  deriving DecidableEq

/-- Where the place behind a character lies. -/
def Place.next (place : Place) (c : Char) : Place :=
  match place with
  | .outside =>
    if c = '\x22' ∨ c = '\x27' then .insideQuotes c else if c = '<' then .insideIri else .outside
  | .insideIri => if c = '>' then .outside else .insideIri
  | .insideQuotes quote =>
    if c = '\\' then .behindBackslash quote else if c = quote then .outside else place
  | .behindBackslash quote => .insideQuotes quote

/-- Whether a character ends a triple: a point outside, with a blank or nothing behind it. -/
def Place.endsTriple (place : Place) (c : Char) (rest : List Char) : Bool :=
  place = .outside && c = '.' && rest.head?.all Unicode.isBlank

/-- The block from a place on, cut behind every point that ends a triple. The last stretch holds
what follows the last such point. -/
def stretchesFrom : Place → List Char → List (List Char)
  | _, [] => [[]]
  | place, c :: rest =>
    let later := stretchesFrom (place.next c) rest
    if place.endsTriple c rest then [c] :: later
    else match later with
      | [] => [[c]]
      | first :: more => (c :: first) :: more

/-- The block, cut behind every point that ends a triple. -/
def stretches (block : List Char) : List (List Char) := stretchesFrom .outside block

/-- There is always a last stretch. -/
theorem stretchesFrom_ne_nil (place : Place) (block : List Char) : stretchesFrom place block ≠ [] := by
  cases block with
  | nil => simp [stretchesFrom]
  | cons c rest =>
    simp only [stretchesFrom]
    split
    · simp
    · split <;> simp

/-- The stretches from a place on make up the block. -/
theorem flatten_stretchesFrom (place : Place) (block : List Char) :
    (stretchesFrom place block).flatten = block := by
  induction block generalizing place with
  | nil => rfl
  | cons c rest found =>
    have later := found (place.next c)
    simp only [stretchesFrom]
    split
    · simp [later]
    · split
      · next empty => exact absurd empty (stretchesFrom_ne_nil _ _)
      · next first more parts =>
        rw [parts] at later
        simpa using later

/-- The stretches make up the block. -/
theorem flatten_stretches (block : List Char) : (stretches block).flatten = block :=
  flatten_stretchesFrom .outside block

/-- The stretches without the blanks around them, empty ones left out. -/
def pieces (block : List Char) : List (List Char) :=
  ((stretches block).map Unicode.trim).filter fun piece => !piece.isEmpty

/-- Whether a text begins with the word of a declaration, in any case. -/
def isDeclaration (text : List Char) : Bool :=
  Text.startsWith "PREFIX".toList (Unicode.uppercase text)

/-- The triples of a block. What begins like a declaration is left out. -/
def splitTriples (block : String) : List String :=
  ((pieces block.toList).filter fun piece => !isDeclaration piece).map String.ofList

end HistoricalFigures.Query
