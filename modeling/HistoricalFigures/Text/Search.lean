import HistoricalFigures.Unicode.Word

/-!
Searching a text from left to right.

* `findAll`: every find of a finder, where a find begins behind the end of the one before it.
* `findFirst`: the first of them. `splitFirstFrom` adds what stands before it.
* `replaceAll`: the text with every find replaced.
* `dropWord?`: what follows a word, whatever the case of its letters.
-/
namespace HistoricalFigures.Text

/-- A finder looks at one place: at the character before it and at the text from there on. A find
comes with the number of characters that it takes beyond its first one. -/
abbrev Finder (α : Type) := Option Char → List Char → Option (α × Nat)

variable {α : Type}

/-- The finds from a place on, where the next `skipped` characters belong to an earlier find. -/
def findAllFrom (finder : Finder α) : Option Char → Nat → List Char → List α
  | _, _, [] => []
  | _, skipped + 1, c :: rest => findAllFrom finder (some c) skipped rest
  | before, 0, c :: rest =>
    match finder before (c :: rest) with
    | some (found, extent) => found :: findAllFrom finder (some c) extent rest
    | none => findAllFrom finder (some c) 0 rest

/-- All finds in a text. -/
def findAll (finder : Finder α) (text : List Char) : List α := findAllFrom finder none 0 text

/-- The first find from a place on. -/
def findFirstFrom (finder : Finder α) : Option Char → List Char → Option α
  | _, [] => none
  | before, c :: rest =>
    match finder before (c :: rest) with
    | some (found, _) => some found
    | none => findFirstFrom finder (some c) rest

/-- The first find in a text. -/
def findFirst (finder : Finder α) (text : List Char) : Option α := findFirstFrom finder none text

/-- What stands before the first find from a place on, and what was found. -/
def splitFirstFrom (finder : Finder α) : Option Char → List Char → Option (List Char × α)
  | _, [] => none
  | before, c :: rest =>
    match finder before (c :: rest) with
    | some (found, _) => some ([], found)
    | none => (splitFirstFrom finder (some c) rest).map fun (text, found) => (c :: text, found)

/-- The text from a place on with every find replaced by what was found. -/
def replaceAllFrom (finder : Finder (List Char)) : Option Char → Nat → List Char → List Char
  | _, _, [] => []
  | _, skipped + 1, c :: rest => replaceAllFrom finder (some c) skipped rest
  | before, 0, c :: rest =>
    match finder before (c :: rest) with
    | some (replacement, extent) => replacement ++ replaceAllFrom finder (some c) extent rest
    | none => c :: replaceAllFrom finder (some c) 0 rest

/-- A text with every find replaced by what was found. -/
def replaceAll (finder : Finder (List Char)) (text : List Char) : List Char :=
  replaceAllFrom finder none 0 text

/-- A find that ends where `rest` begins. -/
def endingAt (text rest : List Char) (found : α) : α × Nat :=
  (found, text.length - rest.length - 1)

/-- Whether `text` begins with `word`. -/
def startsWith (word text : List Char) : Bool := word.isPrefixOf text

/-- Whether `word` occurs in `text`. -/
def contains (word : List Char) : List Char → Bool
  | [] => word.isEmpty
  | c :: rest => startsWith word (c :: rest) || contains word rest

/-- Whether a character is the given small letter in any case: the long s counts as an s, the
dotless and the dotted i as an i, and the Kelvin sign as a k. -/
def sameLetter (letter c : Char) : Bool :=
  c == letter || c == letter.toUpper ||
    (letter == 'i' && (c == '\u0130' || c == '\u0131')) ||
    (letter == 's' && c == '\u017F') || (letter == 'k' && c == '\u212A')

/-- A letter from a to z in any case. -/
def isLatinLetter (c : Char) : Bool :=
  c.isAlpha || c == '\u0130' || c == '\u0131' || c == '\u017F' || c == '\u212A'

/-- What follows a word in small letters at the start of a text, whatever the case there. -/
def dropWord? : List Char → List Char → Option (List Char)
  | [], text => some text
  | _ :: _, [] => none
  | letter :: word, c :: rest => if sameLetter letter c then dropWord? word rest else none

/-- Whether a word begins or ends between a character and the text behind it. -/
def isWordEdge (before : Option Char) (text : List Char) : Bool :=
  before.any Unicode.isWord != text.head?.any Unicode.isWord

end HistoricalFigures.Text
