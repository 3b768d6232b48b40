import HistoricalFigures.Number.Hex
import HistoricalFigures.Turtle.Error

/-!
Escapes in strings and in names of resources: a backslash, then a letter or the number of a
character.

* `Escape.read`: the escape behind a backslash, and how far it reaches.
* `unescape`: a text with its escapes resolved; an unknown one is an error, or stays as it is.
-/
namespace HistoricalFigures.Turtle

/-- What stands behind a backslash: the number of a character, or a single letter. -/
inductive Escape where
  | code (value : Nat)
  | single (letter : Char)

/-- What to do with an escape that is not known. -/
inductive UnknownEscapes where
  | refused
  | kept

namespace Escape

/-- The number in as many hexadecimal digits as given, and how many they are; the letter before
them stands for itself where they are missing. -/
def readCode (letter : Char) (count : Nat) (rest : List Char) : Escape × Nat :=
  match Number.readHex? count rest with
  | some value => (.code value, count)
  | none => (.single letter, 0)

/-- The escape that begins with a letter, and the number of characters that it takes behind it. -/
def read (letter : Char) (rest : List Char) : Escape × Nat :=
  if letter = 'u' then readCode letter 4 rest
  else if letter = 'U' then readCode letter 8 rest
  else (.single letter, 0)

/-- The character that a letter behind a backslash stands for. -/
def charOfLetter? (letter : Char) : Option Char :=
  if letter = 't' then some '\t'
  else if letter = 'n' then some '\n'
  else if letter = 'r' then some '\r'
  else if letter = 'b' then some '\x08'
  else if letter = 'f' then some '\x0c'
  else if letter = '\x22' ∨ letter = '\x27' ∨ letter = '\\' then some letter
  else none

/-- The text that an escape stands for. -/
def resolve (unknown : UnknownEscapes) : Escape → Except Error (List Char)
  | .code value =>
    if value < Unicode.codeBound then .ok [Unicode.charOf value] else .error (.beyondUnicode value)
  | .single letter =>
    match charOfLetter? letter, unknown with
    | some c, _ => .ok [c]
    | none, .refused => .error (.unknownEscape letter)
    | none, .kept => .ok ['\\', letter]

end Escape

/-- A text from a place on with its escapes resolved, where the next `skipped` characters belong to
an earlier escape. A backslash at the end stands for itself. -/
def unescapeFrom (unknown : UnknownEscapes) : Nat → List Char → Except Error (List Char)
  | _, [] => .ok []
  | skipped + 1, _ :: rest => unescapeFrom unknown skipped rest
  | 0, '\\' :: letter :: rest =>
    let (escape, extent) := Escape.read letter rest
    (escape.resolve unknown).bind fun text =>
      (unescapeFrom unknown extent rest).map (text ++ ·)
  | 0, c :: rest => (unescapeFrom unknown 0 rest).map (c :: ·)

/-- A text with its escapes resolved. -/
def unescape (unknown : UnknownEscapes) (text : List Char) : Except Error (List Char) :=
  unescapeFrom unknown 0 text

end HistoricalFigures.Turtle
