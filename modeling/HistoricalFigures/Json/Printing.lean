import HistoricalFigures.Json.Basic
import HistoricalFigures.Number.Shortest
import HistoricalFigures.Text.Shown

/-!
The texts of JSON values.

* `Json.compact`: a value on one line.
* `Json.indented`: a value with every item and member on a line of its own, two blanks deeper than
  what it belongs to.
* `Json.shown`: a value as messages show it.
-/
namespace HistoricalFigures.Json

/-- A character of a text as it is written between quotes. -/
def quoteChar (c : Char) : List Char :=
  if c = '\x22' then ['\\', '\x22']
  else if c = '\\' then ['\\', '\\']
  else if c = '\n' then ['\\', 'n']
  else if c = '\r' then ['\\', 'r']
  else if c = '\t' then ['\\', 't']
  else if c = '\x0c' then ['\\', 'f']
  else if c = '\x08' then ['\\', 'b']
  else if c.toNat < 0x20 then '\\' :: 'u' :: Number.hexText 4 c.toNat
  else [c]

/-- A text between quotes. -/
def quote (text : String) : String :=
  String.ofList ('\x22' :: text.toList.flatMap quoteChar ++ ['\x22'])

/-- A number of double precision. -/
def floatText : Number.Binary64 → String
  | .nan => "NaN"
  | .infinity negative => if negative then "-Infinity" else "Infinity"
  | value => value.text

/-- An integer. -/
def intText (value : Int) : String := String.ofList (Number.intText value)

mutual

/-- A value on one line. -/
def compact : Json → String
  | .null => "null"
  | .bool value => if value then "true" else "false"
  | .int value => intText value
  | .float value => floatText value
  | .str value => quote value
  | .arr items => "[" ++ ", ".intercalate (compactItems items) ++ "]"
  | .obj members => "\x7b" ++ ", ".intercalate (compactMembers members) ++ "\x7d"

/-- The items of a list, each on one line. -/
def compactItems : List Json → List String
  | [] => []
  | item :: rest => compact item :: compactItems rest

/-- The members of an object, each on one line. -/
def compactMembers : List (String × Json) → List String
  | [] => []
  | (name, value) :: rest => (quote name ++ ": " ++ compact value) :: compactMembers rest

end

/-- The break before a line of the given depth. -/
def newLine (depth : Nat) : String := String.ofList ('\n' :: List.replicate (2 * depth) ' ')

/-- Parts between brackets, each on a line of its own. -/
def enclose (depth : Nat) (opening closing : String) (parts : List String) : String :=
  if parts.isEmpty then opening ++ closing
  else opening ++ newLine (depth + 1) ++ ("," ++ newLine (depth + 1)).intercalate parts ++
    newLine depth ++ closing

mutual

/-- A value whose first line is of the given depth. -/
def indentedAt (depth : Nat) : Json → String
  | .null => "null"
  | .bool value => if value then "true" else "false"
  | .int value => intText value
  | .float value => floatText value
  | .str value => quote value
  | .arr items => enclose depth "[" "]" (indentedItems (depth + 1) items)
  | .obj members => enclose depth "\x7b" "\x7d" (indentedMembers (depth + 1) members)

/-- The items of a list, each at the given depth. -/
def indentedItems (depth : Nat) : List Json → List String
  | [] => []
  | item :: rest => indentedAt depth item :: indentedItems depth rest

/-- The members of an object, each at the given depth. -/
def indentedMembers (depth : Nat) : List (String × Json) → List String
  | [] => []
  | (name, value) :: rest =>
    (quote name ++ ": " ++ indentedAt depth value) :: indentedMembers depth rest

end

/-- A value with every item and member on a line of its own. -/
def indented (value : Json) : String := indentedAt 0 value

mutual

/-- A value inside another one, as messages show it. -/
def shownInside : Json → String
  | .null => "None"
  | .bool value => if value then "True" else "False"
  | .int value => intText value
  | .float value => value.text
  | .str value => Text.shown value
  | .arr items => "[" ++ ", ".intercalate (shownItems items) ++ "]"
  | .obj members => "\x7b" ++ ", ".intercalate (shownMembers members) ++ "\x7d"

/-- The items of a list, as messages show them. -/
def shownItems : List Json → List String
  | [] => []
  | item :: rest => shownInside item :: shownItems rest

/-- The members of an object, as messages show them. -/
def shownMembers : List (String × Json) → List String
  | [] => []
  | (name, value) :: rest => (Text.shown name ++ ": " ++ shownInside value) :: shownMembers rest

end

/-- A value as messages show it: a text as it is, another value by its literal form. -/
def shown : Json → String
  | .str value => value
  | value => shownInside value

end HistoricalFigures.Json
