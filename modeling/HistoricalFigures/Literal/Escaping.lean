/-!
Texts between double quotes, on one line.

* `escapeLiteral`: quotes and backslashes behind backslashes, and a blank for every tab and for every
  run of line breaks.
-/
namespace HistoricalFigures.Literal

/-- Whether a character ends a line: a carriage return or a line feed. -/
def isBreak (c : Char) : Bool := c = '\r' || c = '\n'

/-- A character that is no line break, as it is written between quotes. -/
def escapeChar (c : Char) : List Char :=
  if c = '\\' ∨ c = '\x22' then ['\\', c] else if c = '\t' then [' '] else [c]

/-- The written form of what follows; `afterBreak` says whether a line break stands before it. -/
def escapeFrom (afterBreak : Bool) : List Char → List Char
  | [] => []
  | c :: rest =>
    if isBreak c then (if afterBreak then [] else [' ']) ++ escapeFrom true rest
    else escapeChar c ++ escapeFrom false rest

/-- The written form of a text between quotes. -/
def escapeChars (text : List Char) : List Char := escapeFrom false text

/-- The written form of a text between quotes. -/
def escapeLiteral (text : String) : String := String.ofList (escapeChars text.toList)

end HistoricalFigures.Literal
