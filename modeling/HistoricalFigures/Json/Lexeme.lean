import HistoricalFigures.Json.Basic
import HistoricalFigures.Number.Hex
import HistoricalFigures.Unicode.Scalar

/-!
The lexemes of a JSON text.

* `Json.lexemes`: the lexemes of a text, white space left out. The last one may be no lexeme at all.
* `Json.readString?`: a string behind its opening quote.
* `Json.readNumber?`: an integer, or a number with a fraction or an exponent.
-/
namespace HistoricalFigures.Json

/-- A lexeme: a mark, or a value that is written without marks. -/
inductive Lexeme where
  | openArray
  | closeArray
  | openObject
  | closeObject
  | colon
  | comma
  | value (value : Json)
  /-- An integer of more digits than are read. -/
  | longInteger (digits : Nat)
  /-- Characters that begin no lexeme. -/
  | unreadable

/-- The character that one letter behind a backslash stands for. -/
def simpleEscape? (c : Char) : Option Char :=
  if c = '\x22' ∨ c = '\\' ∨ c = '/' then some c
  else if c = 'b' then some '\x08'
  else if c = 'f' then some '\x0c'
  else if c = 'n' then some '\n'
  else if c = 'r' then some '\r'
  else if c = 't' then some '\t'
  else none

/-- The second half of a pair that writes a character beyond the first plane. -/
def lowHalf? (text : List Char) : Option Nat :=
  if text.take 2 = ['\\', 'u'] then
    (Number.readHex? 4 (text.drop 2)).bind fun low =>
      if 0xDC00 ≤ low ∧ low ≤ 0xDFFF then some low else none
  else none

/-- What an escape behind a backslash writes, and the number of characters that it takes. -/
def readEscape? : List Char → Option (Char × Nat)
  | [] => none
  | 'u' :: rest =>
    (Number.readHex? 4 rest).map fun high =>
      if 0xD800 ≤ high ∧ high ≤ 0xDBFF then
        match lowHalf? (rest.drop 4) with
        | some low => (Unicode.charOf (0x10000 + (high - 0xD800) * 0x400 + (low - 0xDC00)), 11)
        | none => (Unicode.charOf high, 5)
      else (Unicode.charOf high, 5)
  | c :: _ => (simpleEscape? c).map fun d => (d, 1)

/-- The string up to its closing quote, and the number of characters up to and with that quote.
The next `skipped` characters belong to an escape. -/
def readStringFrom? : Nat → List Char → Option (List Char × Nat)
  | _, [] => none
  | skipped + 1, _ :: rest =>
    (readStringFrom? skipped rest).map fun (text, extent) => (text, extent + 1)
  | 0, c :: rest =>
    if c = '\x22' then some ([], 1)
    else if c = '\\' then
      (readEscape? rest).bind fun (written, taken) =>
        (readStringFrom? taken rest).map fun (text, extent) => (written :: text, extent + 1)
    else if c.toNat < 0x20 then none
    else (readStringFrom? 0 rest).map fun (text, extent) => (c :: text, extent + 1)

/-- A string behind its opening quote. -/
def readString? (text : List Char) : Option (String × Nat) :=
  (readStringFrom? 0 text).map fun (written, extent) => (String.ofList written, extent)

/-- The fraction at the start of a text, without its point. -/
def fractionOf : List Char → List Char
  | '.' :: rest => rest.takeWhile Char.isDigit
  | _ => []

/-- The exponent at the start of a text: the number of its characters, and its value. -/
def exponentOf : List Char → Nat × Int
  | [] => (0, 0)
  | c :: rest =>
    let (negative, afterSign) := Number.splitSign rest
    let digits := afterSign.takeWhile Char.isDigit
    if (c = 'e' ∨ c = 'E') ∧ digits ≠ [] then
      (1 + (rest.length - afterSign.length) + digits.length,
        Number.signed negative (Number.decimalValue digits))
    else (0, 0)

/-- The digits before the point at the start of a text: a zero alone, or digits that begin with
none. -/
def wholeOf : List Char → List Char
  | '0' :: _ => ['0']
  | text => text.takeWhile Char.isDigit

/-- The lexeme of an integer. -/
def integerLexeme (negative : Bool) (digits : List Char) : Lexeme :=
  if Number.maxDigits < digits.length then .longInteger digits.length
  else .value (.int (Number.signed negative (Number.decimalValue digits)))

/-- A number at the start of a text that follows its sign, and the number of its characters. -/
def readNumber? (negative : Bool) (text : List Char) : Option (Lexeme × Nat) :=
  let whole := wholeOf text
  let fraction := fractionOf (text.drop whole.length)
  let fractionExtent := if fraction = [] then 0 else fraction.length + 1
  let (exponentExtent, power) := exponentOf (text.drop (whole.length + fractionExtent))
  let extent := whole.length + fractionExtent + exponentExtent
  if whole = [] then none
  else if extent = whole.length then some (integerLexeme negative whole, extent)
  else some (.value (.float (.ofDecimal negative (Number.decimalValue (whole ++ fraction))
    (power - fraction.length))), extent)

/-- Words that write a value. -/
def words : List (List Char × Json) :=
  [("null".toList, .null), ("true".toList, .bool true), ("false".toList, .bool false),
    ("NaN".toList, .float .nan), ("Infinity".toList, .float (.infinity false)),
    ("-Infinity".toList, .float (.infinity true))]

/-- The lexeme at the start of a text, and the number of its characters beyond the first. -/
def lexeme? (c : Char) (rest : List Char) : Option (Lexeme × Nat) :=
  if c = '[' then some (.openArray, 0)
  else if c = ']' then some (.closeArray, 0)
  else if c = '\x7b' then some (.openObject, 0)
  else if c = '\x7d' then some (.closeObject, 0)
  else if c = ':' then some (.colon, 0)
  else if c = ',' then some (.comma, 0)
  else if c = '\x22' then
    (readString? rest).map fun (text, extent) => (.value (.str text), extent)
  else match words.find? fun word => word.1.isPrefixOf (c :: rest) with
    | some (word, value) => some (.value value, word.length - 1)
    | none =>
      if c = '-' then readNumber? true rest
      else (readNumber? false (c :: rest)).map fun (number, extent) => (number, extent - 1)

/-- White space between lexemes. -/
def isSpace (c : Char) : Bool := c = ' ' || c = '\t' || c = '\n' || c = '\r'

/-- The lexemes from a place on, where the next `skipped` characters belong to an earlier one. -/
def lexemesFrom : Nat → List Char → List Lexeme
  | _, [] => []
  | skipped + 1, _ :: rest => lexemesFrom skipped rest
  | 0, c :: rest =>
    if isSpace c then lexemesFrom 0 rest
    else
      match lexeme? c rest with
      | some (lexeme, extent) => lexeme :: lexemesFrom extent rest
      | none => [.unreadable]

/-- The lexemes of a text. -/
def lexemes (text : List Char) : List Lexeme := lexemesFrom 0 text

end HistoricalFigures.Json
