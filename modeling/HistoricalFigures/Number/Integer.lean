import HistoricalFigures.Unicode.Blank
import HistoricalFigures.Unicode.Digit

/-!
Integers written by people: blanks around them, a sign, digits of any script, and single low lines
between digits.

* `readInteger`: the integer that a text writes.
* `asciiDigits`: the text with every digit replaced by the plain digit of the same value.
-/
namespace HistoricalFigures.Number

/-- Blanks that may surround a number: white space, the separator controls left out. -/
def isMargin (c : Char) : Bool := Unicode.isBlank c && !(0x1C ≤ c.toNat && c.toNat ≤ 0x1F)

/-- A text without the blanks around it. -/
def trimMargin (text : List Char) : List Char :=
  Unicode.dropEndWhile isMargin (text.dropWhile isMargin)

/-- The plain digit of a value below ten. -/
def digitChar (value : Nat) : Char := Char.ofNat (0x30 + value)

/-- The text with every digit replaced by the plain digit of the same value. -/
def asciiDigits (text : List Char) : List Char :=
  text.map fun c => ((Unicode.digitValue? c).map digitChar).getD c

/-- A sign and what follows it; no sign means plus. -/
def splitSign : List Char → Bool × List Char
  | '-' :: rest => (true, rest)
  | '+' :: rest => (false, rest)
  | text => (false, text)

/-- The value of plain digits. -/
def decimalValue (digits : List Char) : Nat :=
  digits.foldl (fun value c => value * 10 + (c.toNat - 0x30)) 0

/-- The text without its low lines, if each of them stands between two digits. -/
def joinDigits? : Option Char → List Char → Option (List Char)
  | _, [] => some []
  | before, '_' :: rest =>
    if before.any Char.isDigit && rest.head?.any Char.isDigit then joinDigits? (some '_') rest
    else none
  | _, c :: rest => (joinDigits? (some c) rest).map (c :: ·)

/-- Why a text writes no integer. -/
inductive IntegerError where
  /-- Not the form of an integer. -/
  | malformed
  /-- More digits than are read. -/
  | tooLong (digits : Nat)

/-- The most digits that are read. -/
def maxDigits : Nat := 4300

/-- The integer with a sign and an absolute value. -/
def signed (negative : Bool) (value : Nat) : Int := if negative then -(value : Int) else value

/-- Whether a character belongs to a run of digits. -/
def isDigitOrLowLine (c : Char) : Bool := c.isDigit || c = '_'

/-- The integer that a text writes. A run of digits that is too long is refused before what follows
it is looked at. -/
def readInteger (text : List Char) : Except IntegerError Int :=
  let (negative, unsigned) := splitSign (asciiDigits (trimMargin text))
  let run := unsigned.takeWhile isDigitOrLowLine
  match joinDigits? none run with
  | none => .error .malformed
  | some digits =>
    if maxDigits < digits.length then .error (.tooLong digits.length)
    else if digits.isEmpty || run.length ≠ unsigned.length then .error .malformed
    else .ok (signed negative (decimalValue digits))

/-- The plain digits of a natural number. -/
def natText (value : Nat) : List Char := Nat.toDigits 10 value

/-- The plain digits of an integer, behind a minus sign if it is negative. -/
def intText (value : Int) : List Char :=
  if value < 0 then '-' :: natText value.natAbs else natText value.natAbs

end HistoricalFigures.Number
