/-!
Hexadecimal digits.

* `hexValue?`, `readHex?`: the value of one digit, and of a given number of digits at the start of a
  text.
* `hexText`: a value in a given number of digits at least.
-/
namespace HistoricalFigures.Number

/-- The value of a hexadecimal digit. -/
def hexValue? (c : Char) : Option Nat :=
  if '0' ≤ c ∧ c ≤ '9' then some (c.toNat - 0x30)
  else if 'a' ≤ c ∧ c ≤ 'f' then some (c.toNat - 0x57)
  else if 'A' ≤ c ∧ c ≤ 'F' then some (c.toNat - 0x37)
  else none

/-- Whether a character is a hexadecimal digit. -/
def isHexDigit (c : Char) : Bool := (hexValue? c).isSome

/-- The value of the given number of hexadecimal digits at the start of a text, behind digits of
the value `done`. -/
def readHexAfter? (done : Nat) : Nat → List Char → Option Nat
  | 0, _ => some done
  | _ + 1, [] => none
  | count + 1, c :: rest =>
    (hexValue? c).bind fun value => readHexAfter? (done * 16 + value) count rest

/-- The value of the given number of hexadecimal digits at the start of a text. -/
def readHex? (count : Nat) (text : List Char) : Option Nat := readHexAfter? 0 count text

/-- A text behind as many zeros as bring it to the given length. -/
def padZeros (width : Nat) (digits : List Char) : List Char :=
  List.replicate (width - digits.length) '0' ++ digits

/-- A value in small hexadecimal digits, as many as given at least. -/
def hexText (width value : Nat) : List Char := padZeros width (Nat.toDigits 16 value)

/-- A value in capital hexadecimal digits, as many as given at least. -/
def hexCapitals (width value : Nat) : List Char := (hexText width value).map Char.toUpper

end HistoricalFigures.Number
