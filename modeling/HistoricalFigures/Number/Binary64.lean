import HistoricalFigures.Number.Integer

/-!
Binary floating-point numbers of double precision, as exact values.

* `Binary64.ofDecimal`: the number nearest to a decimal one.
* `Binary64.read?`: the number that a text writes.
* `Binary64.truncate?`: the integer before the point.
-/
namespace HistoricalFigures.Number

/-- A number of double precision. A finite one is its significand times two to the exponent; the
significand is below `2 ^ 53`, the exponent at least `-1074`, and the significand is at least
`2 ^ 52` unless the exponent is the least one. -/
inductive Binary64 where
  | nan
  | infinity (negative : Bool)
  | finite (negative : Bool) (significand : Nat) (exponent : Int)
  deriving DecidableEq, Inhabited

namespace Binary64

/-- A quotient rounded to the nearest natural number, halves to the even one. -/
def roundQuotient (numerator denominator : Nat) : Nat :=
  let quotient := numerator / denominator
  let twice := 2 * (numerator % denominator)
  if denominator < twice ∨ (twice = denominator ∧ quotient % 2 = 1) then quotient + 1 else quotient

/-- The quotient of two positive numbers divided by a power of two, as numerator and
denominator. -/
def scale (numerator denominator : Nat) (exponent : Int) : Nat × Nat :=
  if 0 ≤ exponent then (numerator, denominator * Nat.pow 2 exponent.toNat)
  else (numerator * Nat.pow 2 (-exponent).toNat, denominator)

/-- The exponent that leaves 53 binary digits before the point of a quotient, or the least one. -/
def exponentOf (numerator denominator : Nat) : Int :=
  let guess : Int := (Nat.log2 numerator : Int) - (Nat.log2 denominator : Int) - 52
  let (scaled, unit) := scale numerator denominator guess
  max (-1074) (if scaled < unit * Nat.pow 2 52 then guess - 1 else guess)

/-- The number nearest to a positive quotient, halves to the even significand. -/
def ofQuotient (negative : Bool) (numerator denominator : Nat) : Binary64 :=
  let exponent := exponentOf numerator denominator
  let (scaled, unit) := scale numerator denominator exponent
  let rounded := roundQuotient scaled unit
  let (significand, exponent) :=
    if rounded = Nat.pow 2 53 then (Nat.pow 2 52, exponent + 1) else (rounded, exponent)
  if 971 < exponent then .infinity negative else .finite negative significand exponent

/-- The number zero with a sign. -/
def zero (negative : Bool) : Binary64 := .finite negative 0 (-1074)

/-- The number nearest to `digits` times ten to `power`. -/
def ofDecimal (negative : Bool) (digits : Nat) (power : Int) : Binary64 :=
  let magnitude : Int := (Nat.toDigits 10 digits).length + power
  if digits = 0 ∨ magnitude < -330 then zero negative
  else if 310 < magnitude then .infinity negative
  else if 0 ≤ power then ofQuotient negative (digits * Nat.pow 10 power.toNat) 1
  else ofQuotient negative digits (Nat.pow 10 (-power).toNat)

/-- An exponent: the letter e, a sign and digits. Nothing at all is the exponent zero. -/
def readExponent? : List Char → Option Int
  | [] => some 0
  | c :: rest =>
    let (negative, digits) := splitSign rest
    if (c == 'e' || c == 'E') && !digits.isEmpty && digits.all Char.isDigit then
      some (signed negative (decimalValue digits))
    else none

/-- The number with plain digits, perhaps a point among or beside them, and an exponent. -/
def readDecimal? (negative : Bool) (text : List Char) : Option Binary64 :=
  let whole := text.takeWhile Char.isDigit
  let afterWhole := text.dropWhile Char.isDigit
  let (fraction, tail) := match afterWhole with
    | '.' :: rest => (rest.takeWhile Char.isDigit, rest.dropWhile Char.isDigit)
    | _ => ([], afterWhole)
  if whole.isEmpty && fraction.isEmpty then none
  else (readExponent? tail).map fun power =>
    ofDecimal negative (decimalValue (whole ++ fraction)) (power - fraction.length)

/-- The number that a text writes: a decimal one, `inf`, `infinity` or `nan` in any case. -/
def read? (text : List Char) : Option Binary64 :=
  (joinDigits? none (asciiDigits (trimMargin text))).bind fun plain =>
    let (negative, rest) := splitSign plain
    let word := String.ofList (rest.map Char.toLower)
    if word = "inf" ∨ word = "infinity" then some (.infinity negative)
    else if word = "nan" then some .nan
    else readDecimal? negative rest

/-- The integer before the point of a finite number. -/
def truncate (negative : Bool) (significand : Nat) (exponent : Int) : Int :=
  signed negative (if 0 ≤ exponent then significand * Nat.pow 2 exponent.toNat
    else significand / Nat.pow 2 (-exponent).toNat)

end Binary64

end HistoricalFigures.Number
