import HistoricalFigures.Number.Binary64

/-!
The text of a number of double precision: the fewest digits that read back as the number.

* `Binary64.shortest`: those digits and the power of ten of the last of them.
* `Binary64.text`: the digits with a point for moderate numbers, with an exponent for others.
-/
namespace HistoricalFigures.Number.Binary64

/-- The number of places before the point of a positive quotient; zero and negative numbers count
the zeros behind the point. -/
def pointPlace (numerator denominator : Nat) : Int :=
  if denominator ≤ numerator then (Nat.toDigits 10 (numerator / denominator)).length
  else 1 - (Nat.toDigits 10 ((denominator - 1) / numerator)).length

/-- A positive number with the numbers halfway to its neighbours, all three over one denominator.
The ends themselves read back as the number if its significand is even. -/
structure Interval where
  low : Nat
  value : Nat
  high : Nat
  denominator : Nat
  closed : Bool

/-- The interval of the quotients that read back as a number. -/
def interval (significand : Nat) (exponent : Int) : Interval :=
  let factor := if 0 ≤ exponent then Nat.pow 2 exponent.toNat else 1
  let below := if significand = Nat.pow 2 52 ∧ -1074 < exponent then 1 else 2
  { low := (4 * significand - below) * factor
    value := 4 * significand * factor
    high := (4 * significand + 2) * factor
    denominator := 4 * (if 0 ≤ exponent then 1 else Nat.pow 2 (-exponent).toNat)
    closed := significand % 2 = 0 }

/-- Whether `digits` times ten to `power` lies in an interval. -/
def Interval.holds (i : Interval) (digits : Nat) (power : Int) : Bool :=
  let scaled := if 0 ≤ power then digits * Nat.pow 10 power.toNat * i.denominator
    else digits * i.denominator
  let unit := if 0 ≤ power then 1 else Nat.pow 10 (-power).toNat
  if i.closed then i.low * unit ≤ scaled && scaled ≤ i.high * unit
  else i.low * unit < scaled && scaled < i.high * unit

/-- The point of the grid of step ten to `power` that is nearest to the value of the interval and
lies in it, if one does; of two as near, the even one. -/
def Interval.onGrid? (i : Interval) (power : Int) : Option Nat :=
  let (numerator, denominator) :=
    if 0 ≤ power then (i.value, i.denominator * Nat.pow 10 power.toNat)
    else (i.value * Nat.pow 10 (-power).toNat, i.denominator)
  let below := numerator / denominator
  let nearest := roundQuotient numerator denominator
  let other := if nearest = below then below + 1 else below
  if i.holds nearest power then some nearest
  else if i.holds other power then some other
  else none

/-- The first grid, from the given number of digits on, that has a point in the interval. -/
def Interval.search (i : Interval) (place : Int) : Nat → Nat → Nat × Int
  | 0, count => (i.value * Nat.pow 10 (count - place).toNat / i.denominator, place - count)
  | remaining + 1, count =>
    match i.onGrid? (place - count) with
    | some digits => (digits, place - count)
    | none => i.search place remaining (count + 1)

/-- The fewest digits that read back as a positive number, and the power of ten of the last. -/
def shortest (significand : Nat) (exponent : Int) : Nat × Int :=
  let i := interval significand exponent
  i.search (pointPlace i.value i.denominator) 17 1

/-- The digits of a positive natural number without the zeros at the end. -/
def significantDigits (value : Nat) : List Char :=
  Unicode.dropEndWhile (· == '0') (natText value)

/-- An exponent of at least two digits, behind its sign. -/
def exponentText (exponent : Int) : List Char :=
  let digits := natText exponent.natAbs
  'e' :: (if exponent < 0 then '-' else '+') :: (if digits.length < 2 then '0' :: digits else digits)

/-- Digits with the point behind the given number of places: from `0.0001` up to sixteen places
before the point it is set among the digits, beyond that an exponent follows the first digit. -/
def placePoint (digits : List Char) (place : Int) : List Char :=
  if -4 < place ∧ place ≤ 16 then
    if place ≤ 0 then '0' :: '.' :: List.replicate (-place).toNat '0' ++ digits
    else if digits.length ≤ place.toNat then
      digits ++ List.replicate (place.toNat - digits.length) '0' ++ ['.', '0']
    else digits.take place.toNat ++ '.' :: digits.drop place.toNat
  else match digits with
    | [] => []
    | [first] => first :: exponentText (place - 1)
    | first :: rest => first :: '.' :: rest ++ exponentText (place - 1)

/-- The text of a finite number without its sign. -/
def magnitudeText (significand : Nat) (exponent : Int) : List Char :=
  if significand = 0 then ['0', '.', '0']
  else
    let (digits, power) := shortest significand exponent
    placePoint (significantDigits digits) (power + (natText digits).length)

/-- The text of a number. -/
def text : Binary64 → String
  | .nan => "nan"
  | .infinity negative => if negative then "-inf" else "inf"
  | .finite negative significand exponent =>
    String.ofList ((if negative then ['-'] else []) ++ magnitudeText significand exponent)

end HistoricalFigures.Number.Binary64
