import HistoricalFigures.Unicode.CombiningClass
import HistoricalFigures.Unicode.Parts

/-!
Canonical decomposition of a text.

* `decompose`: every character taken apart into its base and marks, the marks of each cluster in
  the order of their classes.
* `decomposeChar`: the parts of one character; a Hangul syllable falls into its letters.
* `orderMarks`: the order of marks.
-/
namespace HistoricalFigures.Unicode

/-- The parts listed for a code point. -/
def partsIn : List (Nat × List Nat) → Nat → Option (List Nat)
  | [], _ => none
  | (whole, parts) :: rest, code =>
    if code < whole then none else if code = whole then some parts else partsIn rest code

/-- The letters of a Hangul syllable: an initial, a vowel and, for most, a final. -/
def hangulParts (code : Nat) : List Nat :=
  let index := code - 0xAC00
  let final := index % 28
  [0x1100 + index / 588, 0x1161 + index % 588 / 28] ++ if final = 0 then [] else [0x11A7 + final]

/-- The canonical decomposition of one character. -/
def decomposeChar (c : Char) : List Char :=
  if 0xAC00 ≤ c.toNat ∧ c.toNat ≤ 0xD7A3 then (hangulParts c.toNat).map Char.ofNat
  else match partsIn decompositions c.toNat with
    | some parts => parts.map Char.ofNat
    | none => [c]

/-- A mark put among the marks that follow it, behind those of a smaller class. -/
def placeMark (c : Char) : List Char → List Char
  | [] => [c]
  | d :: rest =>
    if 0 < combiningClass d ∧ combiningClass d < combiningClass c then d :: placeMark c rest
    else c :: d :: rest

/-- The marks of each cluster in the order of their classes; equal classes keep their order. -/
def orderMarks (text : List Char) : List Char := text.foldr placeMark []

/-- The canonical decomposition of a text. -/
def decompose (text : List Char) : List Char := orderMarks (text.flatMap decomposeChar)

end HistoricalFigures.Unicode
