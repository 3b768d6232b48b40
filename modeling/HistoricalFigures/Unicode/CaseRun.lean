/-!
Case mappings of one character to one, kept as runs of evenly spaced characters with evenly spaced
images.

* `CaseRun.image?`: the image of a character of the run.
* `imageIn`: the image under a list of runs; a character of none of them is its own image.
-/
namespace HistoricalFigures.Unicode

/-- The characters `first`, `first + step`, … up to `last`, whose images are `image`,
`image + step`, …. -/
structure CaseRun where
  first : Nat
  last : Nat
  step : Nat
  image : Nat

/-- The image of a code point of the run. -/
def CaseRun.image? (run : CaseRun) (code : Nat) : Option Nat :=
  if run.first ≤ code ∧ code ≤ run.last ∧ (code - run.first) % run.step = 0 then
    some (run.image + (code - run.first))
  else none

/-- The image of a code point under runs in ascending order. -/
def imageIn : List CaseRun → Nat → Nat
  | [], code => code
  | run :: runs, code =>
    if code < run.first then code else (run.image? code).getD (imageIn runs code)

end HistoricalFigures.Unicode
