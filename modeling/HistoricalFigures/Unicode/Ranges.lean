/-
Sets of characters given by the intervals of code points that they fill.

* `inRanges`: membership in a list of ascending intervals.
-/
namespace HistoricalFigures.Unicode

/-- Whether a code point lies in one of the intervals, which are listed in ascending order. -/
def inRanges : List (Nat × Nat) → Nat → Bool
  | [], _ => false
  | (first, last) :: ranges, code =>
    if code < first then false else code ≤ last || inRanges ranges code

end HistoricalFigures.Unicode
