/-!
Characters by their codes.

* `charOf`: the character of a code; codes that are no character have the replacement character.
-/
namespace HistoricalFigures.Unicode

/-- The first number that is no code of a character. -/
def codeBound : Nat := 0x110000

/-- The character with a code, or the replacement character where the code is no character. -/
def charOf (code : Nat) : Char := if code.isValidChar then Char.ofNat code else '\uFFFD'

end HistoricalFigures.Unicode
