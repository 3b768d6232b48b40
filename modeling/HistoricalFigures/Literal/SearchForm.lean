import HistoricalFigures.Unicode.Blank
import HistoricalFigures.Unicode.Decomposition
import HistoricalFigures.Unicode.Lowercase

/-!
The form in which texts are compared when they are searched.

* `searchForm`: a text without diacritics, in lower case and without blanks at its ends.
-/
namespace HistoricalFigures.Literal

/-- The combining diacritical marks. -/
def isDiacritic (c : Char) : Bool := 0x0300 ≤ c.toNat && c.toNat ≤ 0x036F

/-- The form in which a text is compared. -/
def searchChars (text : List Char) : List Char :=
  Unicode.trim (Unicode.lowercase ((Unicode.decompose text).filter fun c => !isDiacritic c))

/-- The form in which a text is compared. -/
def searchForm (text : String) : String := String.ofList (searchChars text.toList)

end HistoricalFigures.Literal
