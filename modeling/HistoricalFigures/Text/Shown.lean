import HistoricalFigures.Number.Hex
import HistoricalFigures.Unicode.Printable

/-!
Texts as messages show them: between quotes, with every character that has no shape of its own
escaped.

* `shown`: the text between single quotes, or between double quotes if it holds a single one and no
  double one.
-/
namespace HistoricalFigures.Text

/-- The quote that a text is shown between. -/
def shownQuote (text : List Char) : Char :=
  if text.contains '\x27' && !text.contains '\x22' then '\x22' else '\x27'

/-- A character of a text between the given quotes. -/
def shownChar (quote c : Char) : List Char :=
  if c = quote ∨ c = '\\' then ['\\', c]
  else if c = '\t' then ['\\', 't']
  else if c = '\n' then ['\\', 'n']
  else if c = '\r' then ['\\', 'r']
  else if Unicode.isPrintable c then [c]
  else if c.toNat ≤ 0xFF then '\\' :: 'x' :: Number.hexText 2 c.toNat
  else if c.toNat ≤ 0xFFFF then '\\' :: 'u' :: Number.hexText 4 c.toNat
  else '\\' :: 'U' :: Number.hexText 8 c.toNat

/-- A text as messages show it. -/
def shown (text : String) : String :=
  let quote := shownQuote text.toList
  String.ofList (quote :: text.toList.flatMap (shownChar quote) ++ [quote])

/-- The start of a text, of the given length at most. -/
def cut (length : Nat) (text : String) : String := String.ofList (text.toList.take length)

end HistoricalFigures.Text
