/-!
White space and lines.

* `isBlank`: white space of every script, with the separator controls and the next-line control.
* `trim`, `trimStart`, `trimEnd`: a text without the white space at its ends.
* `isLineBreak`, `firstLine`: the characters that end a line, and what stands before the first.
-/
namespace HistoricalFigures.Unicode

/-- White space: tab to carriage return, the four separator controls, the space, the next-line
control, the no-break space and the spaces of the scripts. -/
def isBlank (c : Char) : Bool :=
  let code := c.toNat
  (0x09 ≤ code && code ≤ 0x0D) || (0x1C ≤ code && code ≤ 0x20) || code == 0x85 || code == 0xA0 ||
    code == 0x1680 || (0x2000 ≤ code && code ≤ 0x200A) || code == 0x2028 || code == 0x2029 ||
    code == 0x202F || code == 0x205F || code == 0x3000

/-- A text without the white space at its start. -/
def trimStart (text : List Char) : List Char := text.dropWhile isBlank

/-- A text without the characters of a class at its end. -/
def dropEndWhile (p : Char → Bool) (text : List Char) : List Char :=
  (text.reverse.dropWhile p).reverse

/-- A text without the white space at its end. -/
def trimEnd (text : List Char) : List Char := dropEndWhile isBlank text

/-- A text without the white space at its ends. -/
def trim (text : List Char) : List Char := trimEnd (trimStart text)

/-- The characters that end a line: line feed to carriage return, three of the separator controls,
the next-line control and the line and paragraph separators. -/
def isLineBreak (c : Char) : Bool :=
  let code := c.toNat
  (0x0A ≤ code && code ≤ 0x0D) || (0x1C ≤ code && code ≤ 0x1E) || code == 0x85 ||
    code == 0x2028 || code == 0x2029

/-- What stands before the first character that ends a line. -/
def firstLine (text : List Char) : List Char := text.takeWhile fun c => !isLineBreak c

end HistoricalFigures.Unicode
