import HistoricalFigures.Encoding.Base64
import HistoricalFigures.Encoding.Utf8
import HistoricalFigures.Literal.Escaping
import HistoricalFigures.Text.Search

/-!
Texts that may be written in Base64.

* `decodeIfEncoded`: the decoded text if a text looks like Base64 and decodes to clean text, the
  text itself otherwise.
* `decodeQuotedSegments`: a text with everything between two double quotes decoded in that way.
-/
namespace HistoricalFigures.Literal

/-- Control characters other than tab, line feed and carriage return. -/
def isControl (c : Char) : Bool :=
  let code := c.toNat
  code ≤ 0x08 || code = 0x0B || code = 0x0C || (0x0E ≤ code && code ≤ 0x1F)

/-- Whether a text has the form of Base64: whole groups of four of its characters. -/
def looksEncoded (text : List Char) : Bool :=
  !text.isEmpty && text.length % 4 = 0 && text.all Base64.isSymbol

/-- The clean text that a text encodes. -/
def decodeClean? (text : List Char) : Option (List Char) := do
  let octets ← Base64.decode? text
  let decoded ← Utf8.decode? ⟨octets.toArray⟩
  if decoded.toList.any isControl then none else some decoded.toList

/-- The text that a text encodes, if it looks encoded and decodes to clean text. -/
def decodeChars (text : List Char) : List Char :=
  if looksEncoded text then (decodeClean? text).getD text else text

/-- The text that a text encodes, if it looks encoded and decodes to clean text. -/
def decodeIfEncoded (text : String) : String := String.ofList (decodeChars text.toList)

/-- A segment of Base64 characters between double quotes is replaced by its decoded text, which is
written between quotes anew. -/
def quotedSegment : Text.Finder (List Char) := fun _ text =>
  match text with
  | '\x22' :: rest =>
    let segment := rest.takeWhile Base64.isSymbol
    if segment ≠ [] ∧ (rest.drop segment.length).head? = some '\x22' then
      let decoded := decodeChars segment
      let inner := if decoded = segment then segment else escapeChars decoded
      some ('\x22' :: inner ++ ['\x22'], segment.length + 1)
    else none
  | _ => none

/-- A text with every quoted segment of Base64 characters decoded. -/
def decodeQuotedSegments (text : String) : String :=
  String.ofList (Text.replaceAll quotedSegment text.toList)

end HistoricalFigures.Literal
