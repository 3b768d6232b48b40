import HistoricalFigures.Number.Hex

/-!
Percent-encoding of a text as one component of an address.

* `Percent.encode`: every octet but the unreserved characters as a percent sign and two digits.
-/
namespace HistoricalFigures.Percent

/-- The characters that stand for themselves: letters, digits and four marks. -/
def isUnreserved (c : Char) : Bool :=
  c.isAlphanum || c == '-' || c == '.' || c == '_' || c == '~'

/-- An octet as it is written. -/
def encodeOctet (octet : UInt8) : List Char :=
  let c := Char.ofNat octet.toNat
  if octet < 128 && isUnreserved c then [c] else '%' :: Number.hexCapitals 2 octet.toNat

/-- A text with every octet of its UTF-8 form as it is written. -/
def encode (text : String) : String :=
  String.ofList (text.toUTF8.toList.flatMap encodeOctet)

end HistoricalFigures.Percent
