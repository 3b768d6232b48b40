import HistoricalFigures.Number.Hex
import HistoricalFigures.Number.Integer

/-!
Texts as octets.

* `Utf8.encode`, `Utf8.decode`: the UTF-8 form of a text, and the text of octets that are such a
  form.
* `Utf8.Fault`: where octets stop being such a form.
* `readLines`: a text with every way of ending a line made a line feed.
* `withoutMark`: a text without the mark that may stand before it.
* `Utf8.decode?_eq_some_iff`: the octets that a text is read from are its own.
-/
namespace HistoricalFigures.Utf8

/-- The UTF-8 form of a text. -/
def encode (text : String) : ByteArray := text.toUTF8

/-- The text whose UTF-8 form the octets are. -/
def decode? (octets : ByteArray) : Option String := String.fromUTF8? octets

/-! ### Faults -/

/-- What is wrong with an octet. -/
inductive Flaw where
  /-- No character begins with it. -/
  | start
  /-- The character that it begins does not go on. -/
  | continuation
  /-- The octets end within the character that it begins. -/
  | cut

/-- Where octets stop being the form of a text: the octets of the character that is no character. -/
structure Fault where
  position : Nat
  octets : List UInt8
  flaw : Flaw

/-- The words for what is wrong with an octet. -/
def Flaw.text : Flaw → String
  | .start => "invalid start byte"
  | .continuation => "invalid continuation byte"
  | .cut => "unexpected end of data"

/-- The words for where octets stop being the form of a text. -/
def Fault.message (fault : Fault) : String :=
  let first := String.ofList (Number.natText fault.position)
  let last := String.ofList (Number.natText (fault.position + fault.octets.length - 1))
  let place := match fault.octets with
    | [octet] => "byte 0x" ++ String.ofList (Number.hexText 2 octet.toNat) ++ " in position " ++ first
    | _ => "bytes in position " ++ first ++ "-" ++ last
  "'utf-8' codec can't decode " ++ place ++ ": " ++ fault.flaw.text

/-- The number of octets behind the first octet of a character. -/
def followers? (first : UInt8) : Option Nat :=
  if first < 0x80 then some 0
  else if first < 0xC2 then none
  else if first < 0xE0 then some 1
  else if first < 0xF0 then some 2
  else if first < 0xF5 then some 3
  else none

/-- Whether an octet continues a character. -/
def continues (octet : UInt8) : Bool := 0x80 ≤ octet && octet ≤ 0xBF

/-- Whether an octet may be the second one of a character. Longer forms than are needed, halves of
pairs and what is beyond the last character are none. -/
def maySecond (first second : UInt8) : Bool :=
  continues second && (first ≠ 0xE0 || 0xA0 ≤ second) && (first ≠ 0xED || second < 0xA0) &&
    (first ≠ 0xF0 || 0x90 ≤ second) && (first ≠ 0xF4 || second < 0x90)

/-- The octets that go on with a character, of those that should. -/
def goingOn (first : UInt8) : List UInt8 → List UInt8
  | [] => []
  | second :: later =>
    if maySecond first second then second :: later.takeWhile continues else []

/-- The first fault from a position on, where the next `skipped` octets belong to a character. The
end of the octets counts as a character that is cut off. -/
def faultFrom (position : Nat) : Nat → List UInt8 → Fault
  | _, [] => ⟨position, [], .cut⟩
  | skipped + 1, _ :: rest => faultFrom (position + 1) skipped rest
  | 0, first :: rest =>
    match followers? first with
    | none => ⟨position, [first], .start⟩
    | some count =>
      let found := goingOn first (rest.take count)
      if found.length = count then faultFrom (position + 1) count rest
      else ⟨position, first :: found, if found.length = rest.length then .cut else .continuation⟩

/-- The text whose UTF-8 form the octets are, or the first fault of octets that are no such form. -/
def decode (octets : ByteArray) : Except Fault String :=
  match decode? octets with
  | some text => .ok text
  | none => .error (faultFrom 0 0 octets.toList)

/-! ### Marks and lines -/

/-- The character that may stand before a text to say how its octets are ordered. -/
def mark : Char := '\ufeff'

/-- A text without the mark before it. -/
def withoutMark : List Char → List Char
  | [] => []
  | first :: rest => if first = mark then rest else first :: rest

/-- A carriage return, with the line feed behind it if there is one, becomes a line feed. -/
def readLines : List Char → List Char
  | '\r' :: '\n' :: rest => '\n' :: readLines rest
  | '\r' :: rest => '\n' :: readLines rest
  | c :: rest => c :: readLines rest
  | [] => []

/-- The text of octets, its lines ended by line feeds. -/
def decodeLines (octets : ByteArray) : Except Fault String :=
  (decode octets).map fun text => String.ofList (readLines text.toList)

/-- The text of octets without the mark before it, its lines ended by line feeds. -/
def decodeMarkedLines (octets : ByteArray) : Except Fault String :=
  (decodeLines octets).map fun text => String.ofList (withoutMark text.toList)

/-- A text is read back from its octets. -/
theorem decode?_encode (text : String) : decode? (encode text) = some text := by
  simp only [decode?, encode, String.fromUTF8?]
  exact dif_pos text.isValidUTF8

theorem encode_of_decode? {octets : ByteArray} {text : String} (read : decode? octets = some text) :
    encode text = octets := by
  unfold decode? String.fromUTF8? at read
  split at read
  · cases read
    rfl
  · cases read

/-- **The octets that a text is read from** are its own. -/
theorem decode?_eq_some_iff {octets : ByteArray} {text : String} :
    decode? octets = some text ↔ encode text = octets :=
  ⟨encode_of_decode?, fun same => same ▸ decode?_encode text⟩

/-- A text has no more characters than octets. -/
theorem length_le_length_encode (text : String) :
    text.length ≤ (encode text).data.toList.length := by
  obtain ⟨chars, rfl⟩ : ∃ chars, text = String.ofList chars := ⟨text.toList, String.ofList_toList.symm⟩
  simp only [String.length_ofList, encode, String.toUTF8_eq_toByteArray, String.toByteArray_ofList,
    List.utf8Encode, List.data_toByteArray, List.length_flatMap, String.length_utf8EncodeChar]
  induction chars with
  | nil => exact Nat.le_refl 0
  | cons c rest found =>
    have positive := c.utf8Size_pos
    rw [List.length_cons, List.map_cons, List.sum_cons]
    omega

end HistoricalFigures.Utf8
