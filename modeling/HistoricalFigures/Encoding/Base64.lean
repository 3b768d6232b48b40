/-!
Base64 texts.

* `Base64.encode`: the text of octets.
* `Base64.decode?`: the octets of a text. Padding may follow a complete group of four and is then
  passed over; bits that fill up the last sextet may be anything; nothing may follow padding that
  completes a group.
-/
namespace HistoricalFigures.Base64

/-- The sextet that a character stands for. -/
def sextet? (c : Char) : Option Nat :=
  if 'A' ≤ c ∧ c ≤ 'Z' then some (c.toNat - 0x41)
  else if 'a' ≤ c ∧ c ≤ 'z' then some (c.toNat - 0x61 + 26)
  else if '0' ≤ c ∧ c ≤ '9' then some (c.toNat - 0x30 + 52)
  else if c = '+' then some 62
  else if c = '/' then some 63
  else none

/-- The character that stands for a sextet. -/
def sextetChar (value : Nat) : Char :=
  if value < 26 then Char.ofNat (0x41 + value)
  else if value < 52 then Char.ofNat (0x61 + (value - 26))
  else if value < 62 then Char.ofNat (0x30 + (value - 52))
  else if value = 62 then '+' else '/'

/-- A character of a Base64 text. -/
def isSymbol (c : Char) : Bool := (sextet? c).isSome || c == '='

/-- The text of octets. -/
def encode : List UInt8 → List Char
  | [] => []
  | [a] =>
    [sextetChar (a.toNat / 4), sextetChar (a.toNat % 4 * 16), '=', '=']
  | [a, b] =>
    [sextetChar (a.toNat / 4), sextetChar (a.toNat % 4 * 16 + b.toNat / 16),
      sextetChar (b.toNat % 16 * 4), '=']
  | a :: b :: c :: rest =>
    sextetChar (a.toNat / 4) :: sextetChar (a.toNat % 4 * 16 + b.toNat / 16) ::
      sextetChar (b.toNat % 16 * 4 + c.toNat / 64) :: sextetChar (c.toNat % 64) :: encode rest

/-- The octets of three sextets and a part of the fourth. -/
def octets (a b c d : Nat) : List UInt8 :=
  [UInt8.ofNat (a * 4 + b / 16), UInt8.ofNat (b % 16 * 16 + c / 4), UInt8.ofNat (c % 4 * 64 + d)]

/-- The octets of groups of four characters behind complete groups. -/
def decodeGroups? : List Char → Option (List UInt8)
  | [] => some []
  | a :: b :: c :: d :: rest =>
    match sextet? a, sextet? b, sextet? c, sextet? d with
    | some a, some b, some c, some d => (decodeGroups? rest).map (octets a b c d ++ ·)
    | some a, some b, some c, none =>
      if d = '=' ∧ rest = [] then some ((octets a b c 0).take 2) else none
    | some a, some b, none, _ =>
      if c = '=' ∧ d = '=' ∧ rest = [] then some ((octets a b 0 0).take 1) else none
    | _, _, _, _ => if (a :: b :: c :: d :: rest).all (· == '=') then some [] else none
  | _ => none

/-- The octets of a text, which begins with no padding. -/
def decode? (text : List Char) : Option (List UInt8) :=
  if text.head? = some '=' then none else decodeGroups? text

end HistoricalFigures.Base64
