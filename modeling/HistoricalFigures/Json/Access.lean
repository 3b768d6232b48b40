import HistoricalFigures.Json.Printing
import HistoricalFigures.Text.Search

/-!
Taking apart values whose shape is not known.

* `Json.Fault`: what a value does not offer.
* `Json.member`, `Json.items`, `Json.entry` and others: the parts of a value, or the fault that it
  does not have them.
-/
namespace HistoricalFigures.Json

/-- The operations that only some kinds of values have by name. -/
inductive Operation where
  | get
  | lower
  | strip
  | replace
  | rsplit
  | rstrip

/-- The name of an operation. -/
def Operation.name : Operation → String
  | .get => "get"
  | .lower => "lower"
  | .strip => "strip"
  | .replace => "replace"
  | .rsplit => "rsplit"
  | .rstrip => "rstrip"

/-- What a value does not offer. The values are told by the name of their kind. -/
inductive Fault where
  /-- An operation that it does not have. -/
  | noOperation (typeName : String) (operation : Operation)
  /-- Parts to go through. -/
  | noItems (typeName : String)
  /-- Parts to look for another value among. -/
  | noMembership (typeName : String)
  /-- A length. -/
  | noLength (typeName : String)
  /-- A text to match. -/
  | noText (typeName : String)
  /-- Parts by name or by number. -/
  | noEntries (typeName : String)
  /-- Parts by name; a text has them by number. -/
  | textByName
  /-- Parts by name; a list has them by number. -/
  | listByName
  /-- A part with the given name or number, as messages show it. -/
  | noEntry (key : String)
  /-- An integer. -/
  | noInteger (typeName : String)
  /-- An integer that its text writes. -/
  | malformedInteger (text : String)
  /-- An integer of a text with that many digits. -/
  | longInteger (digits : Nat)
  /-- An integer near a number that is none. -/
  | nanInteger
  /-- An integer near an infinite number. -/
  | infiniteInteger
  /-- A pair as its item with the given number. -/
  | noPair (index : Nat)
  /-- A pair as its item with the given number, which has another length. -/
  | pairLength (index length : Nat)
  /-- A name as the first part of a pair. -/
  | noName (typeName : String)

/-- A number as text. -/
def numberText (value : Nat) : String := String.ofList (Number.natText value)

/-- The words for a fault. -/
def Fault.message : Fault → String
  | .noOperation typeName operation =>
    "'" ++ typeName ++ "' object has no attribute '" ++ operation.name ++ "'"
  | .noItems typeName => "'" ++ typeName ++ "' object is not iterable"
  | .noMembership typeName => "argument of type '" ++ typeName ++ "' is not iterable"
  | .noLength typeName => "object of type '" ++ typeName ++ "' has no len()"
  | .noText typeName => "expected string or bytes-like object, got '" ++ typeName ++ "'"
  | .noEntries typeName => "'" ++ typeName ++ "' object is not subscriptable"
  | .textByName => "string indices must be integers, not 'str'"
  | .listByName => "list indices must be integers or slices, not str"
  | .noEntry key => key
  | .noInteger typeName =>
    "int() argument must be a string, a bytes-like object or a real number, not '" ++ typeName ++ "'"
  | .malformedInteger text =>
    "invalid literal for int() with base 10: " ++ Text.cut 200 (Text.shown text)
  | .longInteger digits =>
    "Exceeds the limit (4300 digits) for integer string conversion: value has " ++
      numberText digits ++ " digits; use sys.set_int_max_str_digits() to increase the limit"
  | .nanInteger => "cannot convert float NaN to integer"
  | .infiniteInteger => "cannot convert float infinity to integer"
  | .noPair index =>
    "cannot convert dictionary update sequence element #" ++ numberText index ++ " to a sequence"
  | .pairLength index length =>
    "dictionary update sequence element #" ++ numberText index ++ " has length " ++
      numberText length ++ "; 2 is required"
  | .noName typeName => "unhashable type: '" ++ typeName ++ "'"

/-- The fault that a value does not have an operation. -/
def lacks (operation : Operation) (value : Json) : Fault :=
  .noOperation value.typeName operation

/-- The member of an object with a name, or else a value for it. -/
def member (name : String) (default : Json) : Json → Except Fault Json
  | .obj members => .ok ((Assoc.get? members name).getD default)
  | value => .error (lacks .get value)

/-- The characters of a text, each as a text of its own. -/
def characters (text : String) : List Json :=
  text.toList.map fun c => .str (String.singleton c)

/-- The parts of a value in order: items, names of members, or characters. -/
def items? : Json → Option (List Json)
  | .arr items => some items
  | .obj members => some (members.map fun entry => .str entry.1)
  | .str text => some (characters text)
  | _ => none

/-- The parts of a value in order. -/
def items (value : Json) : Except Fault (List Json) :=
  match value.items? with
  | some items => .ok items
  | none => .error (.noItems value.typeName)

/-- The number of the parts of a value. -/
def length (value : Json) : Except Fault Nat :=
  match value.items? with
  | some items => .ok items.length
  | none => .error (.noLength value.typeName)

/-- Whether a text is among the parts of a value, or within a text. -/
def holds (name : String) (value : Json) : Except Fault Bool :=
  match value with
  | .str text => .ok (Text.contains name.toList text.toList)
  | _ =>
    match value.items? with
    | some items => .ok (items.any (isText name))
    | none => .error (.noMembership value.typeName)

/-- The part of a value with a name. -/
def entry (name : String) : Json → Except Fault Json
  | .obj members =>
    match Assoc.get? members name with
    | some value => .ok value
    | none => .error (.noEntry (Text.shown name))
  | .arr _ => .error .listByName
  | .str _ => .error .textByName
  | value => .error (.noEntries value.typeName)

/-- The first part of a value. A value without parts has none; an object has no parts by number. -/
def first (value : Json) : Except Fault Json :=
  match value with
  | .arr (item :: _) => .ok item
  | .str text =>
    match characters text with
    | item :: _ => .ok item
    | [] => .error (.noEntry "0")
  | .arr [] | .obj _ => .error (.noEntry "0")
  | _ => .error (.noEntries value.typeName)

/-- The text of a value that an operation on texts needs. -/
def textFor (operation : Operation) : Json → Except Fault String
  | .str text => .ok text
  | value => .error (lacks operation value)

/-- The text of a value that an operation on texts needs; a value that does not count as given has
the empty text. -/
def textOrEmptyFor (operation : Operation) (value : Json) : Except Fault String :=
  if value.isTruthy then textFor operation value else .ok ""

/-- The integer that a text writes. -/
def integerOfText (text : String) : Except Fault Int :=
  match Number.readInteger text.toList with
  | .ok value => .ok value
  | .error .malformed => .error (.malformedInteger text)
  | .error (.tooLong digits) => .error (.longInteger digits)

/-- The integer of a value. -/
def integer : Json → Except Fault Int
  | .int value => .ok value
  | .bool value => .ok (if value then 1 else 0)
  | .str text => integerOfText text
  | .float .nan => .error .nanInteger
  | .float (.infinity _) => .error .infiniteInteger
  | .float (.finite negative significand exponent) =>
    .ok (Number.Binary64.truncate negative significand exponent)
  | value => .error (.noInteger value.typeName)

/-- The entry that an item stands for: its two parts, of which the first has to be able to name
something. Only texts name members, so an entry with another name is none. -/
def pair (index : Nat) (item : Json) : Except Fault (Option (String × Json)) :=
  match item.items? with
  | none => .error (.noPair index)
  | some [name, value] =>
    match name with
    | .str text => .ok (some (text, value))
    | .arr _ | .obj _ => .error (.noName name.typeName)
    | _ => .ok none
  | some parts => .error (.pairLength index parts.length)

/-- The entries of items, of which the first has the given number. -/
def pairsFrom (index : Nat) : List Json → Except Fault (List (String × Json))
  | [] => .ok []
  | item :: rest => do
    let found ← pair index item
    let others ← pairsFrom (index + 1) rest
    .ok (found.toList ++ others)

/-- The members of an object, or of the object that a list of pairs makes. -/
def members (value : Json) : Except Fault (Assoc Json) :=
  match value with
  | .obj members => .ok members
  | _ => do
    let pairs ← pairsFrom 0 (← value.items)
    .ok (Assoc.ofList pairs)

end HistoricalFigures.Json
