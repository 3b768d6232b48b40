import HistoricalFigures.Json.Access
import HistoricalFigures.Json.Lexeme

/-!
Reading a JSON text.

* `Json.parse`: the value that a text writes. A repeated name in an object keeps its first place
  and takes its last value.
* `Json.parseShallow`: the same, where only what is nested too deep is an error.
* `Json.Reading.step`: one lexeme of the reading.
-/
namespace HistoricalFigures.Json

/-- The kinds of values that hold values. -/
inductive Container where
  | array
  | object

/-- The name of a kind. -/
def Container.name : Container → String
  | .array => "array"
  | .object => "object"

/-- Why a text writes no value. -/
inductive ReadingError where
  /-- It has not the form of a value. -/
  | malformed
  /-- An integer in it has more digits than are read. -/
  | longInteger (digits : Nat)
  /-- A value in it is within more values than are read. -/
  | tooDeep (container : Container)

/-- The words for why a text writes no value. -/
def ReadingError.message : ReadingError → String
  | .malformed => "not a JSON text"
  | .longInteger digits => (Fault.longInteger digits).message
  | .tooDeep container =>
    "maximum recursion depth exceeded while decoding a JSON " ++ container.name ++
      " from a unicode string"

/-- The most values that hold a value, each within another one, and that value with them. -/
def maxDepth : Nat := 975

/-- A value that is not complete yet. -/
inductive Frame where
  /-- A list with the items read so far, the last one first. -/
  | items (read : List Json)
  /-- An object with the members read so far, in the name of whose next member a value comes. -/
  | members (read : Assoc Json) (name : String)

/-- What may come next. -/
inductive Expecting where
  /-- A value. -/
  | value
  /-- A value, or the end of a list that has no items. -/
  | firstItem
  /-- A name, or the end of an object that has no members. -/
  | firstName
  /-- A name, behind the members read so far. -/
  | name (read : Assoc Json)
  /-- The colon behind a name. -/
  | colon (read : Assoc Json) (name : String)
  /-- What follows a complete value. -/
  | after (value : Json)

/-- A reading under way: the incomplete values, the innermost first, and what may come next. -/
structure Reading where
  outer : List Frame
  expecting : Expecting

namespace Reading

/-- A reading that waits for its value. -/
def start : Reading := ⟨[], .value⟩

/-- The reading behind the opening bracket of a value that holds values. -/
def openContainer (outer : List Frame) (container : Container) : Except ReadingError Reading :=
  if maxDepth ≤ outer.length then .error (.tooDeep container)
  else
    match container with
    | .array => .ok ⟨outer, .firstItem⟩
    | .object => .ok ⟨outer, .firstName⟩

/-- The reading behind the first lexeme of a value. -/
def beginValue (outer : List Frame) : Lexeme → Except ReadingError Reading
  | .openArray => openContainer outer .array
  | .openObject => openContainer outer .object
  | .value value => .ok ⟨outer, .after value⟩
  | .longInteger digits => .error (.longInteger digits)
  | _ => .error .malformed

/-- The reading behind a lexeme that follows a complete value. -/
def continueValue (value : Json) : List Frame → Lexeme → Except ReadingError Reading
  | .items read :: outer, .comma => .ok ⟨.items (value :: read) :: outer, .value⟩
  | .items read :: outer, .closeArray => .ok ⟨outer, .after (.arr (value :: read).reverse)⟩
  | .members read name :: outer, .comma => .ok ⟨outer, .name (read.put name value)⟩
  | .members read name :: outer, .closeObject =>
    .ok ⟨outer, .after (.obj (read.put name value))⟩
  | _, _ => .error .malformed

/-- The reading behind one more lexeme. -/
def step (reading : Reading) (lexeme : Lexeme) : Except ReadingError Reading :=
  match reading.expecting, lexeme with
  | .value, _ => beginValue reading.outer lexeme
  | .firstItem, .closeArray => .ok ⟨reading.outer, .after (.arr [])⟩
  | .firstItem, _ => beginValue (.items [] :: reading.outer) lexeme
  | .firstName, .closeObject => .ok ⟨reading.outer, .after (.obj [])⟩
  | .firstName, .value (.str name) => .ok ⟨reading.outer, .colon [] name⟩
  | .name read, .value (.str name) => .ok ⟨reading.outer, .colon read name⟩
  | .colon read name, .colon => .ok ⟨.members read name :: reading.outer, .value⟩
  | .after value, _ => continueValue value reading.outer lexeme
  | _, _ => .error .malformed

/-- The value of a reading that is complete. -/
def finish : Reading → Except ReadingError Json
  | ⟨[], .after value⟩ => .ok value
  | _ => .error .malformed

end Reading

/-- The value that a text writes. -/
def parse (text : String) : Except ReadingError Json := do
  (← (lexemes text.toList).foldlM Reading.step Reading.start).finish

/-- The value that a text writes, if it writes one. -/
def parse? (text : String) : Option Json := (parse text).toOption

/-- The value that a text writes, if it writes one that is not nested too deep. -/
def parseShallow (text : String) : Except Container (Option Json) :=
  match parse text with
  | .ok value => .ok (some value)
  | .error (.tooDeep container) => .error container
  | .error _ => .ok none

end HistoricalFigures.Json
