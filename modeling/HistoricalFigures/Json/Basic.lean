import HistoricalFigures.Assoc
import HistoricalFigures.Number.Binary64

/-!
JSON values. The members of an object keep the order in which their names were first given.

* `Json`: the values.
* `Json.isTruthy`: whether a value counts as given; null, false, zero and empty values do not.
* `Json.typeName`: the kind of a value, as messages name it.
* `Json.isWithin`: whether a value nests lists and objects at most so deep.
-/
namespace HistoricalFigures

/-- A JSON value. -/
inductive Json where
  | null
  | bool (value : Bool)
  | int (value : Int)
  | float (value : Number.Binary64)
  | str (value : String)
  | arr (items : List Json)
  | obj (members : List (String × Json))
  deriving Inhabited

namespace Json

/-- Whether a value counts as given. -/
def isTruthy : Json → Bool
  | .null => false
  | .bool value => value
  | .int value => value ≠ 0
  | .float (.finite _ significand _) => significand ≠ 0
  | .float _ => true
  | .str value => value ≠ ""
  | .arr items => !items.isEmpty
  | .obj members => !members.isEmpty

/-- The first value if it counts as given, the second otherwise. -/
def orElse (first second : Json) : Json := if first.isTruthy then first else second

/-- The kind of a value, as messages name it. -/
def typeName : Json → String
  | .null => "NoneType"
  | .bool _ => "bool"
  | .int _ => "int"
  | .float _ => "float"
  | .str _ => "str"
  | .arr _ => "list"
  | .obj _ => "dict"

/-- Whether at most so many lists and objects of a value are within each other. -/
def isWithin : Nat → Json → Bool
  | 0, .arr _ => false
  | depth + 1, .arr items => items.all (isWithin depth)
  | 0, .obj _ => false
  | depth + 1, .obj members => members.all fun member => isWithin depth member.2
  | _, _ => true

/-- Whether a value is the given text. -/
def isText (text : String) : Json → Bool
  | .str value => value = text
  | _ => false

/-- A text, or null where there is none. -/
def ofText? (text : Option String) : Json := (text.map Json.str).getD .null

/-- A list of texts. -/
def ofTexts (texts : List String) : Json := .arr (texts.map .str)

end Json

end HistoricalFigures
