import HistoricalFigures.Unicode.Scalar
import HistoricalFigures.Number.Integer

/-!
Why a document cannot be read.

* `Error`: the causes.
* `Error.message`: the words for a cause.
* `Error.isGrammar`: whether the document does not fit the grammar; the one other cause is an escape
  whose number is no character.
-/
namespace HistoricalFigures.Turtle

/-- What may have to come next in a document. -/
inductive Part where
  | namespaceName
  | namespaceIri
  | subject
  | predicate
  | object
  | datatype
  | point

/-- The words for a part. -/
def Part.text : Part → String
  | .namespaceName => "prefix name"
  | .namespaceIri => "namespace IRI"
  | .subject => "subject IRI"
  | .predicate => "predicate"
  | .object => "object"
  | .datatype => "datatype IRI"
  | .point => "'.'"

/-- Why a document cannot be read. -/
inductive Error where
  /-- No token begins here. -/
  | noToken (line : Nat) (snippet : List Char)
  /-- The document ends where a part has to come. -/
  | endOfDocument (expected : Part)
  /-- Something else stands where a part has to come. -/
  | unexpected (expected : Part) (line : Nat) (found : List Char)
  /-- A blank node or a collection. -/
  | blankNode (line : Nat) (found : List Char)
  /-- A base declaration, by the word that it begins with. -/
  | base (word : String) (line : Nat)
  /-- A name in a namespace that is not declared. -/
  | undeclared (name : List Char) (line : Nat)
  /-- A letter behind a backslash that is no escape. -/
  | unknownEscape (letter : Char)
  /-- An escape with a number beyond all characters. -/
  | beyondUnicode (code : Nat)

namespace Error

/-- Whether the cause is that the document does not fit the grammar. -/
def isGrammar : Error → Bool
  | .beyondUnicode _ => false
  | _ => true

/-- A text in single quotes. -/
def quoted (text : List Char) : String := "'" ++ String.ofList text ++ "'"

/-- A line number. -/
def lineText (line : Nat) : String := "line " ++ String.ofList (Number.natText line)

/-- The words for a cause. -/
def message : Error → String
  | .noToken line snippet => "Unexpected input on " ++ lineText line ++ ": " ++ quoted snippet
  | .endOfDocument expected => "Unexpected end of document, expected " ++ expected.text
  | .unexpected expected line found =>
    "Expected " ++ expected.text ++ " on " ++ lineText line ++ ", found " ++ quoted found
  | .blankNode line found =>
    "Blank nodes and collections are not supported (" ++ lineText line ++ ": " ++ quoted found ++ ")"
  | .base word line => word ++ " is not supported (" ++ lineText line ++ ")"
  | .undeclared name line =>
    "Undeclared prefix " ++ quoted (name ++ [':']) ++ " on " ++ lineText line
  | .unknownEscape letter => "Invalid escape sequence " ++ quoted ['\\', letter]
  | .beyondUnicode code =>
    if code ≤ 0x7FFFFFFF then "chr() arg not in range(0x110000)"
    else "Python int too large to convert to C int"

end Error

end HistoricalFigures.Turtle
