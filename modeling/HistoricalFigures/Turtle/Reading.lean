import HistoricalFigures.Rdf.Term
import HistoricalFigures.Rdf.Vocabulary
import HistoricalFigures.Turtle.Escape
import HistoricalFigures.Turtle.Token
import HistoricalFigures.Unicode.Uppercase

/-!
Reading the statements of a document, one token after the other.

* `Reading.step`: one token of the reading.
* `Turtle.read`: the statements of a document and the namespaces that are declared at its end.
* `Turtle.parse`: the statements of a document.
-/
namespace HistoricalFigures.Turtle

open Rdf (Namespaces Statement Term)

/-- What may come next. -/
inductive Expecting where
  /-- A declaration or a subject. -/
  | sentence
  /-- The name of a namespace; a point follows its declaration or does not. -/
  | namespaceName (pointed : Bool)
  /-- The namespace behind its name. -/
  | namespaceIri (pointed : Bool) (name : List Char)
  /-- The point behind a declaration. -/
  | declarationEnd
  /-- A predicate. -/
  | predicate (subject : String)
  /-- An object. -/
  | object (subject predicate : String)
  /-- A language or a datatype behind a string, or what follows a complete object. -/
  | suffix (subject predicate text : String)
  /-- The datatype behind its mark. -/
  | datatype (subject predicate text : String)
  /-- A comma, a semicolon or a point behind a complete object. -/
  | separator (subject predicate : String)
  /-- A predicate, a point or one more semicolon behind a semicolon. -/
  | continuation (subject : String)

/-- A reading under way: the declared namespaces, the statements read so far, the last one first,
and what may come next. -/
structure Reading where
  namespaces : Namespaces
  statements : List Statement
  expecting : Expecting

namespace Reading

/-- The error for a token that stands where a part has to come. -/
def refuse (token : Token) (expected : Part) : Error :=
  if token.kind = .blankNode then .blankNode token.line token.text
  else .unexpected expected token.line token.text

/-- Whether a token is a point, a comma or a semicolon. -/
def isMark (token : Token) (mark : Char) : Bool :=
  token.kind = .punctuation && token.text = [mark]

/-- The resource that a token between angle brackets names. -/
def iriValue (token : Token) : Except Error String :=
  (unescape .refused (token.text.drop 1).dropLast).map String.ofList

/-- The resource that a name stands for. -/
def expand (namespaces : Namespaces) (token : Token) : Except Error String :=
  let name := token.text.takeWhile (· ≠ ':')
  match namespaces.get? (String.ofList name) with
  | some base => .ok (base ++ String.ofList (token.text.drop (name.length + 1)))
  | none => .error (.undeclared name token.line)

/-- The resource that a token names. -/
def resource (namespaces : Namespaces) (expected : Part) (token : Token) : Except Error String :=
  match token.kind with
  | .iri => iriValue token
  | .name => expand namespaces token
  | _ => .error (refuse token expected)

/-- The datatype of a number. -/
def numberDatatype (text : List Char) : String :=
  if text.any fun c => c = 'e' || c = 'E' then Rdf.doubleDatatype
  else if text.any (· = '.') then Rdf.decimalDatatype
  else Rdf.integerDatatype

/-- The text of a string between its quotes. -/
def stringValue (quoteCount : Nat) (token : Token) : Except Error String :=
  let inner := (token.text.drop quoteCount).take (token.text.length - 2 * quoteCount)
  (unescape .refused inner).map String.ofList

/-- The words for the two truth values. -/
def truthWords : List (List Char) := ["true".toList, "false".toList]

/-- The reading behind a complete object. -/
def complete (reading : Reading) (subject predicate : String) (object : Term) : Reading :=
  { reading with
    statements := ⟨subject, predicate, object⟩ :: reading.statements
    expecting := .separator subject predicate }

/-- The reading behind a token that may begin a declaration or a statement. -/
def beginSentence (reading : Reading) (token : Token) : Except Error Reading :=
  let word := String.ofList (Unicode.uppercase token.text)
  if token.kind = .directive then
    if token.text = "@base".toList then .error (.base "@base" token.line)
    else .ok { reading with expecting := .namespaceName true }
  else if token.kind = .word ∧ word = "BASE" then .error (.base "BASE" token.line)
  else if token.kind = .word ∧ word = "PREFIX" then
    .ok { reading with expecting := .namespaceName false }
  else (resource reading.namespaces .subject token).map fun subject =>
    { reading with expecting := .predicate subject }

/-- The reading behind the name of a namespace. -/
def takeNamespaceName (reading : Reading) (pointed : Bool) (token : Token) :
    Except Error Reading :=
  let name := token.text.takeWhile (· ≠ ':')
  if token.kind = .name ∧ token.text = name ++ [':'] then
    .ok { reading with expecting := .namespaceIri pointed name }
  else .error (refuse token .namespaceName)

/-- The reading behind a namespace. -/
def takeNamespaceIri (reading : Reading) (pointed : Bool) (name : List Char) (token : Token) :
    Except Error Reading :=
  if token.kind = .iri then
    (iriValue token).map fun base =>
      { reading with
        namespaces := reading.namespaces.put (String.ofList name) base
        expecting := if pointed then .declarationEnd else .sentence }
  else .error (refuse token .namespaceIri)

/-- The reading behind a point that has to come. -/
def takePoint (reading : Reading) (token : Token) : Except Error Reading :=
  if isMark token '.' then .ok { reading with expecting := .sentence }
  else .error (refuse token .point)

/-- The reading behind a predicate. -/
def takePredicate (reading : Reading) (subject : String) (token : Token) : Except Error Reading :=
  if token.kind = .word ∧ token.text = ['a'] then
    .ok { reading with expecting := .object subject Rdf.typePredicate }
  else (resource reading.namespaces .predicate token).map fun predicate =>
    { reading with expecting := .object subject predicate }

/-- The reading behind a string. -/
def takeString (reading : Reading) (subject predicate : String) (quoteCount : Nat)
    (token : Token) : Except Error Reading :=
  (stringValue quoteCount token).map fun text =>
    { reading with expecting := .suffix subject predicate text }

/-- The reading behind an object. -/
def takeObject (reading : Reading) (subject predicate : String) (token : Token) :
    Except Error Reading :=
  match token.kind with
  | .string => takeString reading subject predicate 1 token
  | .longString => takeString reading subject predicate 3 token
  | .number => .ok (reading.complete subject predicate
      (.typed (String.ofList token.text) (numberDatatype token.text)))
  | .word =>
    if token.text ∈ truthWords then .ok (reading.complete subject predicate
      (.typed (String.ofList token.text) Rdf.booleanDatatype))
    else .error (refuse token .object)
  | _ => (resource reading.namespaces .object token).map fun value =>
    reading.complete subject predicate (.uri value)

/-- The reading behind what separates a complete object from what follows. -/
def takeSeparator (reading : Reading) (subject predicate : String) (token : Token) :
    Except Error Reading :=
  if isMark token ',' then .ok { reading with expecting := .object subject predicate }
  else if isMark token ';' then .ok { reading with expecting := .continuation subject }
  else takePoint reading token

/-- The reading behind what follows a string. -/
def takeSuffix (reading : Reading) (subject predicate text : String) (token : Token) :
    Except Error Reading :=
  if token.kind = .language then
    .ok (reading.complete subject predicate
      (.tagged text (String.ofList ((token.text.drop 1).map Char.toLower))))
  else if token.kind = .datatypeMark then
    .ok { reading with expecting := .datatype subject predicate text }
  else takeSeparator (reading.complete subject predicate (.plain text)) subject predicate token

/-- The reading behind a semicolon and one more token. -/
def takeContinuation (reading : Reading) (subject : String) (token : Token) :
    Except Error Reading :=
  if isMark token ';' then .ok reading
  else if isMark token '.' then takePoint reading token
  else takePredicate reading subject token

/-- The reading behind one more token. -/
def step (reading : Reading) (token : Token) : Except Error Reading :=
  match reading.expecting with
  | .sentence => reading.beginSentence token
  | .namespaceName pointed => reading.takeNamespaceName pointed token
  | .namespaceIri pointed name => reading.takeNamespaceIri pointed name token
  | .declarationEnd => reading.takePoint token
  | .predicate subject => reading.takePredicate subject token
  | .object subject predicate => reading.takeObject subject predicate token
  | .suffix subject predicate text => reading.takeSuffix subject predicate text token
  | .datatype subject predicate text =>
    (resource reading.namespaces .datatype token).map fun datatype =>
      reading.complete subject predicate (.typed text datatype)
  | .separator subject predicate => reading.takeSeparator subject predicate token
  | .continuation subject => reading.takeContinuation subject token

/-- The part that is missing if the document ends here. -/
def missing? : Expecting → Option Part
  | .sentence => none
  | .namespaceName _ => some .namespaceName
  | .namespaceIri _ _ => some .namespaceIri
  | .declarationEnd => some .point
  | .predicate _ => some .predicate
  | .object _ _ => some .object
  | .suffix _ _ _ => some .point
  | .datatype _ _ _ => some .datatype
  | .separator _ _ => some .point
  | .continuation _ => some .predicate

/-- The namespaces and the statements of a reading that may end here. -/
def finish (reading : Reading) : Except Error (Namespaces × List Statement) :=
  match missing? reading.expecting with
  | some part => .error (.endOfDocument part)
  | none => .ok (reading.namespaces, reading.statements.reverse)

end Reading

/-- The namespaces that are declared at the end of a document, and its statements. Namespaces may
be known before its own declarations. -/
def read (known : Namespaces) (text : String) : Except Error (Namespaces × List Statement) := do
  let found ← tokens text.toList
  let reading ← found.foldlM Reading.step ⟨known, [], .sentence⟩
  reading.finish

/-- The statements of a document. -/
def parse (known : Namespaces) (text : String) : Except Error (List Statement) :=
  (read known text).map Prod.snd

end HistoricalFigures.Turtle
