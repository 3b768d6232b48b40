import HistoricalFigures.Rdf.Term
import HistoricalFigures.Rdf.Vocabulary
import HistoricalFigures.Turtle.Token

/-!
Writing statements as a document: the declarations of the namespaces, an empty line, then one
statement on each line.

* `formatIri`: a resource by a name in a namespace if there is one, otherwise between angle
  brackets.
* `formatTerm`: an object.
* `serialize`: the document of statements.
-/
namespace HistoricalFigures.Turtle

open Rdf (Namespaces Statement Term)

/-- The letters that a name behind the colon may begin with. -/
def isSafeStart (c : Char) : Bool := c.isAlpha || c = '_'

/-- Whether a text may stand behind the colon of a name. -/
def isSafeLocal : List Char → Bool
  | [] => false
  | c :: rest => isSafeStart c && rest.all fun d => d.isAlphanum || d = '_' || d = '-'

/-- The name of a resource in a namespace. -/
def abbreviate? (iri : List Char) (name : String × String) : Option (List Char) :=
  let base := name.2.toList
  if base.isPrefixOf iri && isSafeLocal (iri.drop base.length) then
    some (name.1.toList ++ ':' :: iri.drop base.length)
  else none

/-- A character between angle brackets. -/
def formatIriChar (c : Char) : List Char :=
  if isIriChar c then [c] else '\\' :: 'u' :: Number.hexCapitals 4 c.toNat

/-- A resource: a name in the first namespace that offers one, otherwise the resource between angle
brackets. -/
def formatIri (namespaces : Namespaces) (iri : String) : List Char :=
  match namespaces.findSome? (abbreviate? iri.toList) with
  | some name => name
  | none => '<' :: iri.toList.flatMap formatIriChar ++ ['>']

/-- A character between quotes. -/
def formatStringChar (c : Char) : List Char :=
  if c = '\\' then ['\\', '\\']
  else if c = '\x22' then ['\\', '\x22']
  else if c = '\n' then ['\\', 'n']
  else if c = '\r' then ['\\', 'r']
  else if c = '\t' then ['\\', 't']
  else [c]

/-- A text between quotes. -/
def formatString (text : String) : List Char :=
  '\x22' :: text.toList.flatMap formatStringChar ++ ['\x22']

/-- A literal with its language, or else with its datatype; empty ones are left out. -/
def formatLiteral (namespaces : Namespaces) (term : Term) : List Char :=
  let language := term.language.getD ""
  let datatype := term.datatype.getD ""
  formatString term.value ++
    if language ≠ "" then '@' :: language.toList
    else if datatype ≠ "" then '^' :: '^' :: formatIri namespaces datatype
    else []

/-- An object. -/
def formatTerm (namespaces : Namespaces) (term : Term) : List Char :=
  if term.kind = .uri then formatIri namespaces term.value else formatLiteral namespaces term

/-- The line of a statement. -/
def formatStatement (namespaces : Namespaces) (statement : Statement) : List Char :=
  formatIri namespaces statement.subject ++ ' ' :: formatIri namespaces statement.predicate ++
    ' ' :: formatTerm namespaces statement.object ++ [' ', '.', '\n']

/-- The line that declares a namespace. -/
def formatDeclaration (name : String × String) : List Char :=
  "@prefix ".toList ++ name.1.toList ++ ": <".toList ++ name.2.toList ++ "> .\n".toList

/-- The document of statements. -/
def serialize (namespaces : Namespaces) (statements : List Statement) : String :=
  String.ofList (namespaces.flatMap formatDeclaration ++
    '\n' :: statements.flatMap (formatStatement namespaces))

/-- The document without statements. -/
def emptyDocument : String := serialize Rdf.defaultNamespaces []

end HistoricalFigures.Turtle
