import HistoricalFigures.Turtle.Reading

/-!
Reading a single triple. Free text sometimes holds quotes and backslashes that break the grammar;
such a triple is read a second way, where the object runs up to the last quote.

* `looseParts?`: a subject, a predicate and the text between the first and the last quote.
* `parseTriple`: the statements of a document, or else the one triple read the second way.
-/
namespace HistoricalFigures.Turtle

open Rdf (Namespaces Statement Term)

/-- The characters that neither stand in the subject nor in the predicate of a loose triple. -/
def isLooseStop (c : Char) : Bool := c = '<' || c = '>' || Unicode.isBlank c

/-- What stands between angle brackets at the start of a text, and what follows them. -/
def bracketed? : List Char → Option (List Char × List Char)
  | '<' :: rest =>
    let inner := rest.takeWhile fun c => !isLooseStop c
    match rest.drop inner.length with
    | '>' :: after => if inner = [] then none else some (inner, after)
    | _ => none
  | _ => none

/-- What follows the blanks at the start of a text, of which there is one at least. -/
def afterBlanks? (text : List Char) : Option (List Char) :=
  if text.head?.any Unicode.isBlank then some (Unicode.trimStart text) else none

/-- The predicate of a loose triple: a resource between angle brackets, or a name. -/
inductive LoosePredicate where
  | iri (value : List Char)
  | name (text : List Char)

/-- The predicate at the start of a text, and what follows it. -/
def loosePredicate? (text : List Char) : Option (LoosePredicate × List Char) :=
  match bracketed? text with
  | some (inner, after) => some (.iri inner, after)
  | none =>
    let name := text.takeWhile fun c => !(isLooseStop c || c = '\x22')
    if name = [] then none else some (.name name, text.drop name.length)

/-- What stands before the last quote of a text, and what follows it. -/
def splitLastQuote? (text : List Char) : Option (List Char × List Char) :=
  let tail := (text.reverse.takeWhile (· ≠ '\x22')).reverse
  let upToQuote := text.take (text.length - tail.length)
  if upToQuote = [] then none else some (upToQuote.dropLast, tail)

/-- The parts of a loose triple: a subject, a predicate and the text between the first and the last
quote, with nothing but a point and blanks behind it. -/
def looseParts? (text : List Char) : Option (List Char × LoosePredicate × List Char) := do
  let (subject, afterSubject) ← bracketed? (Unicode.trimStart text)
  let (predicate, afterPredicate) ← loosePredicate? (← afterBlanks? afterSubject)
  match ← afterBlanks? afterPredicate with
  | '\x22' :: quoted =>
    let (object, tail) ← splitLastQuote? quoted
    if Unicode.trim tail = [] ∨ Unicode.trim tail = ['.'] then
      some (subject, predicate, object)
    else none
  | _ => none

/-- The resource that the predicate of a loose triple stands for. -/
def LoosePredicate.resource? (known : Namespaces) : LoosePredicate → Option String
  | .iri value => some (String.ofList value)
  | .name text =>
    if text = ['a'] then some Rdf.typePredicate
    else
      let name := text.takeWhile (· ≠ ':')
      if name.length = text.length then none
      else (known.get? (String.ofList name)).map fun base =>
        base ++ String.ofList (text.drop (name.length + 1))

/-- The subject, the predicate and the raw text of the object of a loose triple. -/
def looseTriple? (known : Namespaces) (text : String) : Option (String × String × List Char) := do
  let (subject, predicate, object) ← looseParts? text.toList
  some (String.ofList subject, ← predicate.resource? known, object)

/-- The statements of a document. If it does not fit the grammar but is a loose triple, the
statement of that triple: its object is a plain literal, where unknown escapes stay as they are. -/
def parseTriple (known : Namespaces) (text : String) : Except Error (List Statement) :=
  match parse known text with
  | .ok statements => .ok statements
  | .error cause =>
    if cause.isGrammar then
      match looseTriple? known text with
      | some (subject, predicate, object) =>
        (unescape .kept object).map fun value =>
          [⟨subject, predicate, .plain (String.ofList value)⟩]
      | none => .error cause
    else .error cause

end HistoricalFigures.Turtle
