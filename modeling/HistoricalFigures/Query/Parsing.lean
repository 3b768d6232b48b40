import HistoricalFigures.Query.Basic
import HistoricalFigures.Query.Searching
import HistoricalFigures.Query.Triples

/-!
Reading queries.

* `declaredNamespaces`: the namespaces that a query declares anywhere in its text.
* `parse`: the query that a text writes.
-/
namespace HistoricalFigures.Query

open Rdf (Namespaces)

/-! ### Namespaces -/

/-- The characters of the name of a namespace behind its first letter. -/
def isNamespaceChar (c : Char) : Bool := Unicode.isWord c || c = '-' || c = '.'

/-- The name of a namespace and its colon at the start of a text; what follows them comes with the
name, which may be empty. -/
def namespaceName? (text : List Char) : Option (List Char × List Char) :=
  let name := match text with
    | c :: rest => if Text.isLatinLetter c then c :: rest.takeWhile isNamespaceChar else []
    | [] => []
  match text.drop name.length with
  | ':' :: rest => some (name, rest)
  | _ => none

/-- What stands up to the next `mark`, and what follows the mark. -/
def upToMark? (mark : Char) (text : List Char) : Option (List Char × List Char) :=
  let inner := text.takeWhile (· ≠ mark)
  match text.drop inner.length with
  | _ :: rest => some (inner, rest)
  | [] => none

/-- The declaration of a namespace: its name and the namespace. -/
def declaration : Text.Finder (String × String) := fun _ text => do
  let (name, rest) ← namespaceName? (← afterBlanks? (← Text.dropWord? "prefix".toList text))
  match Unicode.trimStart rest with
  | '<' :: rest =>
    let (base, rest) ← upToMark? '>' rest
    some (Text.endingAt text rest (String.ofList name, String.ofList base))
  | _ => none

/-- The default namespaces with those that a text declares. -/
def declaredNamespaces (text : List Char) : Namespaces :=
  Rdf.defaultNamespaces.putAll (Text.findAll declaration text)

/-! ### Blocks -/

/-- Two words in any case with blanks between them, then perhaps blanks and an opening brace; what
follows it is found. -/
def blockOf (first second : String) : Text.Finder (List Char) := fun _ text => do
  let rest ← afterBlanks? (← Text.dropWord? first.toList text)
  match Unicode.trimStart (← Text.dropWord? second.toList rest) with
  | '\x7b' :: rest => some (Text.endingAt text rest rest)
  | _ => none

/-- What stands up to the last closing brace. -/
def upToLastBrace? (text : List Char) : Option (List Char) :=
  let upTo := (text.reverse.dropWhile (· ≠ '\x7d')).reverse
  if upTo = [] then none else some upTo.dropLast

/-- The block of an insertion: it runs up to the last closing brace. -/
def insertBlock? (text : List Char) : Option (List Char) :=
  (Text.findFirst (blockOf "insert" "data") text).bind upToLastBrace?

/-- The block of a deletion: it runs up to the first closing brace. -/
def deleteBlock? (text : List Char) : Option (List Char) :=
  (Text.findFirst (blockOf "delete" "where") text).bind fun rest =>
    (upToMark? '\x7d' rest).map Prod.fst

/-! ### Deletions -/

/-- What stands up to the next double quote, its quote included; behind a backslash a line feed
ends the search without success. -/
def quotedTerm? : List Char → Option (List Char)
  | [] => none
  | '\\' :: c :: rest =>
    if c = '\n' then none else (quotedTerm? rest).map fun text => '\\' :: c :: text
  | c :: rest =>
    if c = '\x22' then some [c]
    else if c = '\\' then none
    else (quotedTerm? rest).map (c :: ·)

/-- A term of a pattern: what stands between angle brackets or double quotes, with them, or else
everything up to the next blank. -/
def patternTerm : Text.Finder (List Char) := fun _ text =>
  match text with
  | [] => none
  | c :: rest =>
    let run := c :: rest.takeWhile fun d => !Unicode.isBlank d
    let term :=
      if Unicode.isBlank c then none
      else if c = '<' then some (((upToMark? '>' rest).map fun (inner, _) =>
        c :: inner ++ ['>']).getD run)
      else if c = '\x22' then some (((quotedTerm? rest).map (c :: ·)).getD run)
      else some run
    term.map fun term => (term, term.length - 1)

/-- What a term of a deletion stands for; a variable stands for nothing in particular. -/
def patternPart (namespaces : Namespaces) (term : List Char) : Except Error (Option String) :=
  let inner := String.ofList (term.drop 1).dropLast
  let name := term.takeWhile (· ≠ ':')
  if term.head? = some '?' ∨ term.head? = some '$' then .ok none
  else if term.head? = some '<' ∧ term.getLast? = some '>' then .ok (some inner)
  else if term.head? = some '\x22' then .ok (some inner)
  else if term = ['a'] then .ok (some Rdf.typePredicate)
  else
    match if name = term then none else namespaces.get? (String.ofList name) with
    | some base => .ok (some (base ++ String.ofList (term.drop (name.length + 1))))
    | none => .error (.unsupported (.unknownTerm (String.ofList term)))

/-- The pattern of the block of a deletion. -/
def deletePattern (namespaces : Namespaces) (block : List Char) : Except Error Body :=
  let text := Unicode.trim (Unicode.dropEndWhile (· = '.') (Unicode.trim block))
  match Text.findAll patternTerm text with
  | [first, second, third] => do
    let subject ← patternPart namespaces first
    let predicate ← patternPart namespaces second
    let object ← patternPart namespaces third
    .ok (.delete subject predicate object)
  | _ => .error (.unsupported .severalPatterns)

/-! ### Selections -/

/-- The word `SELECT` in any case, on its own; what follows it is found. -/
def selectWord : Text.Finder (List Char) := fun before text => do
  let rest ← Text.dropWord? "select".toList text
  if Text.isWordEdge before text && !rest.head?.any Unicode.isWord then
    some (Text.endingAt text rest rest)
  else none

/-- The word `WHERE` in any case at the edge of a word, then an opening brace. -/
def whereWord : Text.Finder Unit := fun before text => do
  let rest ← Text.dropWord? "where".toList text
  if Text.isWordEdge before text && (Unicode.trimStart rest).head? = some '\x7b' then
    some (Text.endingAt text rest ())
  else none

/-- What stands between the words `SELECT` and `WHERE`. -/
def projection? (text : List Char) : Option (List Char) :=
  (Text.findFirst selectWord text).bind fun rest =>
    (Text.splitFirstFrom whereWord (some 't') rest).map Prod.fst

/-- The name of a variable behind its mark. -/
def variableName : Text.Finder String := fun _ text =>
  match text with
  | c :: rest =>
    let name := rest.takeWhile Unicode.isWord
    if (c = '?' ∨ c = '$') ∧ name ≠ [] then some (String.ofList name, name.length) else none
  | [] => none

/-- The variables of a selection that names none. -/
def defaultVariables : List String := ["nombre", "descripcion"]

/-- The variables of a selection. -/
def projectedVariables (text : List Char) : List String :=
  let named := (Text.findAll variableName text).eraseDups
  if named = [] then defaultVariables else named

/-- What follows blanks and a word in any case, with its mark before it. -/
def afterVariable? (name : String) (text : List Char) : Option (List Char) := do
  match ← afterBlanks? text with
  | '?' :: rest => Text.dropWord? name.toList rest
  | _ => none

/-- The subject of a selection that lists the predicates and values of a resource. -/
def describedSubject : Text.Finder String := fun _ text =>
  match text with
  | '<' :: rest => do
    let (subject, rest) ← upToMark? '>' rest
    let rest ← afterVariable? "valor" (← afterVariable? "predicado" rest)
    if subject = [] then none else some (Text.endingAt text rest (String.ofList subject))
  | _ => none

/-- The selection that a text writes. -/
def parseSelect (text : List Char) : Except Error Body :=
  match projection? text with
  | none => .error .invalidSelect
  | some projection =>
    .ok (.select (projectedVariables projection)
      (Literal.searchForm (String.ofList (rawTerm text))) (Text.findFirst describedSubject text))

/-! ### Queries -/

/-- The body of a query of a kind. -/
def parseBody (kind : Kind) (namespaces : Namespaces) (text : List Char) : Except Error Body :=
  match kind with
  | .insert =>
    match insertBlock? text with
    | some block => .ok (.insert (splitTriples (String.ofList block)))
    | none => .error (.triple (String.ofList text) .noBlock)
  | .delete =>
    match deleteBlock? text with
    | some block => deletePattern namespaces block
    | none => .error (.unsupported .deleteBlock)
  | .select => parseSelect text

/-- The query that a text writes. -/
def parse (text : String) : Except Error Query := do
  let kind ← classify text
  let trimmed := Unicode.trim text.toList
  let namespaces := declaredNamespaces trimmed
  let body ← parseBody kind namespaces trimmed
  .ok ⟨namespaces, body⟩

end HistoricalFigures.Query
