import HistoricalFigures.Number.Hex
import HistoricalFigures.Turtle.Error
import HistoricalFigures.Unicode.Blank
import HistoricalFigures.Unicode.Digit
import HistoricalFigures.Unicode.Word

/-!
The tokens of a document. The first character of a token decides what it is, and every token takes
as many characters as it can.

* `extent?`: the kind of the token at a place and how far it reaches.
* `tokens`: the tokens of a document, white space and comments left out.
-/
namespace HistoricalFigures.Turtle

/-- The kinds of tokens. -/
inductive TokenKind where
  /-- The name of a resource between angle brackets. -/
  | iri
  /-- A string between triple quotes. -/
  | longString
  /-- A string between single or double quotes. -/
  | string
  /-- A declaration that begins with an at sign. -/
  | directive
  /-- A language behind an at sign. -/
  | language
  /-- Two carets. -/
  | datatypeMark
  /-- A number. -/
  | number
  /-- A name in a namespace. -/
  | name
  /-- A blank node, or a bracket. -/
  | blankNode
  /-- A word. -/
  | word
  /-- A point, a comma or a semicolon. -/
  | punctuation
  deriving DecidableEq

/-- A token with the line that it begins on. -/
structure Token where
  kind : TokenKind
  text : List Char
  line : Nat
  deriving DecidableEq

/-! ### Characters -/

/-- The characters that stand for themselves between angle brackets. -/
def isIriChar (c : Char) : Bool :=
  !(c = '<' || c = '>' || c = '\x22' || c = '\x7b' || c = '\x7d' || c = '|' || c = '^' ||
    c = '\x60' || c = '\\' || Unicode.isBlank c)

/-- The characters of the name of a namespace behind its first letter. -/
def isNameChar (c : Char) : Bool := Unicode.isWord c || c = '-'

/-- The characters of a name behind the colon. -/
def isLocalChar (c : Char) : Bool := isNameChar c || c = '%' || c = ':'

/-! ### How far the tokens reach -/

/-- The number of characters of an escape behind its backslash, between angle brackets. -/
def codeExtent? : List Char → Option Nat
  | 'u' :: rest => (Number.readHex? 4 rest).map fun _ => 5
  | 'U' :: rest => (Number.readHex? 8 rest).map fun _ => 9
  | _ => none

/-- The number of characters up to the closing angle bracket, where the next `skipped` characters
belong to an escape. -/
def iriExtent? : Nat → List Char → Option Nat
  | _, [] => none
  | skipped + 1, _ :: rest => (iriExtent? skipped rest).map (· + 1)
  | 0, c :: rest =>
    if c = '>' then some 1
    else if c = '\\' then
      (codeExtent? rest).bind fun extent => (iriExtent? extent rest).map (· + 1)
    else if isIriChar c then (iriExtent? 0 rest).map (· + 1)
    else none

/-- The number of characters up to three closing quotes; a character behind a backslash is
skipped. -/
def longExtent? (quote : Char) : Nat → List Char → Option Nat
  | _, [] => none
  | skipped + 1, _ :: rest => (longExtent? quote skipped rest).map (· + 1)
  | 0, c :: rest =>
    if c = '\\' then (longExtent? quote 1 rest).map (· + 1)
    else if c = quote ∧ rest.take 2 = [quote, quote] then some 3
    else (longExtent? quote 0 rest).map (· + 1)

/-- The number of characters up to the closing quote, on the same line; a character behind a
backslash is skipped. -/
def shortExtent? (quote : Char) : Nat → List Char → Option Nat
  | _, [] => none
  | skipped + 1, _ :: rest => (shortExtent? quote skipped rest).map (· + 1)
  | 0, c :: rest =>
    if c = '\\' then (shortExtent? quote 1 rest).map (· + 1)
    else if c = quote then some 1
    else if c = '\n' ∨ c = '\r' then none
    else (shortExtent? quote 0 rest).map (· + 1)

/-- A string behind its first quote: a long one if it begins with three quotes and is closed,
otherwise a short one. -/
def stringExtent? (quote : Char) (rest : List Char) : Option (TokenKind × Nat) :=
  let long := if rest.take 2 = [quote, quote] then longExtent? quote 0 (rest.drop 2) else none
  match long with
  | some extent => some (.longString, extent + 2)
  | none => (shortExtent? quote 0 rest).map fun extent => (.string, extent)

/-- The number of letters, digits and hyphens of the later parts of a language; a hyphen belongs to
it if a letter or digit follows. -/
def subtagExtent : List Char → Nat
  | [] => 0
  | c :: rest =>
    if c.isAlphanum || (c = '-' && rest.head?.any Char.isAlphanum) then subtagExtent rest + 1 else 0

/-- The number of characters of a language: letters, then parts behind hyphens. -/
def languageExtent (text : List Char) : Nat :=
  let letters := (text.takeWhile Char.isAlpha).length
  let rest := text.drop letters
  if letters = 0 then 0
  else letters + if rest.head? = some '-' then subtagExtent rest else 0

/-- The words of directives. -/
def directiveWords : List (List Char) := ["prefix".toList, "base".toList]

/-- A token behind an at sign: a directive where its whole word stands, otherwise a language. -/
def atExtent? (rest : List Char) : Option (TokenKind × Nat) :=
  let directive := directiveWords.find? fun word =>
    word.isPrefixOf rest && !(rest.drop word.length).head?.any Unicode.isWord
  match directive with
  | some word => some (.directive, word.length)
  | none =>
    let extent := languageExtent rest
    if extent = 0 then none else some (.language, extent)

/-- The number of characters of an exponent: the letter e, perhaps a sign, and digits. -/
def exponentExtent : List Char → Nat
  | [] => 0
  | c :: rest =>
    let sign := if rest.head? = some '+' ∨ rest.head? = some '-' then 1 else 0
    let digits := (rest.drop sign).takeWhile Unicode.isDigit
    if (c = 'e' ∨ c = 'E') ∧ digits ≠ [] then 1 + sign + digits.length else 0

/-- The number of characters of a fraction: a point and digits. -/
def fractionExtent : List Char → Nat
  | '.' :: rest =>
    let digits := rest.takeWhile Unicode.isDigit
    if digits = [] then 0 else digits.length + 1
  | _ => 0

/-- The number of characters of a number without its sign. -/
def numberExtent (text : List Char) : Nat :=
  let whole := (text.takeWhile Unicode.isDigit).length
  let fraction := fractionExtent (text.drop whole)
  if whole = 0 then 0 else whole + fraction + exponentExtent (text.drop (whole + fraction))

/-- The number of characters of a class; a point counts where one of them follows. -/
def dottedExtent (p : Char → Bool) : List Char → Nat
  | [] => 0
  | c :: rest => if p c || (c = '.' && rest.head?.any p) then dottedExtent p rest + 1 else 0

/-- The number of characters of a name behind its colon. -/
def localExtent (text : List Char) : Nat :=
  if text.head?.any isLocalChar then dottedExtent isLocalChar text else 0

/-- A token that begins with a letter: a name if a colon follows what may name a namespace,
otherwise a word. -/
def letterExtent (rest : List Char) : TokenKind × Nat :=
  let namespaceLength := dottedExtent isNameChar rest
  match rest.drop namespaceLength with
  | ':' :: after => (.name, namespaceLength + 1 + localExtent after)
  | _ => (.word, (rest.takeWhile isNameChar).length)

/-- The token that begins with a character: its kind, where white space and comments have none, and
the number of characters that it takes beyond the first. -/
def extent? (c : Char) (rest : List Char) : Option (Option TokenKind × Nat) :=
  if Unicode.isBlank c then some (none, 0)
  else if c = '#' then some (none, (rest.takeWhile fun d => d ≠ '\r' ∧ d ≠ '\n').length)
  else if c = '<' then (iriExtent? 0 rest).map fun extent => (some .iri, extent)
  else if c = '\x22' ∨ c = '\x27' then
    (stringExtent? c rest).map fun (kind, extent) => (some kind, extent)
  else if c = '@' then (atExtent? rest).map fun (kind, extent) => (some kind, extent)
  else if c = '^' then if rest.head? = some '^' then some (some .datatypeMark, 1) else none
  else if c = '+' ∨ c = '-' then
    let extent := numberExtent rest
    if extent = 0 then none else some (some .number, extent)
  else if Unicode.isDigit c then some (some .number, numberExtent (c :: rest) - 1)
  else if c = ':' then some (some .name, localExtent rest)
  else if c.isAlpha then
    let (kind, extent) := letterExtent rest
    some (some kind, extent)
  else if c = '_' then
    if rest.head? = some ':' then
      some (some .blankNode, 1 + ((rest.drop 1).takeWhile isNameChar).length)
    else none
  else if c = '[' ∨ c = ']' ∨ c = '(' ∨ c = ')' then some (some .blankNode, 0)
  else if c = '.' ∨ c = ';' ∨ c = ',' then some (some .punctuation, 0)
  else none

/-! ### The tokens of a document -/

/-- The line behind a character. -/
def lineAfter (line : Nat) (c : Char) : Nat := if c = '\n' then line + 1 else line

/-- The tokens from a place on, where the next `skipped` characters belong to an earlier token. -/
def tokensFrom : Nat → Nat → List Char → Except Error (List Token)
  | _, _, [] => .ok []
  | line, skipped + 1, c :: rest => tokensFrom (lineAfter line c) skipped rest
  | line, 0, c :: rest =>
    match extent? c rest with
    | none => .error (.noToken line (Unicode.firstLine ((c :: rest).take 20)))
    | some (none, extent) => tokensFrom (lineAfter line c) extent rest
    | some (some kind, extent) =>
      (tokensFrom (lineAfter line c) extent rest).map (⟨kind, c :: rest.take extent, line⟩ :: ·)

/-- The tokens of a document. -/
def tokens (text : List Char) : Except Error (List Token) := tokensFrom 1 0 text

end HistoricalFigures.Turtle
