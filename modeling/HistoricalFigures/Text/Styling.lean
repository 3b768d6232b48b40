/-!
Control sequences of terminals: an escape character, an opening bracket, parameters, intermediate
characters, and a final one.

* `Text.unstyled`: a text without its control sequences.
-/
namespace HistoricalFigures.Text

/-- The character that begins a control sequence. -/
def escape : Char := '\x1b'

/-- The characters of the parameters of a control sequence. -/
def isParameter (c : Char) : Bool := '0' ≤ c && c ≤ '?'

/-- The characters between the parameters of a control sequence and its last character. -/
def isIntermediate (c : Char) : Bool := ' ' ≤ c && c ≤ '/'

/-- The characters that end a control sequence. -/
def isFinal (c : Char) : Bool := '@' ≤ c && c ≤ '~'

/-- The number of characters behind the escape character of a control sequence; none where the text
does not go on as one. -/
def controlExtent : List Char → Nat
  | '[' :: rest =>
    let parameters := rest.takeWhile isParameter
    let behind := rest.drop parameters.length
    let intermediates := behind.takeWhile isIntermediate
    if (behind.drop intermediates.length).head?.any isFinal then
      parameters.length + intermediates.length + 2
    else 0
  | _ => 0

/-- The characters outside control sequences, where the next `skipped` characters belong to one. -/
def unstyledFrom : Nat → List Char → List Char
  | _, [] => []
  | skipped + 1, _ :: rest => unstyledFrom skipped rest
  | 0, c :: rest =>
    let extent := if c = escape then controlExtent rest else 0
    if 0 < extent then unstyledFrom extent rest else c :: unstyledFrom 0 rest

/-- A text without its control sequences. -/
def unstyled (text : String) : String := String.ofList (unstyledFrom 0 text.toList)

end HistoricalFigures.Text
