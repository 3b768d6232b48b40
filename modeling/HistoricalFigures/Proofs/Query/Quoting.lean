import HistoricalFigures.Proofs.Query.Searching
import HistoricalFigures.Proofs.Query.Splitting

/-!
**An escaped text between quotes is one string for all who read it**, whatever the text is and whatever
follows but a quote: for the reader of documents, for the search for strings among arguments, for the
search for the parenthesis that closes them and for the cutting of a block. What stands between the
quotes stands for the text on one line.

* `TakesWhole`: a scanner is between quotes from the first character of a text to the last one.
* `IsQuoteScanner`, `IsQuoteScanner.takesWhole`: the scanners that know double quotes and backslashes
  take a written string whole.
* `isQuoteScanner_step`, `isQuoteScanner_next`: the two scanners.
* `IsOneString`: the four readers end a string at the same quote.
* `isOneString_escapeLiteral`: they do so for escaped texts, and both ways to undo the escapes agree.
-/
namespace HistoricalFigures.Query

open Turtle (formatStringChar IsLexeme)

/-! ### Scanners that know quotes -/

section Scanner

variable {σ : Type} {next : σ → Char → σ} {outside inside behind : σ}

/-- A scanner takes a text for one string: it lies within quotes behind each start of the text, and
outside of them behind the whole text alone. -/
def TakesWhole (next : σ → Char → σ) (outside : σ) (within : σ → Prop) (text : List Char) : Prop :=
  (∀ front, front <+: text → front ≠ [] → front ≠ text → within (front.foldl next outside)) ∧
    text.foldl next outside = outside

/-- A scanner that is opened and closed by double quotes and passes over what stands behind a
backslash. -/
structure IsQuoteScanner (next : σ → Char → σ) (outside inside behind : σ) : Prop where
  opens : next outside '\x22' = inside
  closes : next inside '\x22' = outside
  escapes : next inside '\\' = behind
  stays : ∀ c, c ≠ '\\' → c ≠ '\x22' → next inside c = inside
  returns : ∀ c, next behind c = inside

variable (scanner : IsQuoteScanner next outside inside behind)
include scanner

/-- **The scanner stays between the quotes** in what is written there. -/
theorem IsQuoteScanner.foldl_eq (text : List Char) :
    (text.flatMap formatStringChar).foldl next inside = inside := by
  induction text with
  | nil => rfl
  | cons c later found =>
    rw [List.flatMap_cons, List.foldl_append]
    rcases Turtle.formatStringChar_cases c with ⟨written, backslash, quote, _⟩ | ⟨letter, written, _⟩
    · rw [written, List.foldl_cons, List.foldl_nil, scanner.stays c backslash quote, found]
    · rw [written, List.foldl_cons, List.foldl_cons, List.foldl_nil, scanner.escapes, scanner.returns,
        found]

/-- Behind each start of it the scanner is between the quotes, too, or behind a backslash there. -/
theorem IsQuoteScanner.foldl_prefix {text front : List Char}
    (starts : front <+: text.flatMap formatStringChar) :
    front.foldl next inside = inside ∨ front.foldl next inside = behind := by
  induction text generalizing front with
  | nil =>
    rw [List.prefix_nil.mp starts]
    exact .inl rfl
  | cons c later found =>
    rw [List.flatMap_cons] at starts
    cases front with
    | nil => exact .inl rfl
    | cons d front =>
      rcases Turtle.formatStringChar_cases c with ⟨written, backslash, quote, _⟩ | ⟨letter, written, _⟩
      · rw [written, List.singleton_append, List.cons_prefix_cons] at starts
        obtain ⟨rfl, starts⟩ := starts
        rw [List.foldl_cons, scanner.stays d backslash quote]
        exact found starts
      · rw [written, List.cons_append, List.singleton_append, List.cons_prefix_cons] at starts
        obtain ⟨rfl, starts⟩ := starts
        rw [List.foldl_cons, scanner.escapes]
        cases front with
        | nil => exact .inr rfl
        | cons d front =>
          rw [List.foldl_cons, scanner.returns]
          exact found (List.cons_prefix_cons.mp starts).2

/-- **A written string is taken whole.** -/
theorem IsQuoteScanner.takesWhole (text : List Char) :
    TakesWhole next outside (fun state => state = inside ∨ state = behind)
      ('\x22' :: text.flatMap formatStringChar ++ ['\x22']) := by
  constructor
  · intro front starts nonempty proper
    cases front with
    | nil => exact absurd rfl nonempty
    | cons c front =>
      rw [List.cons_append, List.cons_prefix_cons] at starts
      obtain ⟨rfl, starts⟩ := starts
      rw [List.foldl_cons, scanner.opens]
      rcases List.prefix_concat_iff.mp starts with rfl | inner
      · exact absurd rfl proper
      · exact scanner.foldl_prefix inner
  · rw [List.cons_append, List.foldl_cons, scanner.opens, List.foldl_append, scanner.foldl_eq,
      List.foldl_cons, scanner.closes, List.foldl_nil]

end Scanner

/-! ### The two scanners -/

/-- The place among arguments behind a character and the number of parentheses that are open there,
unless the outermost one has been closed. -/
def stepOn (state : Option (ArgumentPlace × Nat)) (c : Char) : Option (ArgumentPlace × Nat) :=
  state.bind fun (place, depth) => place.step depth c

theorem foldl_stepOn_none (text : List Char) : text.foldl stepOn none = none := by
  induction text with
  | nil => rfl
  | cons c later found => exact found

theorem passed_eq_foldl (place : ArgumentPlace) (depth : Nat) (text : List Char) :
    passed place depth text = text.foldl stepOn (some (place, depth)) := by
  induction text generalizing place depth with
  | nil => rfl
  | cons c later found =>
    have here : stepOn (some (place, depth)) c = place.step depth c := rfl
    rw [passed, List.foldl_cons, here]
    cases place.step depth c with
    | none => exact (foldl_stepOn_none later).symm
    | some state => exact found state.1 state.2

/-- **The search for a closing parenthesis** knows double quotes and backslashes. -/
theorem isQuoteScanner_stepOn (depth : Nat) :
    IsQuoteScanner stepOn (some (.outside, depth)) (some (.insideString, depth))
      (some (.behindBackslash, depth)) where
  opens := rfl
  closes := rfl
  escapes := rfl
  stays c backslash quote := by
    rw [stepOn, Option.bind_some]
    dsimp only
    rw [ArgumentPlace.step, if_neg backslash, if_neg quote]
  returns _ := rfl

/-- **The cutting of a block** knows them, too. -/
theorem isQuoteScanner_next :
    IsQuoteScanner Place.next .outside (.insideQuotes '\x22') (.behindBackslash '\x22') where
  opens := by decide
  closes := by decide
  escapes := by decide
  stays c backslash quote := by rw [Place.next, if_neg backslash, if_neg quote]
  returns _ := rfl

/-! ### The four readers -/

/-- A text between double quotes. -/
def quoted (inner : List Char) : List Char := '\x22' :: inner ++ ['\x22']

/-- **The readers of strings agree** that a text between quotes is one string in front of what follows
it. -/
structure IsOneString (inner rest : List Char) : Prop where
  /-- It is the first token. -/
  lexeme : IsLexeme .string (quoted inner) rest
  /-- It is a token of a document that begins with it, and the rest has the other tokens. -/
  tokens : Turtle.tokens (quoted inner ++ rest) =
    (Turtle.tokens rest).map (⟨.string, quoted inner, 1⟩ :: ·)
  /-- It is found at the start, with what stands between its quotes. -/
  found : ∀ before, quotedText before (quoted inner ++ rest) = some (inner, inner.length + 1)
  /-- Among arguments it is passed over, whatever parentheses are open. -/
  argument : ∀ depth, TakesWhole stepOn (some (.outside, depth))
      (fun state => state = some (.insideString, depth) ∨ state = some (.behindBackslash, depth))
      (quoted inner) ∧
    balancedArgsFrom .outside depth (quoted inner ++ rest) =
      quoted inner ++ balancedArgsFrom .outside depth rest
  /-- It is not cut. -/
  uncut : TakesWhole Place.next .outside
      (fun place => place = .insideQuotes '\x22' ∨ place = .behindBackslash '\x22') (quoted inner) ∧
    stretchesFrom .outside (quoted inner ++ rest) =
      (stretchesFrom .outside rest).modifyHead (quoted inner ++ ·)

/-- A written string has no line breaks. -/
theorem not_mem_quoted (text : List Char) : '\n' ∉ quoted (text.flatMap formatStringChar) := by
  have inside : '\n' ∉ text.flatMap formatStringChar := fun member =>
    (Turtle.forall_mem_formatStringChars _ member).1 rfl
  simp [quoted, inside]

/-- **What is written between quotes is one string for each reader.** -/
theorem isOneString_formatString (value : String) {rest : List Char}
    (next : rest.head? ≠ some '\x22') : IsOneString (value.toList.flatMap formatStringChar) rest where
  lexeme := Turtle.isLexeme_string value.toList next
  tokens := by
    have isLexeme : IsLexeme .string (quoted (value.toList.flatMap formatStringChar)) rest :=
      Turtle.isLexeme_string value.toList next
    rw [Turtle.tokens, Turtle.tokensFrom_lexeme isLexeme, Turtle.lineBehind_eq_self (not_mem_quoted _)]
    rfl
  found before := by
    rw [quoted, List.cons_append, List.cons_append, List.append_assoc, List.singleton_append]
    simp only [quotedText, upToQuote?_formatStringChars, Option.map_some]
  argument depth := by
    have takes := (isQuoteScanner_stepOn depth).takesWhole value.toList
    exact ⟨takes, balancedArgsFrom_append ((passed_eq_foldl _ _ _).trans takes.2) rest⟩
  uncut := ⟨isQuoteScanner_next.takesWhole value.toList, Passes.formatString value rest⟩

/-- **An escaped text between quotes is one string for each reader**, and what stands between the
quotes is the text on one line: for the reader of documents, which refuses escapes that it does not
know, and for the search, which drops the backslashes. -/
theorem isOneString_escapeLiteral (text : String) {rest : List Char}
    (next : rest.head? ≠ some '\x22') :
    IsOneString (Literal.escapeLiteral text).toList rest ∧
      Turtle.unescape .refused (Literal.escapeLiteral text).toList =
        .ok (Literal.unbroken text).toList ∧
      dropBackslashes (Literal.escapeLiteral text).toList = (Literal.unbroken text).toList := by
  rw [Literal.toList_escapeLiteral]
  exact ⟨isOneString_formatString _ next, Turtle.unescape_formatStringChars .refused _,
    dropBackslashes_formatStringChars Literal.plain_of_mem_unbroken⟩

/-- Of a text with a backslash, a quote and a line break. -/
theorem isOneString_of_quotedSlash : (") . <a>".toList).head? ≠ some '\x22' ∧
    IsOneString (Literal.escapeLiteral "a\\\x22\r\nb").toList ") . <a>".toList ∧
      Turtle.unescape .refused (Literal.escapeLiteral "a\\\x22\r\nb").toList =
        .ok ['a', '\\', '\x22', ' ', 'b'] ∧
      dropBackslashes (Literal.escapeLiteral "a\\\x22\r\nb").toList = ['a', '\\', '\x22', ' ', 'b'] := by
  have next : (") . <a>".toList).head? ≠ some '\x22' := by decide
  have unbroken : (Literal.unbroken "a\\\x22\r\nb").toList = ['a', '\\', '\x22', ' ', 'b'] := by decide
  exact ⟨next, unbroken ▸ isOneString_escapeLiteral "a\\\x22\r\nb" next⟩

end HistoricalFigures.Query
