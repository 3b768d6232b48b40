import HistoricalFigures.Proofs.Query.Searching
import HistoricalFigures.Query.Parsing

/-!
**How a selection is read.** Its words are found behind whatever mentions neither of them, and what
stands between them names its variables.

* `selectWord_append`, `whereWord_append`: the two words are found.
* `projection?_append`: what stands between them.
* `containsTest`: a test whether something contains a text that is written between quotes.
* `filterTerm?_containsTest`: a filter with such a test searches for that text.
* `rawTerm_append`: a selection with such a filter does, its backslashes removed.
* `parse_of_projection`: the query that a selection writes.
-/
namespace HistoricalFigures.Query

open Text (lacksWord)
open Turtle (formatStringChar)

/-! ### Words -/

theorem needsWord_selectWord : Text.NeedsWord selectWord "select".toList := by
  intro before text drops
  simp only [selectWord, drops, Option.bind_eq_bind, Option.bind_none]

theorem needsWord_whereWord : Text.NeedsWord whereWord "where".toList := by
  intro before text drops
  simp only [whereWord, drops, Option.bind_eq_bind, Option.bind_none]

/-- The edge of a word lies between a line feed or a space and a letter. -/
theorem isWordEdge_cons {before c : Char} (outside : Unicode.isWord before = false)
    (inside : Unicode.isWord c = true) (rest : List Char) :
    Text.isWordEdge (some before) (c :: rest) = true := by
  simp only [Text.isWordEdge, Option.any_some, List.head?_cons, outside, inside, Bool.false_bne]

theorem isWord_feed : Unicode.isWord '\n' = false := by decide

theorem isWord_space : Unicode.isWord ' ' = false := by decide

theorem selectWord_append {rest : List Char} (ends : rest.head?.any Unicode.isWord = false) :
    selectWord (some '\n') ("SELECT".toList ++ rest) =
      some (Text.endingAt ("SELECT".toList ++ rest) rest rest) := by
  have drops : Text.dropWord? "select".toList ("SELECT".toList ++ rest) = some rest :=
    Text.dropWord?_append (by decide) (by decide) rest
  have edge : Text.isWordEdge (some '\n') ("SELECT".toList ++ rest) = true :=
    isWordEdge_cons isWord_feed (by decide) _
  simp only [selectWord, drops, edge, ends, Option.bind_eq_bind, Option.bind_some, Bool.not_false,
    Bool.and_self, if_true]

theorem whereWord_append (rest : List Char) :
    whereWord (some '\n') ("WHERE".toList ++ ' ' :: '\x7b' :: rest) =
      some (Text.endingAt ("WHERE".toList ++ ' ' :: '\x7b' :: rest) (' ' :: '\x7b' :: rest) ()) := by
  have drops : Text.dropWord? "where".toList ("WHERE".toList ++ ' ' :: '\x7b' :: rest) =
      some (' ' :: '\x7b' :: rest) :=
    Text.dropWord?_append (by decide) (by decide) _
  have edge : Text.isWordEdge (some '\n') ("WHERE".toList ++ ' ' :: '\x7b' :: rest) = true :=
    isWordEdge_cons isWord_feed (by decide) _
  have brace : (Unicode.trimStart (' ' :: '\x7b' :: rest)).head? = some '\x7b' := by
    have blank : Unicode.isBlank ' ' = true := by decide
    have mark : Unicode.isBlank '\x7b' = false := by decide
    rw [Unicode.trimStart, List.dropWhile_cons_of_pos blank]
    exact congrArg List.head? (trimStart_cons mark rest)
  simp only [whereWord, drops, edge, brace, Option.bind_eq_bind, Option.bind_some, Bool.true_and,
    decide_true, if_true]

/-! ### What is selected -/

/-- **What stands between the words of a selection is found**, each at the start of a line. -/
theorem projection?_append {lead selected : List Char}
    (quiet : lacksWord "select".toList (lead ++ ['\n']) = true)
    (ends : (selected ++ ['\n']).head?.any Unicode.isWord = false)
    (plain : lacksWord "where".toList (selected ++ ['\n']) = true) (rest : List Char) :
    projection? (lead ++ '\n' :: ("SELECT".toList ++ (selected ++ '\n' ::
      ("WHERE".toList ++ ' ' :: '\x7b' :: rest)))) = some (selected ++ ['\n']) := by
  have select : Text.findFirst selectWord (lead ++ '\n' :: ("SELECT".toList ++ (selected ++ '\n' ::
      ("WHERE".toList ++ ' ' :: '\x7b' :: rest)))) =
      some (selected ++ '\n' :: ("WHERE".toList ++ ' ' :: '\x7b' :: rest)) := by
    have same : (selected ++ '\n' :: ("WHERE".toList ++ ' ' :: '\x7b' :: rest)).head? =
        (selected ++ ['\n']).head? := by
      cases selected <;> rfl
    rw [Text.findFirst, Text.findFirstFrom_append_of_lacksWord needsWord_selectWord quiet]
    refine Text.findFirstFrom_of_found ?_ (selectWord_append (same ▸ ends))
    exact List.append_ne_nil_of_left_ne_nil (by decide) _
  have until_ : Text.splitFirstFrom whereWord (some '\n')
      ("WHERE".toList ++ ' ' :: '\x7b' :: rest) = some ([], ()) :=
    Text.splitFirstFrom_of_found
      (List.append_ne_nil_of_left_ne_nil (by decide) _) (whereWord_append rest)
  rw [projection?, select, Option.bind_some,
    Text.splitFirstFrom_append_of_lacksWord needsWord_whereWord plain, until_]
  rfl

/-! ### What is searched for -/

/-- A test whether something contains a text, which ends its arguments, in front of the rest. -/
def containsTest (arguments text rest : List Char) : List Char :=
  "CONTAINS".toList ++ '(' :: (arguments ++ '\x22' ::
    (text.flatMap formatStringChar ++ '\x22' :: ')' :: rest))

section Filter

variable {gap arguments : List Char} (passes : passed .outside 0 arguments = some (.outside, 0))
include passes

/-- Arguments and a string behind them are passed over. -/
theorem passed_arguments (depth : Nat) (text : List Char) :
    passed .outside depth (arguments ++ '\x22' :: (text.flatMap formatStringChar ++ ['\x22'])) =
      some (.outside, depth) := by
  have here := passed_add passes depth
  rw [Nat.zero_add] at here
  rw [passed_append here]
  exact passed_append (passed_formatStringChars depth text) ['\x22']

/-- The arguments of a test reach up to its parenthesis. -/
theorem balancedArgs_arguments (text rest : List Char) :
    balancedArgs (arguments ++ '\x22' :: (text.flatMap formatStringChar ++ '\x22' :: ')' :: rest)) =
      arguments ++ '\x22' :: (text.flatMap formatStringChar ++ ['\x22']) := by
  have taken := balancedArgsFrom_append (passed_arguments passes 0 text) (')' :: rest)
  rw [List.append_assoc, List.cons_append, List.append_assoc, List.singleton_append] at taken
  rw [balancedArgs, taken, balancedArgsFrom_cons]
  exact List.append_nil _

/-- A filter is taken beyond its first test. -/
theorem balancedArgs_containsTest (opens : passed .outside 0 (gap ++ [' ']) = some (.outside, 0))
    (text rest : List Char) :
    balancedArgs (gap ++ ' ' :: containsTest arguments text rest) =
      gap ++ ' ' :: containsTest arguments text (balancedArgsFrom .outside 0 rest) := by
  have word : passed .outside 0 ("CONTAINS".toList ++ ['(']) = some (.outside, 1) := by decide
  have whole : passed .outside 0 ((gap ++ [' ']) ++ (("CONTAINS".toList ++ ['(']) ++
      ((arguments ++ '\x22' :: (text.flatMap formatStringChar ++ ['\x22'])) ++ [')']))) =
        some (.outside, 0) := by
    rw [passed_append opens, passed_append word, passed_append (passed_arguments passes 1 text)]
    rfl
  have taken := balancedArgsFrom_append whole rest
  simp only [List.append_assoc, List.cons_append, List.nil_append] at taken
  exact taken

/-- **The term that a filter searches for** is the string that ends the arguments of its first test,
whatever it is and whatever follows. -/
theorem filterTerm?_containsTest (quiet : lacksWord "contains".toList (gap ++ [' ']) = true)
    (opens : passed .outside 0 (gap ++ [' ']) = some (.outside, 0)) {strings : List (List Char)}
    (earlier : ∀ later, Text.findAll quotedText (arguments ++ later) =
      strings ++ Text.findAll quotedText later) (text rest : List Char) :
    filterTerm? (gap ++ ' ' :: containsTest arguments text rest) =
      some (text.flatMap formatStringChar) := by
  have call : Text.findFirst (callOf "contains")
      (gap ++ ' ' :: containsTest arguments text (balancedArgsFrom .outside 0 rest)) =
        some (arguments ++ '\x22' :: (text.flatMap formatStringChar ++ '\x22' :: ')' ::
          balancedArgsFrom .outside 0 rest)) := by
    have edge : ∀ rest, Text.isWordEdge (some ' ') ("CONTAINS".toList ++ rest) = true :=
      fun rest => isWordEdge_cons isWord_space (by decide) _
    rw [Text.findFirst, Text.findFirstFrom_append_of_lacksWord (needsWord_callOf _) quiet]
    refine Text.findFirstFrom_of_found ?_
      (callOf_append (by decide) (by decide) (edge _))
    exact List.append_ne_nil_of_left_ne_nil (by decide) _
  have strings_ : Text.findAll quotedText
      (arguments ++ '\x22' :: (text.flatMap formatStringChar ++ ['\x22'])) =
        strings ++ [text.flatMap formatStringChar] := by
    rw [earlier, findAll_quotedText (upToQuote?_formatStringChars text [])]
    rfl
  rw [filterTerm?, balancedArgs_containsTest passes opens, call, Option.bind_some,
    balancedArgs_arguments passes, strings_, List.getLast?_concat]

end Filter

/-- **The search term of a selection** is the one that its first filter searches for, its backslashes
removed. -/
theorem rawTerm_append {front inner term : List Char}
    (quiet : lacksWord "filter".toList (front ++ [' ']) = true)
    (found : filterTerm? inner = some term) :
    rawTerm (front ++ ' ' :: ("FILTER".toList ++ '(' :: inner)) = dropBackslashes term := by
  have edge : Text.isWordEdge (some ' ') ("FILTER".toList ++ '(' :: inner) = true :=
    isWordEdge_cons isWord_space (by decide) _
  obtain ⟨more, all⟩ := Text.exists_findAllFrom_of_found
    (List.append_ne_nil_of_left_ne_nil (by decide) _)
    (@callOf_append "filter" "FILTER".toList (by decide) (by decide) _ _ edge)
  rw [rawTerm, Text.findAll, Text.findAllFrom_append_of_lacksWord (needsWord_callOf _) quiet, all,
    List.findSome?_cons, found]
  rfl

/-! ### The query -/

/-- **The query that a selection writes**, as far as its words are found. -/
theorem parse_of_projection {text : String} (told : classify text = .ok .select)
    {projection : List Char} (found : projection? (Unicode.trim text.toList) = some projection) :
    parse text = .ok ⟨declaredNamespaces (Unicode.trim text.toList),
      .select (projectedVariables projection)
        (Literal.searchForm (String.ofList (rawTerm (Unicode.trim text.toList))))
        (Text.findFirst describedSubject (Unicode.trim text.toList))⟩ := by
  rw [parse, told]
  simp only [ok_bind, parseBody, parseSelect, found]

end HistoricalFigures.Query
