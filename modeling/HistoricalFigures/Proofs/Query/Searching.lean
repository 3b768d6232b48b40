import HistoricalFigures.Proofs.Literal.Escaping
import HistoricalFigures.Proofs.Query.Kind
import HistoricalFigures.Proofs.Query.Prologue
import HistoricalFigures.Proofs.Turtle.Escape
import HistoricalFigures.Query.Parsing

/-!
**How the search term of a selection is found.** A term that is written between quotes is passed over
as one string, found again as it was written, and its backslashes are removed.

* `ArgumentPlace.step`, `passed`: how the search for a closing parenthesis goes on behind a character
  and behind a part of a text.
* `balancedArgsFrom_append`: a part in which no parenthesis closes the outermost one is taken whole.
* `passed_formatStringChars`, `findAll_quotedText`: what is written between quotes is passed over, and
  found up to its closing quote.
* `dropBackslashes_formatStringChars`: its backslashes removed it is the text on one line.
* `callOf_append`: a call in any case is found, and what follows its parenthesis.
* `rawTerm_of_unquoted`: a text without double quotes searches for nothing, whatever it calls.
-/
namespace HistoricalFigures.Query

open Turtle (formatStringChar)

/-! ### Parentheses -/

/-- The place behind a character and the number of parentheses that are open there, unless the
character closes the outermost one. -/
def ArgumentPlace.step : ArgumentPlace → Nat → Char → Option (ArgumentPlace × Nat)
  | behindBackslash, depth, _ => some (insideString, depth)
  | insideString, depth, c =>
    some (if c = '\\' then behindBackslash else if c = '\x22' then outside else insideString, depth)
  | outside, depth, c =>
    if c = '\x22' then some (insideString, depth)
    else if c = '(' then some (outside, depth + 1)
    else if c = ')' then
      match depth with
      | 0 => none
      | inner + 1 => some (outside, inner)
    else some (outside, depth)

/-- The place behind a part of a text and the number of parentheses that are open there, unless the
outermost one is closed within the part. -/
def passed (place : ArgumentPlace) (depth : Nat) : List Char → Option (ArgumentPlace × Nat)
  | [] => some (place, depth)
  | c :: rest => (place.step depth c).bind fun (later, open_) => passed later open_ rest

/-- **One character is taken**, unless it closes the outermost parenthesis. -/
theorem balancedArgsFrom_cons (place : ArgumentPlace) (depth : Nat) (c : Char) (rest : List Char) :
    balancedArgsFrom place depth (c :: rest) =
      match place.step depth c with
      | some (later, open_) => c :: balancedArgsFrom later open_ rest
      | none => [] := by
  cases place with
  | behindBackslash => rfl
  | insideString => rfl
  | outside =>
    by_cases quote : c = '\x22'
    · simp only [balancedArgsFrom, ArgumentPlace.step, if_pos quote]
    by_cases opens : c = '('
    · simp only [balancedArgsFrom, ArgumentPlace.step, if_neg quote, if_pos opens]
    by_cases closes : c = ')'
    · cases depth <;>
        simp only [balancedArgsFrom, ArgumentPlace.step, if_neg quote, if_neg opens, if_pos closes]
    · simp only [balancedArgsFrom, ArgumentPlace.step, if_neg quote, if_neg opens, if_neg closes]

/-- **A part in which no parenthesis closes the outermost one is taken whole.** -/
theorem balancedArgsFrom_append {place later : ArgumentPlace} {depth open_ : Nat} {part : List Char}
    (passes : passed place depth part = some (later, open_)) (rest : List Char) :
    balancedArgsFrom place depth (part ++ rest) = part ++ balancedArgsFrom later open_ rest := by
  induction part generalizing place depth with
  | nil =>
    cases passes
    rfl
  | cons c part found =>
    obtain ⟨⟨middle, between⟩, steps, others⟩ := Option.bind_eq_some_iff.mp passes
    rw [List.cons_append, balancedArgsFrom_cons, steps]
    exact congrArg (c :: ·) (found others)

theorem passed_append {place middle : ArgumentPlace} {depth between : Nat} {first : List Char}
    (passes : passed place depth first = some (middle, between)) (second : List Char) :
    passed place depth (first ++ second) = passed middle between second := by
  induction first generalizing place depth with
  | nil =>
    cases passes
    rfl
  | cons c first found =>
    obtain ⟨⟨later, open_⟩, steps, others⟩ := Option.bind_eq_some_iff.mp passes
    rw [List.cons_append, passed, steps]
    exact found others

theorem ArgumentPlace.step_add {place later : ArgumentPlace} {depth open_ : Nat} {c : Char}
    (steps : place.step depth c = some (later, open_)) (more : Nat) :
    place.step (depth + more) c = some (later, open_ + more) := by
  cases place with
  | behindBackslash =>
    cases steps
    rfl
  | insideString =>
    cases steps
    rfl
  | outside =>
    simp only [step] at steps ⊢
    split at steps
    · cases steps
      rw [if_pos ‹_›]
    · rw [if_neg ‹_›]
      split at steps
      · cases steps
        rw [if_pos ‹_›, Nat.add_right_comm]
      · rw [if_neg ‹_›]
        split at steps
        · rw [if_pos ‹_›]
          cases depth with
          | zero => cases steps
          | succ inner =>
            cases steps
            rw [Nat.add_right_comm]
        · cases steps
          rw [if_neg ‹_›]

/-- What is passed over within some parentheses is passed over within more of them. -/
theorem passed_add {place later : ArgumentPlace} {depth open_ : Nat} {part : List Char}
    (passes : passed place depth part = some (later, open_)) (more : Nat) :
    passed place (depth + more) part = some (later, open_ + more) := by
  induction part generalizing place depth with
  | nil =>
    cases passes
    rfl
  | cons c part found =>
    obtain ⟨⟨middle, between⟩, steps, others⟩ := Option.bind_eq_some_iff.mp passes
    rw [passed, ArgumentPlace.step_add steps more]
    exact found others

/-! ### Strings -/

/-- **What is written between quotes is passed over**, whatever it is. -/
theorem passed_formatStringChars (depth : Nat) (text : List Char) :
    passed .insideString depth (text.flatMap formatStringChar) = some (.insideString, depth) := by
  induction text with
  | nil => rfl
  | cons c later found =>
    have here : passed .insideString depth (formatStringChar c) = some (.insideString, depth) := by
      rcases Turtle.formatStringChar_cases c with ⟨written, backslash, quote, _⟩ | ⟨letter, written, _⟩
      · rw [written, passed, ArgumentPlace.step, if_neg backslash, if_neg quote]
        rfl
      · rw [written]
        rfl
    rw [List.flatMap_cons, passed_append here, found]

/-- What is written between quotes reaches up to the closing quote. -/
theorem upToQuote?_formatStringChars (text rest : List Char) :
    upToQuote? (text.flatMap formatStringChar ++ '\x22' :: rest) =
      some (text.flatMap formatStringChar) := by
  induction text with
  | nil =>
    rw [List.flatMap_nil, List.nil_append, upToQuote?]
    · rfl
    · intro c later starts
      cases starts
  | cons c later found =>
    rcases Turtle.formatStringChar_cases c with ⟨written, backslash, quote, _⟩ | ⟨letter, written, _⟩
    · rw [List.flatMap_cons, written, List.singleton_append, List.cons_append, upToQuote?,
        if_neg quote, if_neg backslash, found]
      · rfl
      · intro d behind starts
        exact absurd starts backslash
    · rw [List.flatMap_cons, written, List.cons_append, List.singleton_append, List.cons_append,
        List.cons_append, upToQuote?, found]
      rfl

theorem looksAhead_quotedText : Text.LooksAhead quotedText := fun _ _ => rfl

theorem misses_quotedText {part : List Char} (unquoted : '\x22' ∉ part) (rest : List Char) :
    Text.Misses quotedText part rest := by
  have head : ∀ c later, decide (c = '\x22') = false → quotedText none (c :: later) = none := by
    intro c later other
    unfold quotedText
    split
    · rename_i inner starts
      cases starts
      cases other
    · rfl
  exact Text.misses_of_head head fun c member =>
    decide_eq_false (ne_of_mem_of_not_mem member unquoted)

/-- **What is written between quotes is found as it is written**, and the search goes on behind it. -/
theorem findAll_quotedText {inner rest : List Char}
    (reaches : upToQuote? (inner ++ '\x22' :: rest) = some inner) :
    Text.findAll quotedText ('\x22' :: (inner ++ '\x22' :: rest)) =
      inner :: Text.findAll quotedText rest := by
  have found : quotedText none ('\x22' :: ((inner ++ ['\x22']) ++ rest)) =
      some (inner, (inner ++ ['\x22']).length) := by
    rw [List.append_assoc, List.singleton_append, List.length_append]
    simp only [quotedText, reaches, Option.map_some]
    rfl
  have all := Text.findAll_of_found looksAhead_quotedText found
  rwa [List.append_assoc, List.singleton_append] at all

/-! ### Backslashes -/

/-- **Its backslashes removed, what is written between quotes is the text**, if that stands on one
line and has no tab. -/
theorem dropBackslashes_formatStringChars {text : List Char}
    (plain : ∀ c ∈ text, Literal.isBreak c = false ∧ c ≠ '\t') :
    dropBackslashes (text.flatMap formatStringChar) = text := by
  induction text with
  | nil => rfl
  | cons c later found =>
    obtain ⟨⟨notBreak, notTab⟩, others⟩ := List.forall_mem_cons.mp plain
    rw [List.flatMap_cons, ← Literal.escapeChar_eq notBreak notTab]
    unfold Literal.escapeChar
    by_cases marked : c = '\\' ∨ c = '\x22'
    · have notFeed : c ≠ '\n' := by rintro rfl; exact absurd notBreak (by decide)
      rw [if_pos marked, List.cons_append, List.singleton_append, dropBackslashes, if_neg notFeed,
        found others]
    · have notBackslash : ∀ d rest, c :: later.flatMap formatStringChar ≠ '\\' :: d :: rest := by
        intro d rest same
        exact marked (.inl (List.cons.inj same).1)
      rw [if_neg marked, if_neg notTab, List.singleton_append, dropBackslashes, found others]
      intro d rest same
      exact absurd same (fun here => marked (.inl here))

/-! ### Descriptions -/

/-- What is described stands between angle brackets. -/
theorem needsWord_describedSubject : Text.NeedsWord describedSubject ['<'] := by
  intro before text drops
  unfold describedSubject
  split
  · cases drops
  · rfl

/-! ### Calls -/

theorem needsWord_callOf (word : String) : Text.NeedsWord (callOf word) word.toList := by
  intro before text drops
  rw [callOf, drops]
  exact ite_self none

/-- **A call in any case is found**, and what follows its parenthesis. -/
theorem callOf_append {word : String} {called : List Char}
    (same : Unicode.IsInAnyCase word.toList called)
    (ascii : word.toList.all (fun c => c.toNat < 128) = true) {before : Option Char}
    {rest : List Char} (edge : Text.isWordEdge before (called ++ '(' :: rest) = true) :
    callOf word before (called ++ '(' :: rest) =
      some (Text.endingAt (called ++ '(' :: rest) rest rest) := by
  have bracket : Unicode.isBlank '(' = false := by decide
  rw [callOf, if_pos edge, Text.dropWord?_append same ascii, Option.map_some, trimStart_cons bracket]
  rfl

/-! ### Texts without strings -/

/-- What follows the parenthesis of a call is the end of the text. -/
theorem isSuffix_of_callOf {word : String} {before : Option Char} {text rest : List Char}
    {extent : Nat} (found : callOf word before text = some (rest, extent)) : rest <:+ text := by
  unfold callOf at found
  split at found
  · split at found
    · rename_i behind opens
      cases found
      obtain ⟨afterWord, drops, same⟩ := Option.map_eq_some_iff.mp opens
      obtain ⟨front, rfl, _⟩ := Text.exists_of_dropWord? drops
      have bracket : '(' :: rest <:+ afterWord := same ▸ List.dropWhile_suffix Unicode.isBlank
      exact (List.suffix_cons '(' rest).trans (bracket.trans (List.suffix_append front afterWord))
    · cases found
  · cases found

/-- Arguments are the start of the text behind their parenthesis. -/
theorem isPrefix_balancedArgsFrom (place : ArgumentPlace) (depth : Nat) (text : List Char) :
    balancedArgsFrom place depth text <+: text := by
  induction text generalizing place depth with
  | nil => exact List.nil_prefix
  | cons c rest found =>
    rw [balancedArgsFrom_cons]
    split
    · exact List.cons_prefix_cons.mpr ⟨rfl, found _ _⟩
    · exact List.nil_prefix

theorem balancedArgs_subset (text : List Char) : balancedArgs text ⊆ text :=
  (isPrefix_balancedArgsFrom .outside 0 text).subset

theorem findAll_quotedText_of_unquoted {text : List Char} (unquoted : '\x22' ∉ text) :
    Text.findAll quotedText text = [] := by
  have nothing := Text.findAll_append_of_misses looksAhead_quotedText (misses_quotedText unquoted [])
  rwa [List.append_nil] at nothing

theorem filterTerm?_of_unquoted {text : List Char} (unquoted : '\x22' ∉ text) :
    filterTerm? text = none := by
  rw [filterTerm?, Option.bind_eq_none_iff]
  intro afterContains call
  obtain ⟨before, rest, extent, behind, here⟩ := Text.exists_of_findFirst_eq_some call
  have inside : balancedArgs afterContains ⊆ text :=
    List.Subset.trans (balancedArgs_subset afterContains)
      (List.Subset.trans (isSuffix_of_callOf here).subset
        (List.Subset.trans behind.subset (balancedArgs_subset text)))
  rw [findAll_quotedText_of_unquoted fun quote => unquoted (inside quote)]
  rfl

/-- **A text without double quotes searches for nothing**, whatever it calls. -/
theorem rawTerm_of_unquoted {text : List Char} (unquoted : '\x22' ∉ text) : rawTerm text = [] := by
  have nowhere : (Text.findAll (callOf "filter") text).findSome? filterTerm? = none := by
    refine List.findSome?_eq_none_iff.mpr fun afterFilter member => ?_
    obtain ⟨before, rest, extent, behind, here⟩ := Text.exists_of_mem_findAll member
    have inside := List.Subset.trans (isSuffix_of_callOf here).subset behind.subset
    exact filterTerm?_of_unquoted fun quote => unquoted (inside quote)
  rw [rawTerm, nowhere]
  rfl

end HistoricalFigures.Query
