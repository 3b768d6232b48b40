import HistoricalFigures.Proofs.Query.Insertion
import HistoricalFigures.Proofs.Turtle.Escape
import HistoricalFigures.Proofs.Unicode.Blank

/-!
**The terms of the pattern of a deletion.** They are found from left to right, each from its first
character on.

* `findAll_bracketed`, `findAll_blanks`: resources are terms, and the blanks between them are none.
* `findAll_closedText`, `findAll_openText`: the terms of a string, with its end and without.
* `patternPart_bracketed`, `patternPart_quoted`: what such terms stand for.
-/
namespace HistoricalFigures.Query

open Rdf (Namespaces)
open Turtle (formatStringChar)

/-! ### The terms of a pattern -/

theorem looksAhead_patternTerm : Text.LooksAhead patternTerm := fun _ _ => rfl

/-- A resource is a term. -/
theorem findAll_bracketed {inner : List Char} (absent : '>' ∉ inner) (rest : List Char) :
    Text.findAll patternTerm ('<' :: (inner ++ '>' :: rest)) =
      ('<' :: inner ++ ['>']) :: Text.findAll patternTerm rest := by
  have found : patternTerm none ('<' :: (inner ++ ['>'] ++ rest)) =
      some ('<' :: inner ++ ['>'], (inner ++ ['>']).length) := by
    have closes := upToMark?_append absent rest
    rw [List.append_assoc, List.singleton_append]
    unfold patternTerm
    simp only [closes, Option.map_some, Option.getD_some, if_true,
      if_neg (by decide : ¬ Unicode.isBlank '<' = true), List.cons_append, List.length_cons,
      Nat.add_sub_cancel]
  have whole := Text.findAll_of_found looksAhead_patternTerm found
  rwa [List.append_assoc, List.singleton_append] at whole

/-- Blanks belong to no term. -/
theorem findAll_blanks (blanks : Blanks) (rest : List Char) :
    Text.findAll patternTerm (blanks.val ++ rest) = Text.findAll patternTerm rest := by
  refine Text.findAll_append_of_misses looksAhead_patternTerm fun suffix nonempty behind => ?_
  obtain ⟨c, later, rfl⟩ := List.exists_cons_of_ne_nil nonempty
  have blank := blanks.property c (behind.subset List.mem_cons_self)
  unfold patternTerm
  simp only [List.cons_append, if_pos blank, Option.map_none]

/-- There is a term wherever there is something else than blanks. -/
theorem findAll_ne_nil {text : List Char} {c : Char} (member : c ∈ text)
    (other : Unicode.isBlank c = false) : Text.findAll patternTerm text ≠ [] := by
  obtain ⟨blanks, whole⟩ := exists_of_trimStart text
  cases start : Unicode.trimStart text with
  | nil =>
    rw [whole, start, List.append_nil] at member
    rw [blanks.property c member] at other
    cases other
  | cons d later =>
    have notBlank : ¬ Unicode.isBlank d = true := by
      rw [Unicode.isBlank_of_trimStart start]
      exact Bool.false_ne_true
    have isSome : ∃ found, patternTerm none (d :: later) = some found := by
      unfold patternTerm
      simp only [if_neg notBlank]
      split
      · exact ⟨_, rfl⟩
      · split <;> exact ⟨_, rfl⟩
    obtain ⟨⟨value, extent⟩, found⟩ := isSome
    obtain ⟨more, finds⟩ := Text.exists_findAllFrom_of_found (List.cons_ne_nil d later) found
    rw [whole, start, findAll_blanks, Text.findAll, finds]
    exact List.cons_ne_nil _ _

/-- A written string is read up to its closing quote. -/
theorem quotedTerm?_append (text rest : List Char) :
    quotedTerm? (text.flatMap formatStringChar ++ '\x22' :: rest) =
      some (text.flatMap formatStringChar ++ ['\x22']) := by
  induction text with
  | nil => rfl
  | cons c later found =>
    rw [List.flatMap_cons, List.append_assoc, List.append_assoc]
    rcases Turtle.formatStringChar_cases c with ⟨written, plain, quote, _⟩ | ⟨letter, written, known⟩
    · rw [written, List.singleton_append, List.singleton_append, quotedTerm?, if_neg quote,
        if_neg plain, found]
      · rfl
      · exact fun _ _ escape _ => plain escape
    · have notFeed : letter ≠ '\n' := by
        rintro rfl
        cases known
      rw [written, List.cons_append, List.singleton_append, List.cons_append, List.singleton_append,
        quotedTerm?, if_neg notFeed, found]
      rfl

/-- What a written string begins with has no closing quote. -/
theorem quotedTerm?_of_isPrefix {text front : List Char}
    (start : front <+: text.flatMap formatStringChar) : quotedTerm? front = none := by
  induction text generalizing front with
  | nil =>
    rw [List.prefix_nil.mp start]
    rfl
  | cons c later found =>
    rw [List.flatMap_cons] at start
    cases front with
    | nil => rfl
    | cons d front =>
      rcases Turtle.formatStringChar_cases c with ⟨written, plain, quote, _⟩ | ⟨letter, written, _⟩
      · rw [written, List.singleton_append, List.cons_prefix_cons] at start
        obtain ⟨rfl, start⟩ := start
        rw [quotedTerm?, if_neg quote, if_neg plain, found start]
        · rfl
        · exact fun _ _ escape _ => plain escape
      · rw [written, List.cons_append, List.singleton_append, List.cons_prefix_cons] at start
        obtain ⟨rfl, start⟩ := start
        cases front with
        | nil => rfl
        | cons e front =>
          obtain ⟨_, start⟩ := List.cons_prefix_cons.mp start
          rw [quotedTerm?, found start]
          split <;> rfl

/-- **A written string is a term**, with its quotes. -/
theorem findAll_closedText (text : List Char) :
    Text.findAll patternTerm ('\x22' :: (text.flatMap formatStringChar ++ ['\x22'])) =
      ['\x22' :: (text.flatMap formatStringChar ++ ['\x22'])] := by
  have found : patternTerm none ('\x22' :: (text.flatMap formatStringChar ++ ['\x22'] ++ [])) =
      some ('\x22' :: (text.flatMap formatStringChar ++ ['\x22']),
        (text.flatMap formatStringChar ++ ['\x22']).length) := by
    rw [List.append_nil]
    unfold patternTerm
    simp only [quotedTerm?_append, Option.map_some, Option.getD_some, if_true,
      if_neg (by decide : ¬ Unicode.isBlank '\x22' = true), if_neg (by decide : ¬ '\x22' = '<'),
      List.length_cons, Nat.add_sub_cancel]
  have whole := Text.findAll_of_found looksAhead_patternTerm found
  rwa [List.append_nil] at whole

/-- **A string without its end is a term up to the first blank**, and what follows has others. -/
theorem findAll_openText {text : List Char} (noEnd : quotedTerm? text = none) :
    Text.findAll patternTerm ('\x22' :: text) =
      ('\x22' :: text.takeWhile fun c => !Unicode.isBlank c) ::
        Text.findAll patternTerm (text.dropWhile fun c => !Unicode.isBlank c) := by
  have found : patternTerm none ('\x22' :: ((text.takeWhile fun c => !Unicode.isBlank c) ++
      text.dropWhile fun c => !Unicode.isBlank c)) =
        some ('\x22' :: text.takeWhile fun c => !Unicode.isBlank c,
          (text.takeWhile fun c => !Unicode.isBlank c).length) := by
    rw [List.takeWhile_append_dropWhile]
    unfold patternTerm
    simp only [noEnd, Option.map_none, Option.map_some, Option.getD_none, if_true,
      if_neg (by decide : ¬ Unicode.isBlank '\x22' = true), if_neg (by decide : ¬ '\x22' = '<'),
      List.length_cons, Nat.add_sub_cancel]
  have whole := Text.findAll_of_found looksAhead_patternTerm found
  rwa [List.takeWhile_append_dropWhile] at whole

/-! ### What terms stand for -/

theorem patternPart_bracketed (namespaces : Namespaces) (inner : List Char) :
    patternPart namespaces ('<' :: inner ++ ['>']) = .ok (some (String.ofList inner)) := by
  have ends : ('<' :: inner ++ ['>']).getLast? = some '>' := List.getLast?_concat
  have within : (('<' :: inner ++ ['>']).drop 1).dropLast = inner := List.dropLast_concat
  unfold patternPart
  simp only [ends, within]
  rfl

theorem patternPart_quoted (namespaces : Namespaces) (text : List Char) :
    patternPart namespaces ('\x22' :: text) = .ok (some (String.ofList text.dropLast)) := rfl

end HistoricalFigures.Query
