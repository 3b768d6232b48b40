import HistoricalFigures.Literal.Escaping
import HistoricalFigures.Text.Search
import HistoricalFigures.Turtle.Printing

/-!
**What a text between quotes stands for**: the text on one line.

* `unbroken`: a text with every run of line breaks, and every tab, replaced by a space.
* `plain_of_mem_unbroken`: no line break and no tab is left.
* `toList_escapeLiteral`: a text is escaped as its form on one line is written in documents.
-/
namespace HistoricalFigures.Literal

/-- A run of line breaks, or a tab, is replaced by a space. -/
def lineBlank : Text.Finder (List Char) := fun _ text =>
  match text with
  | [] => none
  | c :: rest =>
    if isBreak c then some ([' '], (rest.takeWhile isBreak).length)
    else if c = '\t' then some ([' '], 0)
    else none

/-- A text on one line: every run of line breaks, and every tab, is replaced by a space. -/
def unbroken (text : String) : String := String.ofList (Text.replaceAll lineBlank text.toList)

theorem plain_of_mem_replaceAllFrom {text : List Char} {before : Option Char} {skipped : Nat} :
    ∀ c ∈ Text.replaceAllFrom lineBlank before skipped text, isBreak c = false ∧ c ≠ '\t' := by
  induction text generalizing before skipped with
  | nil =>
    intro c member
    cases skipped <;> exact absurd member List.not_mem_nil
  | cons d rest found =>
    cases skipped with
    | succ skipped => exact found
    | zero =>
      intro c member
      rw [Text.replaceAllFrom, lineBlank] at member
      by_cases isBreak_ : isBreak d = true
      · rw [if_pos isBreak_] at member
        rcases List.mem_cons.mp member with rfl | later
        · decide
        · exact found c later
      · by_cases tab : d = '\t'
        · rw [if_neg isBreak_, if_pos tab] at member
          rcases List.mem_cons.mp member with rfl | later
          · decide
          · exact found c later
        · rw [if_neg isBreak_, if_neg tab] at member
          rcases List.mem_cons.mp member with rfl | later
          · exact ⟨Bool.not_eq_true _ ▸ isBreak_, tab⟩
          · exact found c later

/-- No line break and no tab is left in a text on one line. -/
theorem plain_of_mem_unbroken {text : String} :
    ∀ c ∈ (unbroken text).toList, isBreak c = false ∧ c ≠ '\t' := by
  rw [unbroken, String.toList_ofList]
  exact plain_of_mem_replaceAllFrom

/-- A character that stands on one line is escaped as it is written in documents. -/
theorem escapeChar_eq {c : Char} (notBreak : isBreak c = false) (notTab : c ≠ '\t') :
    escapeChar c = Turtle.formatStringChar c := by
  simp only [isBreak, Bool.or_eq_false_iff, decide_eq_false_iff_not] at notBreak
  unfold escapeChar Turtle.formatStringChar
  by_cases backslash : c = '\\'
  · rw [if_pos (.inl backslash), if_pos backslash, backslash]
  · by_cases quote : c = '\x22'
    · rw [if_pos (.inr quote), if_neg backslash, if_pos quote, quote]
    · rw [if_neg (not_or.mpr ⟨backslash, quote⟩), if_neg notTab, if_neg backslash, if_neg quote,
        if_neg notBreak.2, if_neg notBreak.1, if_neg notTab]

/-- Behind a line break the rest of its run is passed over. -/
theorem escapeFrom_eq (text : List Char) (before : Option Char) :
    escapeFrom false text =
        (Text.replaceAllFrom lineBlank before 0 text).flatMap Turtle.formatStringChar ∧
      escapeFrom true text =
        (Text.replaceAllFrom lineBlank before (text.takeWhile isBreak).length text).flatMap
          Turtle.formatStringChar := by
  induction text generalizing before with
  | nil => exact ⟨rfl, rfl⟩
  | cons c rest found =>
    obtain ⟨outside, inside⟩ := found (some c)
    have space : [' '].flatMap Turtle.formatStringChar = [' '] := by decide
    cases isBreak_ : isBreak c with
    | true =>
      constructor
      · rw [escapeFrom, if_pos isBreak_, Text.replaceAllFrom, lineBlank]
        simp only [if_pos isBreak_, List.flatMap_append, space, inside, Bool.false_eq_true, if_false]
      · rw [escapeFrom, if_pos isBreak_, List.takeWhile_cons_of_pos isBreak_, List.length_cons,
          Text.replaceAllFrom, inside]
        rfl
    | false =>
      have notBreak : ¬ isBreak c = true := by rw [isBreak_]; exact Bool.false_ne_true
      have here : escapeChar c ++ escapeFrom false rest =
          (Text.replaceAllFrom lineBlank before 0 (c :: rest)).flatMap Turtle.formatStringChar := by
        rw [Text.replaceAllFrom, lineBlank]
        by_cases tab : c = '\t'
        · simp only [if_neg notBreak, if_pos tab, List.flatMap_append, space, outside]
          rw [tab]
          rfl
        · simp only [if_neg notBreak, if_neg tab, List.flatMap_cons, outside,
            escapeChar_eq isBreak_ tab]
      constructor
      · rw [escapeFrom, if_neg notBreak, here]
      · rw [escapeFrom, if_neg notBreak, here, List.takeWhile_cons_of_neg notBreak, List.length_nil]

/-- **A text is escaped as its form on one line is written in documents.** -/
theorem toList_escapeLiteral (text : String) :
    (escapeLiteral text).toList = (unbroken text).toList.flatMap Turtle.formatStringChar := by
  rw [escapeLiteral, unbroken, String.toList_ofList, String.toList_ofList]
  exact (escapeFrom_eq text.toList none).1

end HistoricalFigures.Literal
