import HistoricalFigures.Json.Printing
import HistoricalFigures.Proofs.Number.Digits

/-!
**No carriage return is written.** In the text of a JSON value those between quotes are escaped, so that
the text keeps its lines when it is read.

* `return_notMem_quote`: texts.
* `return_notMem_floatText`: numbers, whose digits stand with few other characters.
* `return_notMem_indented`: values on lines of their own.
-/
namespace HistoricalFigures

namespace Number

/-! ### Numbers -/

theorem return_notMem_natText (value : Nat) : '\r' ∉ natText value := fun member =>
  absurd (Nat.isDigit_of_mem_toDigits (by decide) (by decide) member) (by decide)

theorem return_notMem_intText (value : Int) : '\r' ∉ intText value := by
  unfold intText
  split
  · exact List.not_mem_cons_of_ne_of_not_mem (by decide) (return_notMem_natText _)
  · exact return_notMem_natText _

/-- Capital letters leave a carriage return as it is. -/
theorem return_notMem_hexText {width value : Nat} (positive : 0 < width)
    (fits : value < 16 ^ width) : '\r' ∉ hexText width value := by
  intro member
  have capital : '\r' ∈ hexCapitals width value := List.mem_map.mpr ⟨'\r', member, by decide⟩
  exact absurd (isHexDigit_of_mem_hexCapitals positive fits '\r' capital) (by decide)

namespace Binary64

theorem return_notMem_exponentText (exponent : Int) : '\r' ∉ exponentText exponent := by
  have digits := return_notMem_natText exponent.natAbs
  unfold exponentText
  dsimp only
  split <;> split <;> simp [digits]

theorem return_notMem_placePoint {digits : List Char} (plain : '\r' ∉ digits) (place : Int) :
    '\r' ∉ placePoint digits place := by
  have front : ∀ count, '\r' ∉ digits.take count := fun count member =>
    plain (List.mem_of_mem_take member)
  have behind : ∀ count, '\r' ∉ digits.drop count := fun count member =>
    plain (List.mem_of_mem_drop member)
  unfold placePoint
  split
  · split
    · simp [plain]
    · split
      · simp [plain]
      · simp [front, behind]
  · split
    · exact List.not_mem_nil
    · simp_all [return_notMem_exponentText]
    · simp_all [return_notMem_exponentText]

theorem return_notMem_significantDigits (value : Nat) : '\r' ∉ significantDigits value := by
  intro member
  rw [significantDigits, Unicode.dropEndWhile, List.mem_reverse] at member
  have inside := (List.dropWhile_sublist _).subset member
  exact return_notMem_natText value (List.mem_reverse.mp inside)

theorem return_notMem_magnitudeText (significand : Nat) (exponent : Int) :
    '\r' ∉ magnitudeText significand exponent := by
  unfold magnitudeText
  split
  · decide
  · exact return_notMem_placePoint (return_notMem_significantDigits _) _

end Binary64

end Number

namespace Json

theorem return_notMem_floatText (value : Number.Binary64) : '\r' ∉ (floatText value).toList := by
  cases value with
  | nan => decide
  | infinity negative => cases negative <;> decide
  | finite negative significand exponent =>
    have digits := Number.Binary64.return_notMem_magnitudeText significand exponent
    have written : floatText (.finite negative significand exponent) =
        Number.Binary64.text (.finite negative significand exponent) := rfl
    rw [written, Number.Binary64.text, String.toList_ofList]
    cases negative <;> simp [digits]

/-! ### Texts -/

theorem return_notMem_quoteChar (c : Char) : '\r' ∉ quoteChar c := by
  intro inside
  unfold quoteChar at inside
  repeat' split at inside
  all_goals simp only [List.mem_cons, List.not_mem_nil, or_false, Char.reduceEq, false_or] at inside
  · rename_i small
    have fits : c.toNat < 16 ^ 4 := Nat.lt_trans small (by decide)
    exact Number.return_notMem_hexText (by decide) fits inside
  · exact absurd inside.symm ‹_›

theorem return_notMem_quote (text : String) : '\r' ∉ (quote text).toList := by
  simp [quote, return_notMem_quoteChar]

/-! ### Values -/

theorem return_notMem_newLine (depth : Nat) : '\r' ∉ (newLine depth).toList := by
  simp [newLine]

theorem return_notMem_append {first second : String} (before : '\r' ∉ first.toList)
    (behind : '\r' ∉ second.toList) : '\r' ∉ (first ++ second).toList := by
  rw [String.toList_append, List.mem_append]
  exact not_or.mpr ⟨before, behind⟩

theorem return_notMem_intercalate {separator : String} {parts : List String}
    (plain : '\r' ∉ separator.toList) (each : ∀ part ∈ parts, '\r' ∉ part.toList) :
    '\r' ∉ (separator.intercalate parts).toList := by
  induction parts with
  | nil => exact List.not_mem_nil
  | cons first later found =>
    obtain ⟨here, others⟩ := List.forall_mem_cons.mp each
    cases later with
    | nil =>
      rw [String.intercalate_singleton]
      exact here
    | cons second later =>
      rw [String.intercalate_cons_cons]
      exact return_notMem_append (return_notMem_append here plain) (found others)

theorem return_notMem_enclose {depth : Nat} {opening closing : String} {parts : List String}
    (opens : '\r' ∉ opening.toList) (closes : '\r' ∉ closing.toList)
    (each : ∀ part ∈ parts, '\r' ∉ part.toList) :
    '\r' ∉ (enclose depth opening closing parts).toList := by
  have separator : '\r' ∉ ("," ++ newLine (depth + 1)).toList :=
    return_notMem_append (by decide) (return_notMem_newLine _)
  unfold enclose
  split
  · exact return_notMem_append opens closes
  · exact return_notMem_append (return_notMem_append (return_notMem_append
      (return_notMem_append opens (return_notMem_newLine _)) (return_notMem_intercalate separator each))
      (return_notMem_newLine _)) closes

mutual

/-- **The text of a value has no carriage return**, however deep it stands. -/
theorem return_notMem_indentedAt (value : Json) (depth : Nat) :
    '\r' ∉ (indentedAt depth value).toList := by
  cases value with
  | null => simp [indentedAt]
  | bool value => cases value <;> simp [indentedAt]
  | int value =>
    rw [indentedAt, intText, String.toList_ofList]
    exact Number.return_notMem_intText value
  | float value =>
    rw [indentedAt]
    exact return_notMem_floatText value
  | str value =>
    rw [indentedAt]
    exact return_notMem_quote value
  | arr items =>
    rw [indentedAt]
    exact return_notMem_enclose (by decide) (by decide) (return_notMem_indentedItems items _)
  | obj members =>
    rw [indentedAt]
    exact return_notMem_enclose (by decide) (by decide) (return_notMem_indentedMembers members _)

theorem return_notMem_indentedItems (items : List Json) (depth : Nat) :
    ∀ part ∈ indentedItems depth items, '\r' ∉ part.toList := by
  cases items with
  | nil => exact fun part member => absurd member List.not_mem_nil
  | cons item rest =>
    exact List.forall_mem_cons.mpr
      ⟨return_notMem_indentedAt item depth, return_notMem_indentedItems rest depth⟩

theorem return_notMem_indentedMembers (members : List (String × Json)) (depth : Nat) :
    ∀ part ∈ indentedMembers depth members, '\r' ∉ part.toList := by
  cases members with
  | nil => exact fun part member => absurd member List.not_mem_nil
  | cons first rest =>
    obtain ⟨name, value⟩ := first
    have written := return_notMem_append
      (return_notMem_append (return_notMem_quote name) (by decide : '\r' ∉ ": ".toList))
      (return_notMem_indentedAt value depth)
    exact List.forall_mem_cons.mpr ⟨written, return_notMem_indentedMembers rest depth⟩

end

end Json

end HistoricalFigures
