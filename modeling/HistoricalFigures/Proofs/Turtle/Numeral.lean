import HistoricalFigures.Proofs.Turtle.TokenShape
import HistoricalFigures.Turtle.Reading

/-!
**What numbers look like, and which datatype they have.** A numeral has digits, and perhaps a sign before
them and a fraction and an exponent behind them; the last two decide on its datatype.

* `Digits`, `Sign`, `Exponent`, `Numeral`: the parts of a number, and how they are written.
* `numberDatatype_text`: the datatype of a written numeral.
* `datatype_eq_integer_iff`, `datatype_eq_decimal_iff`, `datatype_eq_double_iff`: when it is which.
* `exists_numeral`: what is read as a number is a written numeral.
-/
namespace HistoricalFigures.Turtle

/-! ### The parts of a number -/

/-- Digits, one at least. -/
structure Digits where
  text : List Char
  nonempty : text ≠ []
  digits : ∀ c ∈ text, Unicode.isDigit c = true

/-- A sign, or none. -/
inductive Sign where
  | none
  | plus
  | minus

/-- How a sign is written. -/
def Sign.text : Sign → List Char
  | .none => []
  | .plus => ['+']
  | .minus => ['-']

/-- An exponent: the letter e in either case, perhaps a sign, and digits. -/
structure Exponent where
  letter : Char
  isLetter : letter = 'e' ∨ letter = 'E'
  sign : Sign
  digits : Digits

/-- How an exponent is written. -/
def Exponent.text (exponent : Exponent) : List Char :=
  exponent.letter :: (exponent.sign.text ++ exponent.digits.text)

/-- A number as it is written. -/
structure Numeral where
  sign : Sign
  whole : Digits
  fraction : Option Digits
  exponent : Option Exponent

namespace Numeral

/-- How a fraction is written: behind a point. -/
def fractionText : Option Digits → List Char
  | some digits => '.' :: digits.text
  | none => []

/-- How a numeral is written behind its sign. -/
def unsignedText (numeral : Numeral) : List Char :=
  numeral.whole.text ++ (fractionText numeral.fraction ++ (numeral.exponent.map Exponent.text).getD [])

/-- How a numeral is written. -/
def text (numeral : Numeral) : List Char := numeral.sign.text ++ numeral.unsignedText

/-- The datatype of a numeral. -/
def datatype (numeral : Numeral) : String :=
  if numeral.exponent.isSome then Rdf.doubleDatatype
  else if numeral.fraction.isSome then Rdf.decimalDatatype
  else Rdf.integerDatatype

/-! ### Datatypes -/

theorem datatype_eq_integer_iff (numeral : Numeral) :
    numeral.datatype = Rdf.integerDatatype ↔ numeral.fraction = none ∧ numeral.exponent = none := by
  obtain ⟨_, _, fraction, exponent⟩ := numeral
  cases fraction <;> cases exponent <;> simp [datatype] <;> decide

theorem datatype_eq_decimal_iff (numeral : Numeral) :
    numeral.datatype = Rdf.decimalDatatype ↔ numeral.fraction ≠ none ∧ numeral.exponent = none := by
  obtain ⟨_, _, fraction, exponent⟩ := numeral
  cases fraction <;> cases exponent <;> simp [datatype] <;> decide

theorem datatype_eq_double_iff (numeral : Numeral) :
    numeral.datatype = Rdf.doubleDatatype ↔ numeral.exponent ≠ none := by
  obtain ⟨_, _, fraction, exponent⟩ := numeral
  cases fraction <;> cases exponent <;> simp [datatype] <;> decide

/-- No digit is a letter of an exponent or a point. -/
theorem any_digits {p : Char → Bool} (other : ∀ c, p c = true → Unicode.isDigit c = false)
    (digits : Digits) : digits.text.any p = false := by
  rw [List.any_eq_false]
  intro c member holds
  exact absurd (digits.digits c member) (by rw [other c holds]; exact Bool.false_ne_true)

theorem any_letter_digits (digits : Digits) :
    (digits.text.any fun c => c = 'e' || c = 'E') = false := by
  refine any_digits (fun c isLetter => ?_) digits
  rw [Bool.or_eq_true, decide_eq_true_eq, decide_eq_true_eq] at isLetter
  rcases isLetter with rfl | rfl <;> decide +kernel

theorem any_point_digits (digits : Digits) : digits.text.any (· = '.') = false := by
  refine any_digits (fun c isPoint => ?_) digits
  rw [of_decide_eq_true isPoint]
  decide +kernel

/-- **A numeral has the letter e exactly if it has an exponent.** -/
theorem any_letter_text (numeral : Numeral) :
    (numeral.text.any fun c => c = 'e' || c = 'E') = numeral.exponent.isSome := by
  obtain ⟨sign, whole, fraction, exponent⟩ := numeral
  have unsigned : (sign.text.any fun c => c = 'e' || c = 'E') = false := by
    cases sign <;> decide
  have behindPoint : ((fractionText fraction).any fun c => c = 'e' || c = 'E') = false := by
    cases fraction with
    | none => rfl
    | some digits => rw [fractionText, List.any_cons, any_letter_digits, Bool.or_false]; decide
  rw [text, unsignedText, List.any_append, List.any_append, List.any_append, unsigned,
    any_letter_digits, behindPoint, Bool.false_or, Bool.false_or, Bool.false_or]
  cases exponent with
  | none => rfl
  | some exponent =>
    have first : (exponent.letter = 'e' || exponent.letter = 'E' : Bool) = true := by
      rcases exponent.isLetter with same | same <;> rw [same] <;> decide
    rw [Option.map_some, Option.getD_some, Exponent.text, List.any_cons, first]
    rfl

/-- **A numeral without exponent has a point exactly if it has a fraction.** -/
theorem any_point_text {numeral : Numeral} (plain : numeral.exponent = none) :
    numeral.text.any (· = '.') = numeral.fraction.isSome := by
  obtain ⟨sign, whole, fraction, exponent⟩ := numeral
  obtain rfl : exponent = none := plain
  have unsigned : sign.text.any (· = '.') = false := by cases sign <;> decide
  rw [text, unsignedText, List.any_append, List.any_append, List.any_append, unsigned,
    any_point_digits, Bool.false_or, Bool.false_or]
  cases fraction <;> rfl

/-- **The datatype of a written numeral is told by its parts.** -/
theorem numberDatatype_text (numeral : Numeral) :
    Reading.numberDatatype numeral.text = numeral.datatype := by
  rw [Reading.numberDatatype, any_letter_text, datatype]
  cases exponent : numeral.exponent with
  | some found => rfl
  | none => rw [any_point_text exponent]

end Numeral

/-! ### What is read as a number -/

/-- The digits that a text begins with. -/
theorem exists_digits {text : List Char} (found : text.takeWhile Unicode.isDigit ≠ []) :
    ∃ digits : Digits, digits.text = text.takeWhile Unicode.isDigit :=
  ⟨⟨_, found, List.all_eq_true.mp List.all_takeWhile⟩, rfl⟩

theorem exists_fraction (text : List Char) :
    ∃ fraction, text.take (fractionExtent text) = Numeral.fractionText fraction := by
  unfold fractionExtent
  split
  · rename_i rest
    dsimp only
    split
    · exact ⟨none, rfl⟩
    · rename_i found
      obtain ⟨digits, same⟩ := exists_digits found
      refine ⟨some digits, ?_⟩
      rw [List.take_succ_cons, take_length_takeWhile, Numeral.fractionText, same]
  · exact ⟨none, rfl⟩

/-- The sign that a text begins with, where it is measured. -/
theorem exists_sign (text : List Char) :
    ∃ sign : Sign, text.take (if text.head? = some '+' ∨ text.head? = some '-' then 1 else 0) =
      sign.text := by
  cases text with
  | nil => exact ⟨.none, by rw [List.take_nil]; rfl⟩
  | cons c rest =>
    rw [List.head?_cons]
    by_cases plus : c = '+'
    · subst plus
      exact ⟨.plus, rfl⟩
    by_cases minus : c = '-'
    · subst minus
      exact ⟨.minus, rfl⟩
    · refine ⟨.none, ?_⟩
      rw [if_neg (by simp [plus, minus])]
      rfl

theorem exists_exponent (text : List Char) :
    ∃ exponent : Option Exponent,
      text.take (exponentExtent text) = (exponent.map Exponent.text).getD [] := by
  cases text with
  | nil => exact ⟨none, rfl⟩
  | cons c rest =>
    obtain ⟨sign, signed⟩ := exists_sign rest
    unfold exponentExtent
    dsimp only
    generalize (if rest.head? = some '+' ∨ rest.head? = some '-' then 1 else 0) = count at signed ⊢
    split
    · rename_i found
      obtain ⟨isLetter, nonempty⟩ := found
      obtain ⟨digits, same⟩ := exists_digits nonempty
      refine ⟨some ⟨c, isLetter, sign, digits⟩, ?_⟩
      rw [Nat.add_assoc, Nat.add_comm 1, List.take_succ_cons, List.take_add, take_length_takeWhile,
        signed, ← same]
      rfl
    · exact ⟨none, rfl⟩

/-- **What is read as a number is a numeral**, whatever sign stands before it. -/
theorem exists_numeral {text : List Char} (found : numberExtent text ≠ 0) (sign : Sign) :
    ∃ numeral : Numeral, numeral.text = sign.text ++ text.take (numberExtent text) := by
  unfold numberExtent at found ⊢
  dsimp only at found ⊢
  split at found
  · exact absurd rfl found
  · rename_i positive
    rw [if_neg positive]
    obtain ⟨whole, wholeText⟩ :=
      exists_digits (List.length_pos_iff.mp (Nat.pos_of_ne_zero positive))
    obtain ⟨fraction, fractionText⟩ :=
      exists_fraction (text.drop (text.takeWhile Unicode.isDigit).length)
    obtain ⟨exponent, exponentText⟩ := exists_exponent (text.drop
      ((text.takeWhile Unicode.isDigit).length +
        fractionExtent (text.drop (text.takeWhile Unicode.isDigit).length)))
    refine ⟨⟨sign, whole, fraction, exponent⟩, ?_⟩
    rw [List.take_add, List.take_add, take_length_takeWhile, fractionText, exponentText, ← wholeText,
      List.append_assoc]
    rfl

end HistoricalFigures.Turtle
