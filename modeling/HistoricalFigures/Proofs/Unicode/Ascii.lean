import HistoricalFigures.Unicode.Blank
import HistoricalFigures.Unicode.Digit
import HistoricalFigures.Unicode.Uppercase
import HistoricalFigures.Unicode.Word

/-!
**Plain letters and digits among the characters of every script.**

* `forall_mem_of_all`: what is so of the characters of a given text.
* `eq_true_of_ascii`: what holds of each of the first 128 characters, one after the other, holds of
  all of them.
* `isWord_of_isAlphanum`, `isBlank_of_isAlphanum`, `isDigit_of_isAlpha`: the classes that plain
  letters and digits belong to.
* `uppercase_of_ascii`: the upper case of plain characters.
* `IsInAnyCase`, `uppercase_of_isInAnyCase`: a word in capital or small letters has one upper case.
-/
namespace HistoricalFigures.Unicode

/-- What is so of the characters of a text is decided one after the other. There are too many
characters to decide it of all of them. -/
theorem forall_mem_of_all {p : Char → Prop} [DecidablePred p] {text : List Char}
    (each : text.all (fun c => decide (p c)) = true) : ∀ c ∈ text, p c :=
  fun c member => of_decide_eq_true (List.all_eq_true.mp each c member)

/-- A class that holds the first 128 characters one by one holds every character among them. -/
theorem eq_true_of_ascii {p : Char → Bool} (each : ∀ code < 128, p (Char.ofNat code) = true)
    {c : Char} (ascii : c.toNat < 128) : p c = true := by
  have here := each c.toNat ascii
  rwa [Char.ofNat_toNat] at here

theorem lt_of_isAlphanum {c : Char} (plain : c.isAlphanum = true) : c.toNat < 128 := by
  have below : ∀ last : Char, c.val ≤ last.val → last.toNat < 128 → c.toNat < 128 :=
    fun _ order ascii => Nat.lt_of_le_of_lt (UInt32.le_iff_toNat_le.mp order) ascii
  rcases Bool.or_eq_true_iff.mp plain with letter | digit
  · rcases Bool.or_eq_true_iff.mp letter with capital | small
    · exact below 'Z' (of_decide_eq_true capital).2 (by decide)
    · exact below 'z' (of_decide_eq_true (Bool.and_eq_true_iff.mp small).2) (by decide)
  · exact below '9' (of_decide_eq_true (Bool.and_eq_true_iff.mp digit).2) (by decide)

theorem eq_true_of_isAlphanum {p : Char → Bool}
    (each : ∀ code < 128, (!(Char.ofNat code).isAlphanum || p (Char.ofNat code)) = true)
    {c : Char} (plain : c.isAlphanum = true) : p c = true := by
  have here := eq_true_of_ascii (p := fun d => !d.isAlphanum || p d) each (lt_of_isAlphanum plain)
  simpa [plain] using here

theorem isWord_of_isAlphanum {c : Char} (plain : c.isAlphanum = true) : isWord c = true :=
  eq_true_of_isAlphanum (p := isWord) (by decide +kernel) plain

theorem isBlank_of_isAlphanum {c : Char} (plain : c.isAlphanum = true) : isBlank c = false := by
  have here := eq_true_of_isAlphanum (p := fun d => !isBlank d) (by decide +kernel) plain
  simpa using here

theorem isAlphanum_of_isAlpha {c : Char} (letter : c.isAlpha = true) : c.isAlphanum = true := by
  rw [Char.isAlphanum, letter, Bool.true_or]

theorem isAlphanum_of_isLower_or_isDigit {c : Char} (plain : (c.isLower || c.isDigit) = true) :
    c.isAlphanum = true := by
  rcases Bool.or_eq_true_iff.mp plain with small | digit
  · exact Bool.or_eq_true_iff.mpr (.inl (Bool.or_eq_true_iff.mpr (.inr small)))
  · exact Bool.or_eq_true_iff.mpr (.inr digit)

theorem isDigit_of_isAlpha {c : Char} (letter : c.isAlpha = true) : isDigit c = false := by
  have here := eq_true_of_isAlphanum (p := fun d => !(d.isAlpha && isDigit d)) (by decide +kernel)
    (isAlphanum_of_isAlpha letter)
  simpa [letter] using here

/-! ### Capital and small letters -/

/-- The upper case of plain characters. -/
theorem uppercase_of_ascii {text : List Char}
    (ascii : text.all (fun c => c.toNat < 128) = true) :
    uppercase text = text.map Char.toUpper := by
  have each : ∀ {c : Char}, c.toNat < 128 → uppercaseChar c = [c.toUpper] := fun small => by
    have here := eq_true_of_ascii (p := fun d => uppercaseChar d = [d.toUpper])
      (by decide +kernel) small
    simpa using here
  induction text with
  | nil => rfl
  | cons c rest found =>
    rw [List.all_cons, Bool.and_eq_true, decide_eq_true_eq] at ascii
    rw [List.map_cons, ← found ascii.2, uppercase, List.flatMap_cons, each ascii.1]
    rfl

/-- A text is a word in small letters, but for the case of its letters. -/
def IsInAnyCase (word text : List Char) : Prop := text.map Char.toLower = word

instance (word text : List Char) : Decidable (IsInAnyCase word text) :=
  inferInstanceAs (Decidable (_ = _))

/-- A character whose small letter is a plain one is a plain one. -/
theorem lt_of_toLower {c : Char} (ascii : c.toLower.toNat < 128) : c.toNat < 128 := by
  unfold Char.toLower at ascii
  split at ascii
  · rename_i capital
    have isUpper : c.isUpper = true := decide_eq_true capital
    exact lt_of_isAlphanum (Bool.or_eq_true_iff.mpr (.inl (Bool.or_eq_true_iff.mpr (.inl isUpper))))
  · exact ascii

theorem eq_or_eq_of_toLower {c letter : Char} (same : c.toLower = letter)
    (ascii : letter.toNat < 128) : c = letter ∨ c = letter.toUpper := by
  subst same
  have here := eq_true_of_ascii (p := fun d => d = d.toLower || d = d.toLower.toUpper)
    (by decide +kernel) (lt_of_toLower ascii)
  simpa using here

/-- A text consists of letters if the word does. -/
theorem isAlpha_of_isInAnyCase {word text : List Char} (same : IsInAnyCase word text)
    (letters : word.all Char.isAlpha = true) : ∀ c ∈ text, c.isAlpha = true := by
  subst same
  intro c member
  have small : c.toLower.isAlpha = true := List.all_eq_true.mp letters _ (List.mem_map_of_mem member)
  have here := eq_true_of_ascii (p := fun d => !d.toLower.isAlpha || d.isAlpha) (by decide +kernel)
    (lt_of_toLower (lt_of_isAlphanum (isAlphanum_of_isAlpha small)))
  simpa [small] using here

/-- **A word has one upper case**, whatever the case of its letters. -/
theorem uppercase_of_isInAnyCase {word text : List Char} (same : IsInAnyCase word text)
    (ascii : word.all (fun c => c.toNat < 128) = true) :
    uppercase text = word.map Char.toUpper := by
  subst same
  have each : ∀ c ∈ text, c.toNat < 128 := fun c member =>
    lt_of_toLower (of_decide_eq_true (List.all_eq_true.mp ascii _ (List.mem_map_of_mem member)))
  rw [uppercase_of_ascii (List.all_eq_true.mpr fun c member => decide_eq_true (each c member)),
    List.map_map]
  refine List.map_congr_left fun c member => ?_
  have here := eq_true_of_ascii (p := fun d => d.toUpper = d.toLower.toUpper) (by decide +kernel)
    (each c member)
  exact of_decide_eq_true here

end HistoricalFigures.Unicode
