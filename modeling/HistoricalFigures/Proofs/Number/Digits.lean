import Mathlib.Tactic.IntervalCases
import HistoricalFigures.Number.Hex
import HistoricalFigures.Number.Integer

/-!
**Written numbers are read back.**

* `readHex?_hexCapitals`: a value in capital hexadecimal digits is read back, whatever follows it.
* `exists_readHex?`, `exists_of_readHex?`: digits of the given number are read, and nothing else is.
* `natText_injective`: different numbers have different plain digits.
-/
namespace HistoricalFigures.Number

/-! ### Hexadecimal digits -/

theorem hexValue?_digitChar {value : Nat} (small : value < 16) :
    hexValue? (Nat.digitChar value).toUpper = some value := by
  interval_cases value <;> rfl

/-- Reading digits in two stretches, the second one behind the value of the first one. -/
theorem readHexAfter?_append (done count : Nat) (first rest : List Char) :
    readHexAfter? done (first.length + count) (first ++ rest) =
      (readHexAfter? done first.length first).bind fun value => readHexAfter? value count rest := by
  induction first generalizing done with
  | nil => simp [readHexAfter?]
  | cons c later found =>
    rw [List.length_cons, Nat.add_right_comm, List.cons_append, readHexAfter?, readHexAfter?]
    cases hexValue? c with
    | none => rfl
    | some value => exact found (done * 16 + value)

/-- What follows the digits does not count. -/
theorem readHex?_append (digits rest : List Char) :
    readHex? digits.length (digits ++ rest) = readHex? digits.length digits := by
  have parted := readHexAfter?_append 0 0 digits rest
  rw [Nat.add_zero] at parted
  exact parted.trans (Option.bind_fun_some _)

/-- **Hexadecimal digits have a value**, whatever follows them. -/
theorem exists_readHex? {digits : List Char} (hex : ∀ c ∈ digits, isHexDigit c = true)
    (rest : List Char) : ∃ value, readHex? digits.length (digits ++ rest) = some value := by
  suffices ∀ done, ∃ value, readHexAfter? done digits.length (digits ++ rest) = some value from this 0
  induction digits with
  | nil => exact fun done => ⟨done, rfl⟩
  | cons c later found =>
    intro done
    obtain ⟨digit, isDigit⟩ := Option.isSome_iff_exists.mp (hex c List.mem_cons_self)
    obtain ⟨value, reads⟩ := found (fun d member => hex d (List.mem_cons_of_mem c member))
      (done * 16 + digit)
    exact ⟨value, by rw [List.length_cons, List.cons_append, readHexAfter?, isDigit]; exact reads⟩

/-- **What is read as hexadecimal digits consists of them.** -/
theorem exists_of_readHex? {count value : Nat} {text : List Char}
    (reads : readHex? count text = some value) :
    ∃ digits rest, text = digits ++ rest ∧ digits.length = count ∧
      ∀ c ∈ digits, isHexDigit c = true := by
  unfold readHex? at reads
  generalize 0 = done at reads
  induction count generalizing done text with
  | zero => exact ⟨[], text, rfl, rfl, fun _ member => absurd member List.not_mem_nil⟩
  | succ count found =>
    cases text with
    | nil => cases reads
    | cons c later =>
      obtain ⟨digit, isDigit, reads⟩ := Option.bind_eq_some_iff.mp reads
      obtain ⟨digits, rest, rfl, length, hex⟩ := found _ reads
      refine ⟨c :: digits, rest, rfl, by rw [List.length_cons, length], ?_⟩
      exact List.forall_mem_cons.mpr ⟨Option.isSome_iff_exists.mpr ⟨digit, isDigit⟩, hex⟩

/-- One more place, the digit of the remainder behind the digits of the quotient. -/
theorem hexText_succ {width : Nat} (positive : 0 < width) (value : Nat) :
    hexText (width + 1) value = hexText width (value / 16) ++ [Nat.digitChar (value % 16)] := by
  unfold hexText padZeros
  by_cases small : value < 16
  · have quotient : value / 16 = 0 := Nat.div_eq_of_lt small
    rw [quotient, Nat.mod_eq_of_lt small, Nat.toDigits_of_lt_base small, Nat.toDigits_zero]
    have padded : List.replicate width '0' = List.replicate (width - 1) '0' ++ ['0'] := by
      rw [← List.replicate_succ', Nat.sub_add_cancel positive]
    simp only [List.length_cons, List.length_nil, Nat.add_sub_cancel, ← padded]
  · rw [Nat.toDigits_of_base_le (by decide) (Nat.le_of_not_lt small), List.length_append,
      List.length_singleton, Nat.add_sub_add_right, List.append_assoc]

theorem length_hexCapitals {width value : Nat} (positive : 0 < width) (fits : value < 16 ^ width) :
    (hexCapitals width value).length = width := by
  have short := (Nat.length_toDigits_le_iff (by decide) positive).mpr fits
  simp only [hexCapitals, hexText, padZeros, List.length_map, List.length_append,
    List.length_replicate]
  omega

/-- **A value in capital hexadecimal digits is read back.** -/
theorem readHex?_hexCapitals {width value : Nat} (positive : 0 < width) (fits : value < 16 ^ width)
    (rest : List Char) : readHex? width (hexCapitals width value ++ rest) = some value := by
  induction width generalizing value rest with
  | zero => exact absurd positive (Nat.lt_irrefl 0)
  | succ width found =>
    rcases Nat.eq_zero_or_pos width with rfl | wider
    · have digits : hexCapitals 1 value = [(Nat.digitChar value).toUpper] := by
        simp [hexCapitals, hexText, padZeros, Nat.toDigits_of_lt_base (by simpa using fits)]
      rw [digits, List.singleton_append, readHex?, readHexAfter?,
        hexValue?_digitChar (by simpa using fits)]
      simp [readHexAfter?]
    · have quotient : value / 16 < 16 ^ width :=
        Nat.div_lt_of_lt_mul (by rw [← Nat.pow_succ']; exact fits)
      have digits : hexCapitals (width + 1) value =
          hexCapitals width (value / 16) ++ [(Nat.digitChar (value % 16)).toUpper] := by
        rw [hexCapitals, hexText_succ wider, List.map_append, List.map_singleton, hexCapitals]
      have length := length_hexCapitals wider quotient
      have front := found wider quotient []
      rw [List.append_nil, readHex?] at front
      have read := readHexAfter?_append 0 1 (hexCapitals width (value / 16))
        ((Nat.digitChar (value % 16)).toUpper :: rest)
      rw [length, front, Option.bind_some, readHexAfter?,
        hexValue?_digitChar (Nat.mod_lt value (by decide)), Option.bind_some, readHexAfter?] at read
      rw [readHex?, digits, List.append_assoc, List.singleton_append, read]
      congr 1
      omega

theorem isHexDigit_of_readHexAfter? {done value : Nat} {digits : List Char}
    (found : readHexAfter? done digits.length digits = some value) :
    ∀ c ∈ digits, isHexDigit c = true := by
  induction digits generalizing done with
  | nil => exact fun c member => absurd member List.not_mem_nil
  | cons first later each =>
    rw [List.length_cons, readHexAfter?] at found
    obtain ⟨digit, known, rest⟩ := Option.bind_eq_some_iff.mp found
    exact List.forall_mem_cons.mpr ⟨by rw [isHexDigit, known]; rfl, each rest⟩

theorem isHexDigit_of_mem_hexCapitals {width value : Nat} (positive : 0 < width)
    (fits : value < 16 ^ width) : ∀ c ∈ hexCapitals width value, isHexDigit c = true := by
  have read := readHex?_hexCapitals positive fits []
  rw [List.append_nil, readHex?] at read
  apply @isHexDigit_of_readHexAfter? 0 value
  rw [length_hexCapitals positive fits]
  exact read

/-! ### Plain digits -/

theorem natText_injective : Function.Injective natText := by
  intro first second same
  have values := congrArg (fun digits => Nat.ofDigitChars 10 digits 0) same
  simpa only [natText, Nat.ofDigitChars_toDigits (by decide : 1 < 10) (le_refl 10)] using values

end HistoricalFigures.Number
