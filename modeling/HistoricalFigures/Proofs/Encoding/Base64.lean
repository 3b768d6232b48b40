import HistoricalFigures.Encoding.Base64
import Mathlib.Algebra.Group.Nat.Defs
import Mathlib.Data.List.Basic
import Mathlib.Tactic.Common

/-!
**Base64 texts and the octets that they stand for.** The characters of a text are groups of six bits;
read one after the other, and without those that only fill up the last group, they are the bits of the
octets.

* `bits`: the binary digits of a number, and `bits_append`, how those of two numbers stand in a row.
* `IsEncoding`: a text stands for octets. This is told by bits, and not by groups of characters.
* `isEncoding_encode`: a written text stands for the octets that it was written for.
* `IsEncoding.decodeGroups?`, `exists_of_decodeGroups?`: what is read is what a text stands for.
* `decode?_eq_some_iff`: the texts that are read are those that stand for octets, and those of them
  without padding with some groups of padding behind them (`IsReadable`).
-/
namespace HistoricalFigures.Base64

/-! ### Bits -/

/-- The last binary digits of a number, as many as given. -/
def bits : Nat → Nat → List Bool
  | 0, _ => []
  | width + 1, value => bits width (value / 2) ++ [decide (value % 2 = 1)]

@[simp] theorem length_bits (width value : Nat) : (bits width value).length = width := by
  induction width generalizing value with
  | zero => rfl
  | succ width found => rw [bits, List.length_append, found, List.length_singleton]

/-- **The digits of two numbers in a row** are those of one number. -/
theorem bits_append (front back high : Nat) {low : Nat} (fits : low < 2 ^ back) :
    bits front high ++ bits back low = bits (front + back) (high * 2 ^ back + low) := by
  induction back generalizing low with
  | zero =>
    obtain rfl : low = 0 := Nat.lt_one_iff.mp fits
    rw [bits, List.append_nil, Nat.pow_zero, Nat.mul_one, Nat.add_zero, Nat.add_zero]
  | succ back found =>
    rw [Nat.pow_succ] at fits ⊢
    have half : (high * (2 ^ back * 2) + low) / 2 = high * 2 ^ back + low / 2 := by
      rw [← Nat.mul_assoc]
      omega
    have last : (high * (2 ^ back * 2) + low) % 2 = low % 2 := by
      rw [← Nat.mul_assoc]
      omega
    rw [bits, ← List.append_assoc, found (by omega), ← Nat.add_assoc, bits, half, last]

/-- Digits tell a number. -/
theorem bits_injective {width first second : Nat} (fitsFirst : first < 2 ^ width)
    (fitsSecond : second < 2 ^ width) (same : bits width first = bits width second) :
    first = second := by
  induction width generalizing first second with
  | zero => omega
  | succ width found =>
    rw [Nat.pow_succ] at fitsFirst fitsSecond
    obtain ⟨front, back⟩ := List.append_inj same (by rw [length_bits, length_bits])
    have halves := found (by omega) (by omega) front
    have parity := decide_eq_decide.mp (List.cons.inj back).1
    omega

/-- The bits of octets. -/
def octetBits (octets : List UInt8) : List Bool := octets.flatMap fun octet => bits 8 octet.toNat

/-- The bits of sextets. -/
def sextetBits (sextets : List Nat) : List Bool := sextets.flatMap (bits 6)

theorem octetBits_append (first second : List UInt8) :
    octetBits (first ++ second) = octetBits first ++ octetBits second :=
  List.flatMap_append

@[simp] theorem length_octetBits (octets : List UInt8) :
    (octetBits octets).length = 8 * octets.length := by
  induction octets with
  | nil => rfl
  | cons octet later found =>
    rw [octetBits, List.flatMap_cons, List.length_append, length_bits, List.length_cons]
    rw [octetBits] at found
    omega

@[simp] theorem length_sextetBits (sextets : List Nat) :
    (sextetBits sextets).length = 6 * sextets.length := by
  induction sextets with
  | nil => rfl
  | cons sextet later found =>
    rw [sextetBits, List.flatMap_cons, List.length_append, length_bits, List.length_cons]
    rw [sextetBits] at found
    omega

/-- Bits tell octets. -/
theorem octetBits_injective {first second : List UInt8} (same : octetBits first = octetBits second) :
    first = second := by
  have length : first.length = second.length := by
    have bitsLength := congrArg List.length same
    rw [length_octetBits, length_octetBits] at bitsLength
    omega
  induction first generalizing second with
  | nil => exact (List.length_eq_zero_iff.mp length.symm).symm
  | cons octet later found =>
    cases second with
    | nil => cases length
    | cons other more =>
      obtain ⟨here, behind⟩ := List.append_inj same (by rw [length_bits, length_bits])
      rw [UInt8.toNat_inj.mp (bits_injective octet.toNat_lt other.toNat_lt here),
        found behind (Nat.succ.inj length)]

/-- **Four sextets are three octets.** -/
theorem sextetBits_eq_octetBits {a b c d : Nat} (fitsA : a < 64) (fitsB : b < 64) (fitsC : c < 64)
    (fitsD : d < 64) : sextetBits [a, b, c, d] = octetBits (octets a b c d) := by
  have cutB : bits 6 b = bits 2 (b / 16) ++ bits 4 (b % 16) := by
    rw [bits_append 2 4 (b / 16) (show b % 16 < 2 ^ 4 by omega),
      show b / 16 * 2 ^ 4 + b % 16 = b by omega]
  have cutC : bits 6 c = bits 4 (c / 4) ++ bits 2 (c % 4) := by
    rw [bits_append 4 2 (c / 4) (show c % 4 < 2 ^ 2 by omega),
      show c / 4 * 2 ^ 2 + c % 4 = c by omega]
  have octet : ∀ value < 256, (UInt8.ofNat value).toNat = value := fun value fits =>
    UInt8.toNat_ofNat_of_lt' fits
  have first : bits 6 a ++ bits 2 (b / 16) = bits 8 (UInt8.ofNat (a * 4 + b / 16)).toNat := by
    rw [octet _ (by omega)]
    exact bits_append 6 2 a (show b / 16 < 2 ^ 2 by omega)
  have second : bits 4 (b % 16) ++ bits 4 (c / 4) =
      bits 8 (UInt8.ofNat (b % 16 * 16 + c / 4)).toNat := by
    rw [octet _ (by omega)]
    exact bits_append 4 4 (b % 16) (show c / 4 < 2 ^ 4 by omega)
  have third : bits 2 (c % 4) ++ bits 6 d = bits 8 (UInt8.ofNat (c % 4 * 64 + d)).toNat := by
    rw [octet _ (by omega)]
    exact bits_append 2 6 (c % 4) (show d < 2 ^ 6 by omega)
  simp only [sextetBits, octetBits, octets, List.flatMap_cons, List.flatMap_nil, List.append_nil, cutB,
    cutC, ← first, ← second, ← third, List.append_assoc]

/-! ### Symbols -/

theorem lt_of_sextet? {c : Char} {value : Nat} (stands : sextet? c = some value) : value < 64 := by
  have upTo : ∀ first last : Char, first ≤ c ∧ c ≤ last → first.toNat ≤ c.toNat ∧ c.toNat ≤ last.toNat :=
    fun first last within => ⟨UInt32.le_iff_toNat_le.mp within.1, UInt32.le_iff_toNat_le.mp within.2⟩
  unfold sextet? at stands
  split at stands
  · have range := upTo 'A' 'Z' ‹_›
    have value_eq := Option.some.inj stands
    simp only [Char.reduceToNat] at range
    omega
  split at stands
  · have range := upTo 'a' 'z' ‹_›
    have value_eq := Option.some.inj stands
    simp only [Char.reduceToNat] at range
    omega
  split at stands
  · have range := upTo '0' '9' ‹_›
    have value_eq := Option.some.inj stands
    simp only [Char.reduceToNat] at range
    omega
  split at stands
  · cases stands
    decide
  split at stands
  · cases stands
    decide
  · cases stands

theorem sextet?_sextetChar {value : Nat} (fits : value < 64) :
    sextet? (sextetChar value) = some value := by
  have each : ∀ value < 64, sextet? (sextetChar value) = some value := by decide
  exact each value fits

theorem ne_of_sextet? {c : Char} {value : Nat} (stands : sextet? c = some value) : c ≠ '=' := by
  rintro rfl
  cases stands

theorem isSymbol_of_sextet? {c : Char} {value : Nat} (stands : sextet? c = some value) :
    isSymbol c = true := by
  rw [isSymbol, stands]
  rfl

/-! ### Texts that stand for octets -/

/-- A text stands for octets: it is made up of symbols and of padding, and the bits of the symbols are
those of the octets and two more for each character of padding, of which there are at most two. -/
def IsEncoding (text : List Char) (octets : List UInt8) : Prop :=
  ∃ symbols sextets padding filler, text = symbols ++ List.replicate padding '=' ∧
    symbols.map sextet? = sextets.map some ∧ padding ≤ 2 ∧ filler.length = 2 * padding ∧
      sextetBits sextets = octetBits octets ++ filler

theorem isEncoding_nil : IsEncoding [] [] := ⟨[], [], 0, [], rfl, rfl, Nat.zero_le 2, rfl, rfl⟩

/-- The symbols of sextets are characters that stand for them. -/
theorem length_eq_of_map_sextet? {symbols : List Char} {sextets : List Nat}
    (stand : symbols.map sextet? = sextets.map some) : symbols.length = sextets.length := by
  have length := congrArg List.length stand
  rwa [List.length_map, List.length_map] at length

theorem exists_sextet?_of_mem {symbols : List Char} {sextets : List Nat}
    (stand : symbols.map sextet? = sextets.map some) :
    ∀ c ∈ symbols, ∃ value, sextet? c = some value := by
  intro c member
  have inside : sextet? c ∈ sextets.map some := stand ▸ List.mem_map_of_mem member
  obtain ⟨value, _, same⟩ := List.mem_map.mp inside
  exact ⟨value, same.symm⟩

/-- Such a text consists of whole groups of four symbols. -/
theorem IsEncoding.length_mod {text : List Char} {octets : List UInt8}
    (isEncoding : IsEncoding text octets) : text.length % 4 = 0 := by
  obtain ⟨symbols, sextets, padding, filler, rfl, stand, _, length, same⟩ := isEncoding
  have count := length_eq_of_map_sextet? stand
  have bitsLength := congrArg List.length same
  rw [length_sextetBits, List.length_append, length_octetBits, length] at bitsLength
  rw [List.length_append, List.length_replicate]
  omega

/-- Nothing but the empty text stands for no octets. -/
theorem IsEncoding.eq_nil {text : List Char} (isEncoding : IsEncoding text []) : text = [] := by
  obtain ⟨symbols, sextets, padding, filler, rfl, stand, atMost, length, same⟩ := isEncoding
  have count := length_eq_of_map_sextet? stand
  have bitsLength := congrArg List.length same
  rw [length_sextetBits, List.length_append, length_octetBits, length, List.length_nil] at bitsLength
  obtain ⟨rfl, none⟩ : padding = 0 ∧ symbols.length = 0 := by omega
  rw [List.length_eq_zero_iff.mp none]
  rfl

theorem IsEncoding.isSymbol {text : List Char} {octets : List UInt8}
    (isEncoding : IsEncoding text octets) : ∀ c ∈ text, isSymbol c = true := by
  obtain ⟨symbols, sextets, padding, filler, rfl, stand, _⟩ := isEncoding
  intro c member
  rcases List.mem_append.mp member with inside | behind
  · obtain ⟨value, stands⟩ := exists_sextet?_of_mem stand c inside
    exact isSymbol_of_sextet? stands
  · rw [List.eq_of_mem_replicate behind]
    decide

/-- There are fewer octets than characters. -/
theorem IsEncoding.length_lt {text : List Char} {octets : List UInt8}
    (isEncoding : IsEncoding text octets) (nonempty : text ≠ []) : octets.length < text.length := by
  obtain ⟨symbols, sextets, padding, filler, rfl, stand, _, length, same⟩ := isEncoding
  have count := length_eq_of_map_sextet? stand
  have bitsLength := congrArg List.length same
  rw [length_sextetBits, List.length_append, length_octetBits, length] at bitsLength
  have positive := List.length_pos_of_ne_nil nonempty
  rw [List.length_append, List.length_replicate] at positive ⊢
  omega

/-- **Up to two of the last sextets of a group may be left out** where they are zero, and padding stands
for them. -/
theorem isEncoding_padded {symbols : List Char} {sextets : List Nat} {padding p q r s : Nat}
    (stand : symbols.map sextet? = sextets.map some) (atMost : padding ≤ 2)
    (group : sextets ++ List.replicate padding 0 = [p, q, r, s])
    (fits : p < 64 ∧ q < 64 ∧ r < 64 ∧ s < 64) :
    IsEncoding (symbols ++ List.replicate padding '=') ((octets p q r s).take (3 - padding)) := by
  have four := sextetBits_eq_octetBits fits.1 fits.2.1 fits.2.2.1 fits.2.2.2
  rw [← List.take_append_drop (3 - padding) (octets p q r s), octetBits_append] at four
  have split : sextetBits [p, q, r, s] = sextetBits sextets ++ sextetBits (List.replicate padding 0) := by
    rw [← group]
    exact List.flatMap_append
  have count := congrArg List.length group
  rw [List.length_append, List.length_replicate, show [p, q, r, s].length = 4 from rfl] at count
  have taken : ((octets p q r s).take (3 - padding)).length = 3 - padding := by
    rw [List.length_take, show (octets p q r s).length = 3 from rfl]
    omega
  -- The octets end before the sextets do, at the place where only the filling is left.
  have within : octetBits ((octets p q r s).take (3 - padding)) <+: sextetBits sextets := by
    refine List.prefix_of_prefix_length_le ⟨_, four.symm⟩ ⟨_, split.symm⟩ ?_
    rw [length_octetBits, length_sextetBits, taken]
    omega
  obtain ⟨filler, same⟩ := within
  refine ⟨symbols, sextets, padding, filler, rfl, stand, atMost, ?_, same.symm⟩
  have length := congrArg List.length same
  rw [List.length_append, length_octetBits, length_sextetBits, taken] at length
  omega

section Groups

variable {a b c d : Char} {p q r s : Nat} (standsA : sextet? a = some p) (standsB : sextet? b = some q)
include standsA standsB

/-- **Four symbols may stand before a text** that stands for octets. -/
theorem IsEncoding.group (standsC : sextet? c = some r) (standsD : sextet? d = some s)
    {rest : List Char} {more : List UInt8} (later : IsEncoding rest more) :
    IsEncoding (a :: b :: c :: d :: rest) (octets p q r s ++ more) := by
  obtain ⟨symbols, sextets, padding, filler, rfl, stand, atMost, length, same⟩ := later
  refine ⟨a :: b :: c :: d :: symbols, p :: q :: r :: s :: sextets, padding, filler, rfl, ?_, atMost,
    length, ?_⟩
  · simp only [List.map_cons, standsA, standsB, standsC, standsD, stand]
  · have four := sextetBits_eq_octetBits (lt_of_sextet? standsA) (lt_of_sextet? standsB)
      (lt_of_sextet? standsC) (lt_of_sextet? standsD)
    rw [octetBits_append, ← four, List.append_assoc, ← same]
    exact @List.flatMap_append _ _ [p, q, r, s] _ _

/-- Three symbols stand for two octets. -/
theorem isEncoding_three (standsC : sextet? c = some r) :
    IsEncoding [a, b, c, '='] ((octets p q r 0).take 2) :=
  @isEncoding_padded [a, b, c] [p, q, r] 1 p q r 0
    (by simp only [List.map_cons, List.map_nil, standsA, standsB, standsC]) (by decide) rfl
    ⟨lt_of_sextet? standsA, lt_of_sextet? standsB, lt_of_sextet? standsC, by decide⟩

/-- Two symbols stand for one octet. -/
theorem isEncoding_two : IsEncoding [a, b, '=', '='] ((octets p q 0 0).take 1) :=
  @isEncoding_padded [a, b] [p, q] 2 p q 0 0
    (by simp only [List.map_cons, List.map_nil, standsA, standsB]) (by decide) rfl
    ⟨lt_of_sextet? standsA, lt_of_sextet? standsB, by decide, by decide⟩

end Groups

/-! ### Writing -/

/-- The octets of the sextets that three octets are written with. -/
theorem octets_of_octets (a b c : UInt8) :
    octets (a.toNat / 4) (a.toNat % 4 * 16 + b.toNat / 16) (b.toNat % 16 * 4 + c.toNat / 64)
      (c.toNat % 64) = [a, b, c] := by
  have first := a.toNat_lt
  have second := b.toNat_lt
  have third := c.toNat_lt
  have atFirst : a.toNat / 4 * 4 + (a.toNat % 4 * 16 + b.toNat / 16) / 16 = a.toNat := by omega
  have atSecond : (a.toNat % 4 * 16 + b.toNat / 16) % 16 * 16 + (b.toNat % 16 * 4 + c.toNat / 64) / 4 =
      b.toNat := by omega
  have atThird : (b.toNat % 16 * 4 + c.toNat / 64) % 4 * 64 + c.toNat % 64 = c.toNat := by omega
  rw [octets, atFirst, atSecond, atThird, UInt8.ofNat_toNat, UInt8.ofNat_toNat, UInt8.ofNat_toNat]

/-- **A written text stands for the octets** that it was written for. -/
theorem isEncoding_encode (written : List UInt8) : IsEncoding (encode written) written := by
  induction written using encode.induct with
  | case1 => exact isEncoding_nil
  | case2 a =>
    have first := a.toNat_lt
    have whole := octets_of_octets a 0 0
    have stands := isEncoding_two (@sextet?_sextetChar (a.toNat / 4) (by omega))
      (@sextet?_sextetChar (a.toNat % 4 * 16) (by omega))
    simp only [UInt8.toNat_zero, Nat.zero_div, Nat.zero_mod, Nat.zero_mul, Nat.add_zero] at whole
    rwa [whole] at stands
  | case3 a b =>
    have first := a.toNat_lt
    have second := b.toNat_lt
    have whole := octets_of_octets a b 0
    have stands := isEncoding_three (@sextet?_sextetChar (a.toNat / 4) (by omega))
      (@sextet?_sextetChar (a.toNat % 4 * 16 + b.toNat / 16) (by omega))
      (@sextet?_sextetChar (b.toNat % 16 * 4) (by omega))
    simp only [UInt8.toNat_zero, Nat.zero_div, Nat.zero_mod, Nat.add_zero] at whole
    rwa [whole] at stands
  | case4 a b c rest found =>
    have first := a.toNat_lt
    have second := b.toNat_lt
    have third := c.toNat_lt
    have stands := found.group (@sextet?_sextetChar (a.toNat / 4) (by omega))
      (@sextet?_sextetChar (a.toNat % 4 * 16 + b.toNat / 16) (by omega))
      (@sextet?_sextetChar (b.toNat % 16 * 4 + c.toNat / 64) (by omega))
      (@sextet?_sextetChar (c.toNat % 64) (by omega))
    rwa [octets_of_octets] at stands

/-! ### Reading -/

/-- Symbols and padding are told apart in a row of both. -/
theorem symbols_unique {symbols others : List Char} {padding more : Nat}
    (stand : ∀ c ∈ symbols, c ≠ '=') (standToo : ∀ c ∈ others, c ≠ '=')
    (same : symbols ++ List.replicate padding '=' = others ++ List.replicate more '=') :
    symbols = others ∧ padding = more := by
  have taken : ∀ (text : List Char) (count : Nat), (∀ c ∈ text, c ≠ '=') →
      (text ++ List.replicate count '=').takeWhile (· ≠ '=') = text := by
    intro text count none
    rw [List.takeWhile_append_of_pos fun c member => decide_eq_true (none c member)]
    cases count with
    | zero => rw [List.replicate_zero, List.takeWhile_nil, List.append_nil]
    | succ count =>
      rw [List.replicate_succ, List.takeWhile_cons_of_neg (by decide), List.append_nil]
  have texts : symbols = others := by
    rw [← taken symbols padding stand, same, taken others more standToo]
  subst texts
  have length := congrArg List.length (List.append_cancel_left same)
  rw [List.length_replicate, List.length_replicate] at length
  exact ⟨rfl, length⟩

/-- **A text stands for one list of octets at most**, also with groups of padding behind it. -/
theorem IsEncoding.unique {text other : List Char} {found others : List UInt8} {excess more : Nat}
    (isEncoding : IsEncoding text found) (again : IsEncoding other others)
    (same : text ++ List.replicate (4 * excess) '=' = other ++ List.replicate (4 * more) '=') :
    found = others := by
  obtain ⟨symbols, sextets, padding, filler, rfl, stand, atMost, length, bitsSame⟩ := isEncoding
  obtain ⟨symbols', sextets', padding', filler', rfl, stand', atMost', length', bitsSame'⟩ := again
  rw [List.append_assoc, List.append_assoc, List.replicate_append_replicate,
    List.replicate_append_replicate] at same
  have none : ∀ {symbols : List Char} {sextets : List Nat}, symbols.map sextet? = sextets.map some →
      ∀ c ∈ symbols, c ≠ '=' := fun stand c member =>
    ne_of_sextet? (exists_sextet?_of_mem stand c member).choose_spec
  obtain ⟨rfl, count⟩ := symbols_unique (none stand) (none stand') same
  obtain rfl : sextets = sextets' :=
    (List.map_inj_right fun _ _ => Option.some.inj).mp (stand.symm.trans stand')
  obtain ⟨bitsFound, _⟩ := List.append_inj' (bitsSame.symm.trans bitsSame') (by omega)
  exact octetBits_injective bitsFound

/-- Whole groups of symbols and of padding are read if padding takes up two characters at most, or
whole groups. -/
theorem decodeGroups?_isSome (symbols : List Char) {padding : Nat}
    (stand : ∀ c ∈ symbols, ∃ value, sextet? c = some value)
    (whole : (symbols.length + padding) % 4 = 0) (padded : padding ≤ 2 ∨ padding % 4 = 0) :
    (decodeGroups? (symbols ++ List.replicate padding '=')).isSome = true := by
  match symbols with
  | [] =>
    rw [List.length_nil, Nat.zero_add] at whole
    obtain ⟨groups, rfl⟩ := Nat.dvd_of_mod_eq_zero whole
    cases groups with
    | zero => rfl
    | succ groups =>
      have padding : List.replicate (4 * (groups + 1)) '=' =
          '=' :: '=' :: '=' :: '=' :: List.replicate (4 * groups) '=' := rfl
      have all : (List.replicate (4 * groups) '=').all (· == '=') = true := by
        rw [List.all_eq_true]
        intro c member
        rw [List.eq_of_mem_replicate member]
        rfl
      rw [List.nil_append, padding, decodeGroups?]
      simp [sextet?, all]
  | [_] =>
    rw [List.length_singleton] at whole
    omega
  | [a, b] =>
    obtain rfl : padding = 2 := by
      rw [show [a, b].length = 2 from rfl] at whole
      omega
    obtain ⟨p, standsA⟩ := stand a (by simp)
    obtain ⟨q, standsB⟩ := stand b (by simp)
    simp [decodeGroups?, standsA, standsB, show sextet? '=' = none from rfl]
  | [a, b, c] =>
    obtain rfl : padding = 1 := by
      rw [show [a, b, c].length = 3 from rfl] at whole
      omega
    obtain ⟨p, standsA⟩ := stand a (by simp)
    obtain ⟨q, standsB⟩ := stand b (by simp)
    obtain ⟨r, standsC⟩ := stand c (by simp)
    simp [decodeGroups?, standsA, standsB, standsC, show sextet? '=' = none from rfl]
  | a :: b :: c :: d :: rest =>
    obtain ⟨p, standsA⟩ := stand a (by simp)
    obtain ⟨q, standsB⟩ := stand b (by simp)
    obtain ⟨r, standsC⟩ := stand c (by simp)
    obtain ⟨s, standsD⟩ := stand d (by simp)
    have later : (decodeGroups? (rest ++ List.replicate padding '=')).isSome = true :=
      decodeGroups?_isSome rest (fun c member => stand c (by simp [member]))
        (by simp only [List.length_cons] at whole; omega) padded
    simpa [decodeGroups?, standsA, standsB, standsC, standsD] using later

/-- **What is read is what a text stands for**, which may have groups of padding behind it if it has no
padding of its own. -/
theorem exists_of_decodeGroups? {text : List Char} {found : List UInt8}
    (whole : text.length % 4 = 0) (read : decodeGroups? text = some found) :
    ∃ written excess, text = written ++ List.replicate (4 * excess) '=' ∧ IsEncoding written found ∧
      (excess = 0 ∨ '=' ∉ written) := by
  fun_induction decodeGroups? text generalizing found
  case case1 =>
    cases read
    exact ⟨[], 0, rfl, isEncoding_nil, .inl rfl⟩
  case case2 rest _ _ _ _ standsD standsC standsB standsA induct =>
    obtain ⟨more, readMore, rfl⟩ := Option.map_eq_some_iff.mp read
    simp only [List.length_cons] at whole
    obtain ⟨written, excess, rfl, isEncoding, apart⟩ := induct (by omega) readMore
    refine ⟨_ :: _ :: _ :: _ :: written, excess, rfl,
      isEncoding.group standsA standsB standsC standsD, apart.imp_right fun absent member => ?_⟩
    simp only [List.mem_cons] at member
    rcases member with here | here | here | here | inside
    · exact ne_of_sextet? standsA here.symm
    · exact ne_of_sextet? standsB here.symm
    · exact ne_of_sextet? standsC here.symm
    · exact ne_of_sextet? standsD here.symm
    · exact absent inside
  case case3 standsC standsB standsA padded =>
    obtain ⟨rfl, rfl⟩ := padded
    cases read
    exact ⟨_, 0, (List.append_nil _).symm, isEncoding_three standsA standsB standsC, .inl rfl⟩
  case case5 standsB standsA padded =>
    obtain ⟨rfl, rfl, rfl⟩ := padded
    cases read
    exact ⟨_, 0, (List.append_nil _).symm, isEncoding_two standsA standsB, .inl rfl⟩
  case case7 a b c d rest all _ _ _ =>
    cases read
    have padding := List.eq_replicate_of_mem fun e member => eq_of_beq (List.all_eq_true.mp all e member)
    refine ⟨[], (a :: b :: c :: d :: rest).length / 4, ?_, isEncoding_nil, .inr List.not_mem_nil⟩
    rw [List.nil_append, Nat.mul_div_cancel' (Nat.dvd_of_mod_eq_zero whole)]
    exact padding
  all_goals cases read

/-- A text that stands for octets begins with no padding. -/
theorem IsEncoding.head?_ne {text : List Char} {found : List UInt8}
    (isEncoding : IsEncoding text found) : text.head? ≠ some '=' := by
  obtain ⟨symbols, sextets, padding, filler, rfl, stand, _, length, same⟩ := isEncoding
  cases symbols with
  | nil =>
    cases sextets with
    | nil =>
      have none := congrArg List.length same
      rw [List.length_append, length, length_sextetBits, List.length_nil] at none
      obtain rfl : padding = 0 := by omega
      simp
    | cons => cases stand
  | cons c rest =>
    intro same
    obtain ⟨value, stands⟩ := exists_sextet?_of_mem stand c List.mem_cons_self
    exact ne_of_sextet? stands (Option.some.inj same)

/-- **Every text that stands for octets is read**, also with groups of padding behind it if it has no
padding of its own. -/
theorem IsEncoding.decodeGroups? {text : List Char} {found : List UInt8} {excess : Nat}
    (isEncoding : IsEncoding text found) (apart : excess = 0 ∨ '=' ∉ text) :
    Base64.decodeGroups? (text ++ List.replicate (4 * excess) '=') = some found := by
  have whole : (text ++ List.replicate (4 * excess) '=').length % 4 = 0 := by
    have length := isEncoding.length_mod
    rw [List.length_append, List.length_replicate]
    omega
  have some : (Base64.decodeGroups? (text ++ List.replicate (4 * excess) '=')).isSome = true := by
    obtain ⟨symbols, sextets, padding, filler, rfl, stand, atMost, _⟩ := id isEncoding
    rw [List.append_assoc, List.replicate_append_replicate] at whole ⊢
    refine decodeGroups?_isSome symbols (exists_sextet?_of_mem stand) ?_ ?_
    · rwa [List.length_append, List.length_replicate] at whole
    · rcases apart with rfl | absent
      · exact .inl atMost
      · cases padding with
        | zero => exact .inr (by omega)
        | succ padding => exact absurd (by simp [List.replicate_succ]) absent
  obtain ⟨others, read⟩ := Option.isSome_iff_exists.mp some
  obtain ⟨written, more, same, again, _⟩ := exists_of_decodeGroups? whole read
  rw [read, isEncoding.unique again same]

/-- A text stands for octets, or it is such a text without padding, and not empty, with some groups of
padding behind it. -/
def IsReadable (text : List Char) (octets : List UInt8) : Prop :=
  ∃ written excess, text = written ++ List.replicate (4 * excess) '=' ∧ IsEncoding written octets ∧
    (excess = 0 ∨ written ≠ [] ∧ '=' ∉ written)

theorem IsEncoding.isReadable {text : List Char} {octets : List UInt8}
    (isEncoding : IsEncoding text octets) : IsReadable text octets :=
  ⟨text, 0, (List.append_nil text).symm, isEncoding, .inl rfl⟩

theorem IsReadable.length_mod {text : List Char} {octets : List UInt8}
    (readable : IsReadable text octets) : text.length % 4 = 0 := by
  obtain ⟨written, excess, rfl, isEncoding, _⟩ := readable
  have length := isEncoding.length_mod
  rw [List.length_append, List.length_replicate]
  omega

theorem IsReadable.isSymbol {text : List Char} {octets : List UInt8}
    (readable : IsReadable text octets) : ∀ c ∈ text, isSymbol c = true := by
  obtain ⟨written, excess, rfl, isEncoding, _⟩ := readable
  intro c member
  rcases List.mem_append.mp member with inside | behind
  · exact isEncoding.isSymbol c inside
  · rw [List.eq_of_mem_replicate behind]
    decide

theorem IsReadable.length_lt {text : List Char} {octets : List UInt8}
    (readable : IsReadable text octets) (nonempty : text ≠ []) : octets.length < text.length := by
  obtain ⟨written, excess, rfl, isEncoding, apart⟩ := readable
  have isWritten : written ≠ [] := by
    rintro rfl
    obtain rfl : excess = 0 := apart.resolve_right fun more => more.1 rfl
    exact nonempty rfl
  exact Nat.lt_of_lt_of_le (isEncoding.length_lt isWritten) (List.sublist_append_left _ _).length_le

theorem IsReadable.eq_nil {text : List Char} (readable : IsReadable text []) : text = [] := by
  obtain ⟨written, excess, rfl, isEncoding, apart⟩ := readable
  obtain rfl := isEncoding.eq_nil
  obtain rfl : excess = 0 := apart.resolve_right fun more => more.1 rfl
  rfl

/-- **The texts that are read.** -/
theorem decode?_eq_some_iff {text : List Char} {found : List UInt8} (whole : text.length % 4 = 0) :
    decode? text = some found ↔ IsReadable text found := by
  constructor
  · intro read
    unfold decode? at read
    split at read
    · cases read
    · rename_i begins
      obtain ⟨written, excess, rfl, isEncoding, apart⟩ := exists_of_decodeGroups? whole read
      refine ⟨written, excess, rfl, isEncoding, apart.elim .inl fun absent => ?_⟩
      cases excess with
      | zero => exact .inl rfl
      | succ excess =>
        refine .inr ⟨?_, absent⟩
        rintro rfl
        exact begins rfl
  · rintro ⟨written, excess, rfl, isEncoding, apart⟩
    have begins : (written ++ List.replicate (4 * excess) '=').head? ≠ some '=' := by
      cases written with
      | nil =>
        obtain rfl : excess = 0 := apart.resolve_right fun more => more.1 rfl
        simp
      | cons c rest => exact isEncoding.head?_ne
    rw [decode?, if_neg begins]
    exact isEncoding.decodeGroups? (apart.imp_right And.right)

end HistoricalFigures.Base64
