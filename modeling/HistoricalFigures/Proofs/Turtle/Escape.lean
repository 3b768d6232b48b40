import HistoricalFigures.Proofs.Number.Digits
import HistoricalFigures.Turtle.Escape
import HistoricalFigures.Turtle.Printing

/-!
**Written resources and strings are read back.** Both are written one character after the other, so
that each fact about one written character gives the same fact about a whole text.

* `iriExtent?_formatIriChars`, `shortExtent?_formatStringChars`: a written text reaches up to its
  closing mark.
* `unescape_formatIriChars`, `unescape_formatStringChars`: the escapes of a written text resolve to
  the text.
* `formatIriChars_eq_self`: what needs no escape is written as it is.
-/
namespace HistoricalFigures.Turtle

/-! ### Classes of characters -/

theorem lt_of_isBlank {c : Char} (blank : Unicode.isBlank c = true) : c.toNat < 16 ^ 4 := by
  simp only [Unicode.isBlank, Bool.or_eq_true, Bool.and_eq_true, decide_eq_true_eq,
    beq_iff_eq] at blank
  omega

/-- Four digits suffice for a character that is escaped between angle brackets. -/
theorem lt_of_not_isIriChar {c : Char} (unsafeChar : isIriChar c = false) : c.toNat < 16 ^ 4 := by
  simp only [isIriChar, Bool.not_eq_false', Bool.or_eq_true, decide_eq_true_eq] at unsafeChar
  rcases unsafeChar with (((((((((rfl | rfl) | rfl) | rfl) | rfl) | rfl) | rfl) | rfl) | rfl) | blank)
  case inr => exact lt_of_isBlank blank
  all_goals decide

/-- A character that stands for itself between angle brackets neither closes them nor escapes. -/
theorem ne_of_isIriChar {c : Char} (safe : isIriChar c = true) : c ≠ '>' ∧ c ≠ '\\' := by
  constructor <;> rintro rfl <;> exact absurd safe (by decide)

theorem charOf_toNat (c : Char) : Unicode.charOf c.toNat = c := by
  rw [Unicode.charOf, if_pos (show c.toNat.isValidChar from c.valid), Char.ofNat_toNat]

/-! ### Resolving escapes -/

theorem unescapeFrom_skip (unknown : UnknownEscapes) (skipped rest : List Char) :
    unescapeFrom unknown skipped.length (skipped ++ rest) = unescapeFrom unknown 0 rest := by
  induction skipped with
  | nil => rfl
  | cons c later found => exact found

theorem unescapeFrom_cons (unknown : UnknownEscapes) {c : Char} (plain : c ≠ '\\')
    (rest : List Char) :
    unescapeFrom unknown 0 (c :: rest) = (unescapeFrom unknown 0 rest).map (c :: ·) := by
  rw [unescapeFrom]
  rintro letter later same
  exact absurd same plain

theorem unescapeFrom_letter (unknown : UnknownEscapes) {letter c : Char}
    (known : Escape.charOfLetter? letter = some c) (rest : List Char) :
    unescapeFrom unknown 0 ('\\' :: letter :: rest) = (unescapeFrom unknown 0 rest).map (c :: ·) := by
  have small : letter ≠ 'u' := by rintro rfl; simp [Escape.charOfLetter?] at known
  have capital : letter ≠ 'U' := by rintro rfl; simp [Escape.charOfLetter?] at known
  rw [unescapeFrom, Escape.read, if_neg small, if_neg capital]
  simp only [Escape.resolve, known, Except.bind]
  rfl

theorem unescapeFrom_code (unknown : UnknownEscapes) {c : Char} (fits : c.toNat < 16 ^ 4)
    (rest : List Char) :
    unescapeFrom unknown 0 ('\\' :: 'u' :: Number.hexCapitals 4 c.toNat ++ rest) =
      (unescapeFrom unknown 0 rest).map (c :: ·) := by
  have digits := Number.readHex?_hexCapitals (by decide) fits rest
  have length := @Number.length_hexCapitals 4 _ (by decide) fits
  have skip := unescapeFrom_skip unknown (Number.hexCapitals 4 c.toNat) rest
  rw [length] at skip
  have bounded : c.toNat < Unicode.codeBound := lt_trans fits (by decide)
  rw [List.cons_append, List.cons_append, unescapeFrom, Escape.read, if_pos rfl, Escape.readCode,
    digits]
  simp only [Escape.resolve, if_pos bounded, charOf_toNat, Except.bind, skip]
  rfl

/-- **A text is read back if each of its characters is**, whatever follows it. -/
theorem unescapeFrom_flatMap {unknown : UnknownEscapes} {write : Char → List Char}
    (readsBack : ∀ c rest, unescapeFrom unknown 0 (write c ++ rest) =
      (unescapeFrom unknown 0 rest).map (c :: ·)) (text rest : List Char) :
    unescapeFrom unknown 0 (text.flatMap write ++ rest) =
      (unescapeFrom unknown 0 rest).map (text ++ ·) := by
  induction text with
  | nil =>
    rw [List.flatMap_nil, List.nil_append]
    cases unescapeFrom unknown 0 rest <;> rfl
  | cons c later found =>
    rw [List.flatMap_cons, List.append_assoc, readsBack, found]
    cases unescapeFrom unknown 0 rest <;> rfl

theorem unescape_flatMap {unknown : UnknownEscapes} {write : Char → List Char}
    (readsBack : ∀ c rest, unescapeFrom unknown 0 (write c ++ rest) =
      (unescapeFrom unknown 0 rest).map (c :: ·)) (text : List Char) :
    unescape unknown (text.flatMap write) = .ok text := by
  have whole := unescapeFrom_flatMap readsBack text []
  rw [List.append_nil, unescapeFrom, Except.map, List.append_nil] at whole
  exact whole

/-- **A text reaches as far as its characters.** -/
theorem extent_flatMap {extent : List Char → Option Nat} {write : Char → List Char} {text : List Char}
    (each : ∀ c ∈ text, ∀ rest,
      extent (write c ++ rest) = (extent rest).map (· + (write c).length)) (rest : List Char) :
    extent (text.flatMap write ++ rest) = (extent rest).map (· + (text.flatMap write).length) := by
  induction text with
  | nil => simp
  | cons c later found =>
    obtain ⟨here, others⟩ := List.forall_mem_cons.mp each
    rw [List.flatMap_cons, List.append_assoc, here, found others, Option.map_map, List.length_append]
    congr 1
    funext count
    simp only [Function.comp_apply]
    omega

/-! ### Between angle brackets -/

theorem iriExtent?_skip (skipped rest : List Char) :
    iriExtent? skipped.length (skipped ++ rest) =
      (iriExtent? 0 rest).map (· + skipped.length) := by
  induction skipped with
  | nil => simp
  | cons c later found =>
    rw [List.length_cons, List.cons_append, iriExtent?, found, Option.map_map]
    rfl

/-- A written character between angle brackets reaches as far as it is long. -/
theorem iriExtent?_formatIriChar (c : Char) (rest : List Char) :
    iriExtent? 0 (formatIriChar c ++ rest) =
      (iriExtent? 0 rest).map (· + (formatIriChar c).length) := by
  unfold formatIriChar
  cases safe : isIriChar c with
  | true =>
    obtain ⟨open_, plain⟩ := ne_of_isIriChar safe
    rw [if_pos rfl, List.singleton_append, iriExtent?, if_neg open_, if_neg plain, if_pos safe]
    rfl
  | false =>
    have fits := lt_of_not_isIriChar safe
    have length := @Number.length_hexCapitals 4 _ (by decide) fits
    have code : codeExtent? ('u' :: (Number.hexCapitals 4 c.toNat ++ rest)) = some 5 := by
      rw [codeExtent?, Number.readHex?_hexCapitals (by decide) fits]
      rfl
    have skip := iriExtent?_skip ('u' :: Number.hexCapitals 4 c.toNat) rest
    rw [List.length_cons, length] at skip
    rw [if_neg Bool.false_ne_true, List.cons_append, List.cons_append, iriExtent?,
      if_neg (by decide), if_pos rfl, code, Option.bind_some, ← List.cons_append, skip,
      Option.map_map, List.length_cons, List.length_cons, length]
    rfl

/-- **A written resource reaches up to its closing bracket.** -/
theorem iriExtent?_formatIriChars (text rest : List Char) :
    iriExtent? 0 (text.flatMap formatIriChar ++ '>' :: rest) =
      some ((text.flatMap formatIriChar).length + 1) := by
  rw [extent_flatMap fun c _ => iriExtent?_formatIriChar c, iriExtent?, if_pos rfl, Option.map_some,
    Nat.add_comm]

/-- **The escapes of a written resource resolve to the resource.** -/
theorem unescape_formatIriChars (unknown : UnknownEscapes) (text : List Char) :
    unescape unknown (text.flatMap formatIriChar) = .ok text := by
  refine unescape_flatMap (fun c rest => ?_) text
  unfold formatIriChar
  cases safe : isIriChar c with
  | true =>
    rw [if_pos rfl, List.singleton_append, unescapeFrom_cons unknown (ne_of_isIriChar safe).2]
  | false =>
    rw [if_neg Bool.false_ne_true, unescapeFrom_code unknown (lt_of_not_isIriChar safe)]

/-- What needs no escape between angle brackets is written as it is. -/
theorem formatIriChars_eq_self {text : List Char} (safe : ∀ c ∈ text, isIriChar c = true) :
    text.flatMap formatIriChar = text := by
  induction text with
  | nil => rfl
  | cons c rest found =>
    rw [List.flatMap_cons, formatIriChar, if_pos (safe c List.mem_cons_self),
      found fun d member => safe d (List.mem_cons_of_mem c member), List.singleton_append]

/-! ### Between quotes -/

/-- How a character is written between quotes: itself, or a letter behind a backslash. -/
theorem formatStringChar_cases (c : Char) :
    (formatStringChar c = [c] ∧ c ≠ '\\' ∧ c ≠ '\x22' ∧ c ≠ '\n' ∧ c ≠ '\r') ∨
      ∃ letter, formatStringChar c = ['\\', letter] ∧ Escape.charOfLetter? letter = some c := by
  unfold formatStringChar
  by_cases backslash : c = '\\'
  · exact .inr ⟨'\\', by rw [if_pos backslash], by rw [backslash]; rfl⟩
  by_cases quote : c = '\x22'
  · exact .inr ⟨'\x22', by rw [if_neg backslash, if_pos quote], by rw [quote]; rfl⟩
  by_cases feed : c = '\n'
  · exact .inr ⟨'n', by rw [if_neg backslash, if_neg quote, if_pos feed], by rw [feed]; rfl⟩
  by_cases carriage : c = '\r'
  · exact .inr ⟨'r', by rw [if_neg backslash, if_neg quote, if_neg feed, if_pos carriage],
      by rw [carriage]; rfl⟩
  by_cases tab : c = '\t'
  · exact .inr ⟨'t', by rw [if_neg backslash, if_neg quote, if_neg feed, if_neg carriage, if_pos tab],
      by rw [tab]; rfl⟩
  · refine .inl ⟨?_, backslash, quote, feed, carriage⟩
    rw [if_neg backslash, if_neg quote, if_neg feed, if_neg carriage, if_neg tab]

/-- Whether a quote never stands for itself in what is written of a text: a double quote is written
behind a backslash, and another one must be missing. -/
def Hides (quote : Char) (text : List Char) : Prop := quote = '\x22' ∨ quote ∉ text

theorem hides_double (text : List Char) : Hides '\x22' text := .inl rfl

/-- A character that is written as itself is no hidden quote. -/
theorem Hides.ne {quote : Char} {text : List Char} (hides : Hides quote text) {c : Char}
    (member : c ∈ text) (other : c ≠ '\x22') : c ≠ quote := by
  rintro rfl
  exact hides.elim other fun absent => absent member

/-- A written character between quotes reaches as far as it is long. -/
theorem shortExtent?_formatStringChar {quote : Char} {text : List Char} (hides : Hides quote text)
    {c : Char} (member : c ∈ text) (rest : List Char) :
    shortExtent? quote 0 (formatStringChar c ++ rest) =
      (shortExtent? quote 0 rest).map (· + (formatStringChar c).length) := by
  rcases formatStringChar_cases c with ⟨written, backslash, double, feed, carriage⟩ | ⟨letter, written, _⟩
  · rw [written, List.singleton_append, shortExtent?, if_neg backslash,
      if_neg (hides.ne member double), if_neg (not_or.mpr ⟨feed, carriage⟩)]
    rfl
  · rw [written, List.cons_append, List.singleton_append, shortExtent?, if_pos rfl, shortExtent?,
      Option.map_map]
    rfl

theorem longExtent?_formatStringChar {quote : Char} {text : List Char} (hides : Hides quote text)
    {c : Char} (member : c ∈ text) (rest : List Char) :
    longExtent? quote 0 (formatStringChar c ++ rest) =
      (longExtent? quote 0 rest).map (· + (formatStringChar c).length) := by
  rcases formatStringChar_cases c with ⟨written, backslash, double, _⟩ | ⟨letter, written, _⟩
  · rw [written, List.singleton_append, longExtent?, if_neg backslash,
      if_neg fun closes => hides.ne member double closes.1]
    rfl
  · rw [written, List.cons_append, List.singleton_append, longExtent?, if_pos rfl, longExtent?,
      Option.map_map]
    rfl

/-- **A written string reaches up to its closing quote.** -/
theorem shortExtent?_formatStringChars (text rest : List Char) :
    shortExtent? '\x22' 0 (text.flatMap formatStringChar ++ '\x22' :: rest) =
      some ((text.flatMap formatStringChar).length + 1) := by
  rw [extent_flatMap fun c => shortExtent?_formatStringChar (hides_double text), shortExtent?,
    if_neg (by decide), if_pos rfl, Option.map_some, Nat.add_comm]

/-- A written string has no line breaks. -/
theorem forall_mem_formatStringChars {text : List Char} :
    ∀ c ∈ text.flatMap formatStringChar, c ≠ '\n' ∧ c ≠ '\r' := by
  intro c member
  obtain ⟨d, _, written⟩ := List.mem_flatMap.mp member
  rcases formatStringChar_cases d with ⟨same, _, _, feed, carriage⟩ | ⟨letter, same, known⟩
  · rw [same] at written
    obtain rfl := List.mem_singleton.mp written
    exact ⟨feed, carriage⟩
  · rw [same] at written
    rcases List.mem_cons.mp written with rfl | written
    · decide
    · obtain rfl := List.mem_singleton.mp written
      constructor <;> (rintro rfl; cases known)

theorem unescapeFrom_formatStringChar (unknown : UnknownEscapes) (c : Char) (rest : List Char) :
    unescapeFrom unknown 0 (formatStringChar c ++ rest) =
      (unescapeFrom unknown 0 rest).map (c :: ·) := by
  rcases formatStringChar_cases c with ⟨written, plain, _⟩ | ⟨letter, written, known⟩
  · rw [written, List.singleton_append, unescapeFrom_cons unknown plain]
  · rw [written, List.cons_append, List.singleton_append, unescapeFrom_letter unknown known]

/-- **The escapes of a written string resolve to the string.** -/
theorem unescape_formatStringChars (unknown : UnknownEscapes) (text : List Char) :
    unescape unknown (text.flatMap formatStringChar) = .ok text :=
  unescape_flatMap (unescapeFrom_formatStringChar unknown) text

theorem head?_formatStringChars (text : List Char) (rest : List Char) (nonempty : text ≠ []) :
    (text.flatMap formatStringChar ++ rest).head? ≠ some '\x22' := by
  obtain ⟨c, later, rfl⟩ := List.exists_cons_of_ne_nil nonempty
  rw [List.flatMap_cons]
  rcases formatStringChar_cases c with ⟨written, _, quote, _⟩ | ⟨letter, written, _⟩
  · rw [written]
    simpa using quote
  · rw [written]
    simp

end HistoricalFigures.Turtle
