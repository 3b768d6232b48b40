import HistoricalFigures.Proofs.Outcome
import HistoricalFigures.Proofs.Turtle.Lexeme

/-!
**What stands between angle brackets**, with escapes or without.

* `IsRawIri`: characters that stand for themselves, and escapes of the numbers of characters.
* `isRawIri_of_iriExtent?`, `isLexeme_rawIri`: it is what a token between angle brackets holds.
* `unescape_eq_self_iff`: it names the resource that it reads as just where it has no escape.
-/
namespace HistoricalFigures.Turtle

/-- The letters of the escapes between angle brackets, with the number of digits behind them. -/
def escapeLetters : List (Char × Nat) := [('u', 4), ('U', 8)]

/-- What stands between angle brackets: characters that stand for themselves, and escapes. -/
inductive IsRawIri : List Char → Prop where
  | nil : IsRawIri []
  | char (c : Char) (rest : List Char) : isIriChar c = true → IsRawIri rest → IsRawIri (c :: rest)
  | escape (letter : Char) (digits rest : List Char) : (letter, digits.length) ∈ escapeLetters →
    (∀ c ∈ digits, Number.isHexDigit c = true) → IsRawIri rest →
      IsRawIri ('\\' :: letter :: (digits ++ rest))

/-- An escape reaches as far as its digits. -/
theorem codeExtent?_eq {letter : Char} {digits : List Char}
    (known : (letter, digits.length) ∈ escapeLetters)
    (hex : ∀ c ∈ digits, Number.isHexDigit c = true) (rest : List Char) :
    codeExtent? (letter :: (digits ++ rest)) = some (digits.length + 1) := by
  obtain ⟨value, reads⟩ := Number.exists_readHex? hex rest
  simp only [escapeLetters, List.mem_cons, Prod.mk.injEq, List.not_mem_nil, or_false] at known
  rcases known with ⟨rfl, count⟩ | ⟨rfl, count⟩
  all_goals
    rw [count] at reads
    rw [codeExtent?, reads, count]
    rfl

theorem exists_of_codeExtent? {extent : Nat} {text : List Char}
    (found : codeExtent? text = some extent) :
    ∃ letter digits rest, text = letter :: (digits ++ rest) ∧ extent = digits.length + 1 ∧
      (letter, digits.length) ∈ escapeLetters ∧ ∀ c ∈ digits, Number.isHexDigit c = true := by
  unfold codeExtent? at found
  split at found
  · obtain ⟨value, reads, same⟩ := Option.map_eq_some_iff.mp found
    obtain ⟨digits, rest, rfl, length, hex⟩ := Number.exists_of_readHex? reads
    exact ⟨'u', digits, rest, rfl, by rw [length, ← same], by simp [escapeLetters, length], hex⟩
  · obtain ⟨value, reads, same⟩ := Option.map_eq_some_iff.mp found
    obtain ⟨digits, rest, rfl, length, hex⟩ := Number.exists_of_readHex? reads
    exact ⟨'U', digits, rest, rfl, by rw [length, ← same], by simp [escapeLetters, length], hex⟩
  · cases found

/-- **It reaches up to its closing bracket.** -/
theorem IsRawIri.extent {raw : List Char} (isRaw : IsRawIri raw) (rest : List Char) :
    iriExtent? 0 (raw ++ '>' :: rest) = some (raw.length + 1) := by
  induction isRaw with
  | nil => rfl
  | char c later safe _ found =>
    obtain ⟨open_, plain⟩ := ne_of_isIriChar safe
    rw [List.cons_append, iriExtent?, if_neg open_, if_neg plain, if_pos safe, found]
    rfl
  | escape letter digits later known hex _ found =>
    have skip := iriExtent?_skip (letter :: digits) (later ++ '>' :: rest)
    rw [List.length_cons] at skip
    rw [List.cons_append, List.cons_append, List.append_assoc, iriExtent?, if_neg (by decide),
      if_pos rfl, codeExtent?_eq known hex, Option.bind_some, ← List.cons_append, skip, found]
    simp only [Option.map_some, List.length_cons, List.length_append]
    congr 1
    omega

/-- What reaches up to a closing bracket. -/
theorem exists_of_iriExtent? {text : List Char} {extent : Nat}
    (found : iriExtent? 0 text = some extent) :
    ∃ raw rest, text = raw ++ '>' :: rest ∧ extent = raw.length + 1 ∧ IsRawIri raw := by
  -- An escape takes several characters at once, so that the induction is on the length.
  induction length : text.length using Nat.strong_induction_on generalizing text extent with
  | _ length shorter =>
    subst length
    cases text with
    | nil => cases found
    | cons c later =>
      rw [iriExtent?] at found
      split at found
      · rename_i closes
        cases found
        exact ⟨[], later, by rw [closes]; rfl, rfl, .nil⟩
      · split at found
        · rename_i backslash
          obtain ⟨skipped, code, reaches⟩ := Option.bind_eq_some_iff.mp found
          obtain ⟨more, there, rfl⟩ := Option.map_eq_some_iff.mp reaches
          obtain ⟨letter, digits, behind, rfl, rfl, known, hex⟩ := exists_of_codeExtent? code
          have skip := iriExtent?_skip (letter :: digits) behind
          rw [List.length_cons, List.cons_append, there] at skip
          obtain ⟨inner, later, rfl⟩ := Option.map_eq_some_iff.mp skip.symm
          obtain ⟨raw, rest, rfl, rfl, isRaw⟩ := shorter behind.length (by simp; omega) later rfl
          refine ⟨'\\' :: letter :: (digits ++ raw), rest, ?_, ?_, .escape _ _ _ known hex isRaw⟩
          · rw [backslash]
            simp only [List.cons_append, List.append_assoc]
          · simp only [List.length_cons, List.length_append]
            omega
        · split at found
          · rename_i safe
            obtain ⟨inner, reaches, rfl⟩ := Option.map_eq_some_iff.mp found
            obtain ⟨raw, rest, rfl, rfl, isRaw⟩ := shorter later.length (by simp) reaches rfl
            exact ⟨c :: raw, rest, rfl, rfl, .char c raw safe isRaw⟩
          · cases found

/-- **What a token between angle brackets holds.** -/
theorem isRawIri_of_iriExtent? {raw : List Char}
    (closes : iriExtent? 0 (raw ++ ['>']) = some (raw.length + 1)) : IsRawIri raw := by
  obtain ⟨inner, rest, whole, length, isRaw⟩ := exists_of_iriExtent? closes
  have same : raw = inner :=
    (List.append_inj whole (Nat.succ.inj length)).1
  rwa [same]

theorem isIriChar_of_isHexDigit {c : Char} (hex : Number.isHexDigit c = true) :
    isIriChar c = true := by
  have ascii : c.toNat < 128 := by
    have below : ∀ last : Char, c ≤ last → last.toNat < 128 → c.toNat < 128 := fun last order small =>
      Nat.lt_of_le_of_lt (Char.le_def.mp order) small
    obtain ⟨value, isValue⟩ := Option.isSome_iff_exists.mp hex
    unfold Number.hexValue? at isValue
    split at isValue
    · exact below '9' (by tauto) (by decide)
    · split at isValue
      · exact below 'f' (by tauto) (by decide)
      · split at isValue
        · exact below 'F' (by tauto) (by decide)
        · cases isValue
  have here := Unicode.eq_true_of_ascii (p := fun d => !Number.isHexDigit d || isIriChar d)
    (by decide) ascii
  simpa [hex] using here

theorem IsRawIri.forall_mem {raw : List Char} (isRaw : IsRawIri raw) :
    ∀ c ∈ raw, isIriChar c = true ∨ c = '\\' := by
  induction isRaw with
  | nil => exact fun _ member => absurd member List.not_mem_nil
  | char c later safe _ found => exact List.forall_mem_cons.mpr ⟨.inl safe, found⟩
  | escape letter digits later known hex _ found =>
    have isLetter : isIriChar letter = true := by
      simp only [escapeLetters, List.mem_cons, Prod.mk.injEq, List.not_mem_nil, or_false] at known
      rcases known with ⟨rfl, _⟩ | ⟨rfl, _⟩ <;> decide
    refine List.forall_mem_cons.mpr ⟨.inr rfl, List.forall_mem_cons.mpr ⟨.inl isLetter, ?_⟩⟩
    intro c member
    rcases List.mem_append.mp member with inside | behind
    · exact .inl (isIriChar_of_isHexDigit (hex c inside))
    · exact found c behind

theorem isLexeme_rawIri {raw : List Char} (isRaw : IsRawIri raw) (rest : List Char) :
    IsLexeme .iri ('<' :: raw ++ ['>']) rest := by
  refine ⟨'<', raw ++ ['>'], rfl, ?_⟩
  rw [List.append_assoc, List.singleton_append, extent?, if_neg (by decide), if_neg (by decide),
    if_pos rfl, isRaw.extent, List.length_append]
  rfl

/-! ### Escapes -/

/-- A text without a backslash has no escapes. -/
theorem unescape_eq_self (unknown : UnknownEscapes) {text : List Char} (absent : '\\' ∉ text) :
    unescape unknown text = .ok text := by
  unfold unescape
  induction text with
  | nil => rw [unescapeFrom]
  | cons c later found =>
    rw [List.mem_cons, not_or] at absent
    rw [unescapeFrom_cons unknown (Ne.symm absent.1), found absent.2]
    rfl

/-- What is read behind a backslash, with the digits that it takes. -/
theorem Escape.read_eq (letter : Char) (rest : List Char) :
    (∃ digits later value, rest = digits ++ later ∧ (letter, digits.length) ∈ escapeLetters ∧
      Number.readHex? digits.length digits = some value ∧
      Escape.read letter rest = (.code value, digits.length)) ∨
    Escape.read letter rest = (.single letter, 0) := by
  have code : ∀ count, (letter, count) ∈ escapeLetters →
      (∃ digits later value, rest = digits ++ later ∧ (letter, digits.length) ∈ escapeLetters ∧
        Number.readHex? digits.length digits = some value ∧
        Escape.readCode letter count rest = (.code value, digits.length)) ∨
      Escape.readCode letter count rest = (.single letter, 0) := by
    intro count known
    unfold Escape.readCode
    cases reads : Number.readHex? count rest with
    | none => exact .inr rfl
    | some value =>
      obtain ⟨digits, later, rfl, rfl, _⟩ := Number.exists_of_readHex? reads
      exact .inl ⟨digits, later, value, rfl, known, (Number.readHex?_append digits later).symm.trans reads, rfl⟩
  unfold Escape.read
  split
  · rename_i small
    exact code 4 (by simp [small, escapeLetters])
  split
  · rename_i capital
    exact code 8 (by simp [capital, escapeLetters])
  · exact .inr rfl

/-- An escape with digits is read whatever follows it. -/
theorem Escape.read_append {letter : Char} {digits : List Char} {value : Nat}
    (known : (letter, digits.length) ∈ escapeLetters)
    (number : Number.readHex? digits.length digits = some value) (rest : List Char) :
    Escape.read letter (digits ++ rest) = (.code value, digits.length) := by
  have reads := (Number.readHex?_append digits rest).trans number
  simp only [escapeLetters, List.mem_cons, Prod.mk.injEq, List.not_mem_nil, or_false] at known
  rcases known with ⟨rfl, count⟩ | ⟨rfl, count⟩
  all_goals
    rw [count] at reads
    rw [count, Escape.read]
    simp [Escape.readCode, reads]

/-- An escape with digits stands for the character with their number. -/
theorem unescapeFrom_escape (unknown : UnknownEscapes) {letter : Char} {digits : List Char} {value : Nat}
    (known : (letter, digits.length) ∈ escapeLetters)
    (number : Number.readHex? digits.length digits = some value) (rest : List Char) :
    unescapeFrom unknown 0 ('\\' :: letter :: (digits ++ rest)) =
      ((Escape.code value).resolve unknown).bind fun text =>
        (unescapeFrom unknown 0 rest).map (text ++ ·) := by
  rw [unescapeFrom, Escape.read_append known number]
  simp only [unescapeFrom_skip]

/-- An escape stands for one character. -/
theorem exists_of_unescapeFrom_escape {letter : Char} {digits rest text : List Char}
    (known : (letter, digits.length) ∈ escapeLetters)
    (hex : ∀ c ∈ digits, Number.isHexDigit c = true)
    (reads : unescapeFrom .refused 0 ('\\' :: letter :: (digits ++ rest)) = .ok text) :
    ∃ c later, text = c :: later ∧ unescapeFrom .refused 0 rest = .ok later := by
  obtain ⟨value, number⟩ := Number.exists_readHex? hex []
  rw [List.append_nil] at number
  rw [unescapeFrom_escape .refused known number] at reads
  obtain ⟨written, resolves, behind⟩ := eq_ok_of_bind reads
  obtain ⟨later, readLater, rfl⟩ := eq_ok_of_map behind
  rw [Escape.resolve] at resolves
  split at resolves
  · cases resolves
    exact ⟨_, later, rfl, readLater⟩
  · cases resolves

/-- An escape is longer than the character that it stands for. -/
theorem IsRawIri.length_lt {raw text : List Char} (isRaw : IsRawIri raw)
    (reads : unescape .refused raw = .ok text) :
    text.length ≤ raw.length ∧ ('\\' ∈ raw → text.length < raw.length) := by
  unfold unescape at reads
  induction isRaw generalizing text with
  | nil =>
    rw [unescapeFrom] at reads
    cases reads
    exact ⟨Nat.le_refl 0, fun member => absurd member List.not_mem_nil⟩
  | char c later safe _ found =>
    obtain ⟨_, plain⟩ := ne_of_isIriChar safe
    rw [unescapeFrom_cons .refused plain] at reads
    obtain ⟨behind, readLater, rfl⟩ := eq_ok_of_map reads
    obtain ⟨atMost, less⟩ := found readLater
    refine ⟨Nat.succ_le_succ atMost, fun member => Nat.succ_lt_succ (less ?_)⟩
    exact (List.mem_cons.mp member).resolve_left (Ne.symm plain)
  | escape letter digits later known hex _ found =>
    obtain ⟨c, behind, rfl, readLater⟩ := exists_of_unescapeFrom_escape known hex reads
    have atMost := (found readLater).1
    have shorter : (c :: behind).length < ('\\' :: letter :: (digits ++ later)).length := by
      simp only [List.length_cons, List.length_append]
      omega
    exact ⟨Nat.le_of_lt shorter, fun _ => shorter⟩

/-- **It names the resource that it reads as just where it has no escape.** -/
theorem unescape_eq_self_iff {raw : List Char} (isRaw : IsRawIri raw) :
    unescape .refused raw = .ok raw ↔ '\\' ∉ raw := by
  constructor
  · intro reads escaped
    exact absurd ((isRaw.length_lt reads).2 escaped) (Nat.lt_irrefl _)
  · exact unescape_eq_self .refused

end HistoricalFigures.Turtle
