import HistoricalFigures.Proofs.Turtle.RawIri
import HistoricalFigures.Proofs.Turtle.Separation

/-!
**What a string is made up of**: quotes of one kind, what stands between them, and the same quotes again.

* `isLexeme_string_iff`, `isLexeme_longString_iff`: a string on its own is closed at its end.
* `exists_eq_of_isLexeme`: what stands between the quotes.
* `exists_of_unescapeFrom_backslash`: an escape is one whatever follows it.
* `exists_stringValue_iff`: a string has a value just where the escapes behind its first quotes are
  known, whether its last quotes count for them or not.
-/
namespace HistoricalFigures.Turtle

/-! ### Strings on their own -/

/-- **A short string on its own** ends where it is closed. -/
theorem isLexeme_string_iff {lexeme : List Char} : IsLexeme .string lexeme [] ↔
    ∃ quote body, (quote = '\x22' ∨ quote = '\x27') ∧ lexeme = quote :: body ∧
      shortExtent? quote 0 body = some body.length := by
  constructor
  · rintro ⟨quote, body, rfl, reach⟩
    have isQuote := (isString_of_extent? reach).mp rfl
    rw [extent?_quote isQuote, List.append_nil] at reach
    obtain ⟨⟨kind, count⟩, reaches, same⟩ := Option.map_eq_some_iff.mp reach
    cases same
    exact ⟨quote, body, isQuote, rfl, ((stringExtent?_cases reaches).resolve_left (by decide)).2.1⟩
  · rintro ⟨quote, body, isQuote, rfl, closes⟩
    refine ⟨quote, body, rfl, ?_⟩
    -- A second quote would close the string, and no third one would follow.
    have noLong : body.take 2 ≠ [quote, quote] := by
      intro twice
      obtain ⟨later, rfl⟩ : ∃ later, body = quote :: later := by
        cases body with
        | nil => cases twice
        | cons c later => exact ⟨later, by rw [(List.cons.inj twice).1]⟩
      have plain : quote ≠ '\\' := by rcases isQuote with rfl | rfl <;> decide
      rw [shortExtent?, if_neg plain, if_pos rfl] at closes
      obtain rfl : later = [] := by simpa using closes.symm
      cases twice
    rw [extent?_quote isQuote, List.append_nil, stringExtent?]
    simp only [if_neg noLong, closes, Option.map_some]

/-- **A long string on its own** ends where it is closed. -/
theorem isLexeme_longString_iff {lexeme : List Char} : IsLexeme .longString lexeme [] ↔
    ∃ quote body, (quote = '\x22' ∨ quote = '\x27') ∧ lexeme = quote :: quote :: quote :: body ∧
      longExtent? quote 0 body = some body.length := by
  constructor
  · rintro ⟨quote, body, rfl, reach⟩
    have isQuote := (isString_of_extent? reach).mp rfl
    rw [extent?_quote isQuote, List.append_nil] at reach
    obtain ⟨⟨kind, count⟩, reaches, same⟩ := Option.map_eq_some_iff.mp reach
    cases same
    obtain ⟨opens, count, closes, length⟩ := stringExtent?_eq_long_iff.mp reaches
    have whole := List.take_append_drop 2 body
    rw [opens] at whole
    refine ⟨quote, body.drop 2, isQuote, by rw [← whole]; rfl, ?_⟩
    rw [closes, List.length_drop, ← length, Nat.add_sub_cancel]
  · rintro ⟨quote, body, isQuote, rfl, closes⟩
    refine ⟨quote, quote :: quote :: body, rfl, ?_⟩
    rw [extent?_quote isQuote, List.append_nil,
      stringExtent?_eq_long_iff.mpr ⟨rfl, body.length, closes, rfl⟩]
    rfl

/-- A long string ends with three quotes. -/
theorem exists_of_longExtent? {quote : Char} {skipped : Nat} {body : List Char}
    (closes : longExtent? quote skipped body = some body.length) :
    ∃ inner, body = inner ++ [quote, quote, quote] := by
  induction body generalizing skipped with
  | nil => cases skipped <;> cases closes
  | cons c later found =>
    rcases longExtent?_cons closes with ⟨three, rfl, two, _⟩ | ⟨_, count, length, _, there, _⟩
    · rw [List.take_of_length_le (Nat.le_of_eq (Nat.succ.inj three))] at two
      exact ⟨[], by rw [two]; rfl⟩
    · rw [← Nat.succ.inj length] at there
      obtain ⟨inner, rfl⟩ := found there
      exact ⟨c :: inner, rfl⟩

/-- **A string is what stands between its quotes.** -/
theorem exists_eq_of_isLexeme {kind : TokenKind} {lexeme : List Char}
    (isLexeme : IsLexeme kind lexeme []) (isString : kind.isString = true) :
    ∃ quote inner, (quote = '\x22' ∨ quote = '\x27') ∧
      lexeme = List.replicate kind.quoteCount quote ++ (inner ++ List.replicate kind.quoteCount quote) := by
  cases kind <;> try cases isString
  · obtain ⟨quote, body, isQuote, rfl, closes⟩ := isLexeme_longString_iff.mp isLexeme
    obtain ⟨inner, rfl⟩ := exists_of_longExtent? closes
    exact ⟨quote, inner, isQuote, rfl⟩
  · obtain ⟨quote, body, isQuote, rfl, closes⟩ := isLexeme_string_iff.mp isLexeme
    have last := @getLast?_of_shortExtent? quote 0 body [] (by rwa [List.append_nil])
    obtain ⟨inner, rfl⟩ := List.getLast?_eq_some_iff.mp last
    exact ⟨quote, inner, isQuote, rfl⟩

/-! ### Escapes between quotes -/

/-- What begins with a part that has no character of its end holds the part before its end. -/
theorem exists_of_append_eq_append {first second part later : List Char}
    (apart : ∀ c ∈ part, c ∉ second) (whole : first ++ second = part ++ later) :
    ∃ between, first = part ++ between ∧ later = between ++ second := by
  rcases List.append_eq_append_iff.mp whole with ⟨between, rfl, ends⟩ | inside
  · cases between with
    | nil => exact ⟨[], by rw [List.append_nil, List.append_nil], ends.symm⟩
    | cons c between =>
      exact absurd (ends ▸ List.mem_cons_self) (apart c (List.mem_append_right _ List.mem_cons_self))
  · exact inside

/-- Whether all escapes in a text are known, where its first `skipped` characters belong to an earlier
one. -/
def Resolves (skipped : Nat) (text : List Char) : Prop :=
  ∃ resolved, unescapeFrom .refused skipped text = .ok resolved

namespace Resolves

theorem nil (skipped : Nat) : Resolves skipped [] := ⟨[], by rw [unescapeFrom]⟩

theorem cons_iff {c : Char} (plain : c ≠ '\\') {rest : List Char} :
    Resolves 0 (c :: rest) ↔ Resolves 0 rest := by
  rw [Resolves, unescapeFrom_cons .refused plain]
  exact exists_map_eq_ok

theorem skip_iff (front rest : List Char) :
    Resolves front.length (front ++ rest) ↔ Resolves 0 rest := by
  rw [Resolves, unescapeFrom_skip, Resolves]

theorem letter_iff {letter c : Char} (known : Escape.charOfLetter? letter = some c) {rest : List Char} :
    Resolves 0 ('\\' :: letter :: rest) ↔ Resolves 0 rest := by
  rw [Resolves, unescapeFrom_letter .refused known]
  exact exists_map_eq_ok

/-- Characters in written form are known. -/
theorem written_iff (told rest : List Char) :
    Resolves 0 (told.flatMap formatStringChar ++ rest) ↔ Resolves 0 rest := by
  rw [Resolves, unescapeFrom_flatMap (unescapeFrom_formatStringChar .refused)]
  exact exists_map_eq_ok

/-- **A known escape is known whatever follows it**: its letter stands for a character, or digits
follow. -/
theorem exists_of_backslash {letter : Char} {rest : List Char}
    (resolves : Resolves 0 ('\\' :: letter :: rest)) :
    ∃ digits later, rest = digits ++ later ∧ (∀ c ∈ digits, Number.isHexDigit c = true) ∧
      (digits = [] ∨ letter ≠ '\x22') ∧
      ∀ other, Resolves 0 ('\\' :: letter :: (digits ++ other)) ↔ Resolves 0 other := by
  obtain ⟨resolved, whole⟩ := resolves
  rcases Escape.read_eq letter rest with ⟨digits, later, value, rfl, known, reads, _⟩ | single
  · have hex := Number.isHexDigit_of_readHexAfter? reads
    have escape := unescapeFrom_escape .refused known reads
    rw [escape] at whole
    obtain ⟨written, here, _⟩ := eq_ok_of_bind whole
    refine ⟨digits, later, rfl, hex, .inr ?_, fun other => ?_⟩
    · rintro rfl
      exact absurd known (by simp [escapeLetters])
    · rw [Resolves, escape, here]
      exact exists_map_eq_ok
  · rw [unescapeFrom, single] at whole
    obtain ⟨written, here, _⟩ := eq_ok_of_bind whole
    cases known : Escape.charOfLetter? letter with
    | some c =>
      exact ⟨[], rest, rfl, fun _ member => absurd member List.not_mem_nil, .inl rfl,
        fun other => letter_iff known⟩
    | none =>
      simp only [Escape.resolve, known] at here
      cases here

/-- Behind an escape a text without digits does not count if it does not behind what follows the escape. -/
theorem append_backslash_iff {letter : Char} {rest behind : List Char}
    (apart : ∀ c ∈ behind, Number.isHexDigit c = false)
    (later : ∀ digits more, rest = digits ++ more →
      (Resolves 0 (more ++ behind) ↔ Resolves 0 more)) :
    Resolves 0 ('\\' :: letter :: (rest ++ behind)) ↔ Resolves 0 ('\\' :: letter :: rest) := by
  constructor
  · intro resolves
    obtain ⟨digits, more, whole, hex, _, escape⟩ := exists_of_backslash resolves
    have noDigit : ∀ c ∈ digits, c ∉ behind := fun c digit member =>
      Bool.false_ne_true ((apart c member).symm.trans (hex c digit))
    obtain ⟨front, rfl, rfl⟩ := exists_of_append_eq_append noDigit whole
    rwa [List.append_assoc, escape, later digits front rfl, ← escape] at resolves
  · intro resolves
    obtain ⟨digits, more, rfl, _, _, escape⟩ := exists_of_backslash resolves
    rwa [escape, ← later digits more rfl, ← escape, ← List.append_assoc] at resolves

/-- **Quotes behind a text do not count**: none of them belongs to an escape of the text but the one
behind a backslash at its end. -/
theorem append_quotes_iff {quote : Char} (isQuote : quote = '\x22' ∨ quote = '\x27') (count : Nat)
    {skipped : Nat} {text : List Char} (within : skipped ≤ text.length) :
    Resolves skipped (text ++ List.replicate count quote) ↔ Resolves skipped text := by
  have plain : quote ≠ '\\' := by rcases isQuote with rfl | rfl <;> decide
  have noDigit : Number.isHexDigit quote = false := by rcases isQuote with rfl | rfl <;> decide
  have known : Escape.charOfLetter? quote = some quote := by rcases isQuote with rfl | rfl <;> decide
  have quotes : ∀ count, Resolves 0 (List.replicate count quote) := by
    intro count
    induction count with
    | zero => exact .nil 0
    | succ count found => exact (cons_iff plain).mpr found
  induction text generalizing skipped with
  | nil =>
    obtain rfl := Nat.le_zero.mp within
    exact iff_of_true (quotes count) (.nil 0)
  | cons c later found =>
    cases skipped with
    | succ skipped => exact found (Nat.le_of_succ_le_succ within)
    | zero =>
      by_cases backslash : c = '\\'
      · subst backslash
        cases later with
        | nil =>
          have alone : Resolves 0 ['\\'] := ⟨['\\'], rfl⟩
          cases count with
          | zero => exact iff_of_true alone alone
          | succ count => exact iff_of_true ((letter_iff known).mpr (quotes count)) alone
        | cons letter rest =>
          refine append_backslash_iff (fun c member => ?_) ?_
          · rw [List.eq_of_mem_replicate member, noDigit]
          · rintro digits more rfl
            have here := @found (letter :: digits).length (by simp)
            rwa [← List.cons_append, List.append_assoc, skip_iff, skip_iff] at here
      · rw [List.cons_append, cons_iff backslash, cons_iff backslash]
        exact found (Nat.zero_le _)

end Resolves

/-- **A string has a value just where the escapes behind its first quotes are known.** -/
theorem exists_stringValue_iff {kind : TokenKind} {lexeme : List Char}
    (isLexeme : IsLexeme kind lexeme []) (isString : kind.isString = true) (line : Nat) :
    (∃ value, Reading.stringValue kind.quoteCount ⟨kind, lexeme, line⟩ = .ok value) ↔
      Resolves kind.quoteCount lexeme := by
  obtain ⟨quote, inner, isQuote, rfl⟩ := exists_eq_of_isLexeme isLexeme isString
  generalize kind.quoteCount = count
  have length : (List.replicate count quote ++ (inner ++ List.replicate count quote)).length -
      2 * count = inner.length := by
    simp only [List.length_append, List.length_replicate]
    omega
  have between : ((List.replicate count quote ++ (inner ++ List.replicate count quote)).drop
      count).take inner.length = inner := by
    rw [List.drop_left' List.length_replicate, List.take_left]
  have behind := Resolves.skip_iff (List.replicate count quote) (inner ++ List.replicate count quote)
  rw [List.length_replicate] at behind
  rw [behind, Resolves.append_quotes_iff isQuote count (Nat.zero_le _)]
  simp only [Reading.stringValue, length, between]
  exact exists_map_eq_ok

end HistoricalFigures.Turtle
