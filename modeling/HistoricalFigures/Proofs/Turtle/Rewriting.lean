import HistoricalFigures.Proofs.Turtle.Lexes
import HistoricalFigures.Proofs.Turtle.StringShape

/-!
**What is written between double quotes may be written anew.** A text in which other characters have been
written in some places between two double quotes has its strings, its comments and its lines where they
were, wherever in strings or comments the two quotes stand.

* `Rewrites`: a text, and one in which characters between double quotes have been written anew.
* `Rewrites.of_append`, `Rewrites.of_twice`: what stands before the quotes stays.
* `Rewrites.shortExtent?_eq`, `Rewrites.longExtent?_eq`: what is closed at its end stays closed there.
* `Rewrites.isLexeme`, `Rewrites.resolves`: a string stays a string, and its escapes stay known.
* `Rewrites.continuesComment`, `Rewrites.lineBehind_eq`: no line breaks come or go.
-/
namespace HistoricalFigures.Turtle

/-- **A text, and one in which characters between double quotes have been written anew**, where one kind of
quotes does not stand for itself in what is written. -/
inductive Rewrites (quote : Char) : List Char → List Char → Prop
  | nil : Rewrites quote [] []
  | char (c : Char) {text text' : List Char} (later : Rewrites quote text text') :
      Rewrites quote (c :: text) (c :: text')
  | segment {told told' text text' : List Char} (nonempty : told ≠ []) (nonempty' : told' ≠ [])
      (hides : Hides quote told) (hides' : Hides quote told')
      (later : Rewrites quote ('\x22' :: text) ('\x22' :: text')) :
      Rewrites quote ('\x22' :: (told.flatMap formatStringChar ++ '\x22' :: text))
        ('\x22' :: (told'.flatMap formatStringChar ++ '\x22' :: text'))

namespace Rewrites

variable {quote : Char} {text text' : List Char}

/-! ### What stays -/

theorem head?_eq (rewrites : Rewrites quote text text') : text'.head? = text.head? := by
  cases rewrites <;> rfl

theorem eq_nil (rewrites : Rewrites quote [] text') : text' = [] := by
  cases rewrites
  rfl

/-- Between quotes there is more than one character. -/
theorem three_le_length {told rest : List Char} (nonempty : told ≠ []) :
    3 ≤ ('\x22' :: (told.flatMap formatStringChar ++ '\x22' :: rest)).length := by
  obtain ⟨c, later, rfl⟩ := List.exists_cons_of_ne_nil nonempty
  have one : 1 ≤ (formatStringChar c).length := by
    rcases formatStringChar_cases c with ⟨written, _⟩ | ⟨_, written, _⟩ <;> simp [written]
  simp only [List.flatMap_cons, List.length_cons, List.length_append]
  omega

/-- Two characters stay as they are. -/
theorem eq_of_length_le_two (rewrites : Rewrites quote text text') (short : text.length ≤ 2) :
    text' = text := by
  induction rewrites with
  | nil => rfl
  | char c _ found => rw [found (Nat.le_of_succ_le short)]
  | segment nonempty => exact absurd (three_le_length nonempty) (Nat.not_le.mpr (Nat.lt_succ_of_le short))

/-- What has no double quotes stays as it is. -/
theorem of_append {front rest : List Char} (absent : '\x22' ∉ front)
    (rewrites : Rewrites quote (front ++ rest) text') :
    ∃ rest', text' = front ++ rest' ∧ Rewrites quote rest rest' := by
  induction front generalizing text' with
  | nil => exact ⟨text', rfl, rewrites⟩
  | cons c later found =>
    obtain ⟨other, others⟩ := List.ne_and_not_mem_of_not_mem_cons absent
    generalize whole : c :: later ++ rest = text at rewrites
    cases rewrites with
    | nil => cases whole
    | char d behind =>
      obtain ⟨rfl, rfl⟩ := List.cons.inj whole
      obtain ⟨rest', rfl, same⟩ := found others behind
      exact ⟨rest', rfl, same⟩
    | segment => exact absurd (List.cons.inj whole).1.symm other

/-- The first of two double quotes stays as it is, and so does the first of any other two characters. -/
theorem of_twice {c : Char} {rest : List Char} (rewrites : Rewrites quote (c :: c :: rest) text') :
    ∃ rest', text' = c :: rest' ∧ Rewrites quote (c :: rest) rest' := by
  generalize whole : c :: c :: rest = text at rewrites
  cases rewrites with
  | nil => cases whole
  | char d later =>
    obtain ⟨rfl, rfl⟩ := List.cons.inj whole
    exact ⟨_, rfl, later⟩
  | @segment told _ after _ nonempty =>
    obtain ⟨rfl, inner⟩ := List.cons.inj whole
    exact absurd (by rw [← inner]; rfl)
      (head?_formatStringChars told ('\x22' :: after) nonempty)

/-- No two quotes come together anew. -/
theorem take_two_eq {c : Char} (rewrites : Rewrites quote text text') (twice : text'.take 2 = [c, c]) :
    text.take 2 = [c, c] := by
  cases rewrites with
  | nil => exact twice
  | @char d text text' later =>
    cases text' with
    | nil => cases twice
    | cons e more =>
      obtain ⟨rfl, rfl⟩ : d = c ∧ e = c := by simpa using twice
      obtain ⟨before, rfl⟩ := List.head?_eq_some_iff.mp later.head?_eq.symm
      rfl
  | @segment _ told' _ after _ nonempty' =>
    have first : ('\x22' :: (told'.flatMap formatStringChar ++ '\x22' :: after)).take 2 =
        '\x22' :: (told'.flatMap formatStringChar ++ '\x22' :: after).take 1 := rfl
    rw [first] at twice
    obtain ⟨rfl, second⟩ := List.cons.inj twice
    have head := congrArg List.head? second
    rw [List.head?_take, if_neg (by decide)] at head
    exact absurd head (head?_formatStringChars told' ('\x22' :: after) nonempty')

/-! ### Strings -/

theorem closes_cons_iff {reach : Option Nat} {c : Char} {rest : List Char} :
    reach.map (· + 1) = some (c :: rest).length ↔ reach = some rest.length := by
  cases reach <;> simp

/-- Behind a text that is passed over the end is the end of the rest. -/
theorem closes_flatMap_iff {extent : List Char → Option Nat} {write : Char → List Char}
    {told : List Char} (each : ∀ c ∈ told, ∀ rest,
      extent (write c ++ rest) = (extent rest).map (· + (write c).length)) (rest : List Char) :
    extent (told.flatMap write ++ rest) = some (told.flatMap write ++ rest).length ↔
      extent rest = some rest.length := by
  rw [extent_flatMap each, List.length_append]
  cases extent rest with
  | none => simp
  | some count => simp [Nat.add_comm]

/-- **A short string that is closed at its end stays closed there.** The first character may belong to an
escape, or be the quote that opens the string. -/
theorem shortExtent?_eq (rewrites : Rewrites quote text text') {skipped : Nat} (few : skipped ≤ 1)
    (closes : shortExtent? quote skipped text = some text.length) :
    shortExtent? quote skipped text' = some text'.length := by
  induction rewrites generalizing skipped with
  | nil => exact closes
  | @char c text text' later found =>
    rcases shortExtent?_cons closes with ⟨alone, _, ends⟩ | ⟨next, count, length, fewer, there, goesOn⟩
    · obtain rfl := List.length_eq_zero_iff.mp (Nat.succ.inj alone)
      rw [later.eq_nil]
      exact ends []
    · rw [← Nat.succ.inj length] at there
      rw [goesOn, found (fewer few) there]
      rfl
  | @segment told told' text text' nonempty nonempty' hides hides' later found =>
    have inside := closes_flatMap_iff (fun c => shortExtent?_formatStringChar hides) ('\x22' :: text)
    have inside' := closes_flatMap_iff (fun c => shortExtent?_formatStringChar hides') ('\x22' :: text')
    have behind := fun closes => inside'.mpr (found (Nat.zero_le 1) (inside.mp closes))
    cases skipped with
    | succ skipped =>
      obtain rfl := Nat.le_zero.mp (Nat.le_of_succ_le_succ few)
      exact closes_cons_iff.mpr (behind (closes_cons_iff.mp closes))
    | zero =>
      -- A double quote would close the string before its end.
      have noQuote : '\x22' ≠ quote := by
        intro isQuote
        rw [shortExtent?, if_neg (by decide), if_pos isQuote] at closes
        have long := @three_le_length told text nonempty
        rw [← Option.some.inj closes] at long
        exact absurd long (by decide)
      rw [shortExtent?, if_neg (by decide), if_neg noQuote, if_neg (by decide)] at closes ⊢
      exact closes_cons_iff.mpr (behind (closes_cons_iff.mp closes))

/-- **A long string that is closed at its end stays closed there.** -/
theorem longExtent?_eq (rewrites : Rewrites quote text text') {skipped : Nat} (few : skipped ≤ 1)
    (closes : longExtent? quote skipped text = some text.length) :
    longExtent? quote skipped text' = some text'.length := by
  induction rewrites generalizing skipped with
  | nil => exact closes
  | @char c text text' later found =>
    rcases longExtent?_cons closes with ⟨three, _⟩ | ⟨next, count, length, fewer, there, goesOn⟩
    · rw [later.eq_of_length_le_two (Nat.le_of_eq (Nat.succ.inj three))]
      exact closes
    · rw [← Nat.succ.inj length] at there
      rw [goesOn text' later.take_two_eq, found (fewer few) there]
      rfl
  | @segment told told' text text' nonempty nonempty' hides hides' later found =>
    have inside := closes_flatMap_iff (fun c => longExtent?_formatStringChar hides) ('\x22' :: text)
    have inside' := closes_flatMap_iff (fun c => longExtent?_formatStringChar hides') ('\x22' :: text')
    have behind := fun closes => inside'.mpr (found (Nat.zero_le 1) (inside.mp closes))
    cases skipped with
    | succ skipped =>
      obtain rfl := Nat.le_zero.mp (Nat.le_of_succ_le_succ few)
      exact closes_cons_iff.mpr (behind (closes_cons_iff.mp closes))
    | zero =>
      have goesOn : ∀ {told : List Char} (rest : List Char), told ≠ [] →
          ¬ ('\x22' = quote ∧
            (told.flatMap formatStringChar ++ '\x22' :: rest).take 2 = [quote, quote]) := by
        rintro told rest nonempty ⟨rfl, twice⟩
        have first := congrArg List.head? twice
        rw [List.head?_take, if_neg (by decide)] at first
        exact head?_formatStringChars told _ nonempty first
      rw [longExtent?, if_neg (by decide), if_neg (goesOn _ nonempty)] at closes
      rw [longExtent?, if_neg (by decide), if_neg (goesOn _ nonempty')]
      exact closes_cons_iff.mpr (behind (closes_cons_iff.mp closes))

/-- **A string stays a string.** -/
theorem isLexeme {kind : TokenKind} (rewrites : Rewrites quote text text')
    (isString : kind.isString = true) (opens : text.head? = some quote)
    (isLexeme : IsLexeme kind text []) : IsLexeme kind text' [] := by
  cases kind <;> try cases isString
  · obtain ⟨quote', body, isQuote, rfl, closes⟩ := isLexeme_longString_iff.mp isLexeme
    obtain rfl : quote' = quote := Option.some.inj opens
    obtain ⟨first, rfl, later⟩ := rewrites.of_twice
    obtain ⟨second, rfl, last⟩ := later.of_twice
    obtain ⟨body', rfl⟩ := List.head?_eq_some_iff.mp last.head?_eq
    have whole := last.longExtent?_eq (Nat.le_refl 1) (closes_cons_iff.mpr closes)
    exact isLexeme_longString_iff.mpr ⟨quote', body', isQuote, rfl, closes_cons_iff.mp whole⟩
  · obtain ⟨quote', body, isQuote, rfl, closes⟩ := isLexeme_string_iff.mp isLexeme
    obtain rfl : quote' = quote := Option.some.inj opens
    obtain ⟨body', rfl⟩ := List.head?_eq_some_iff.mp rewrites.head?_eq
    have whole := rewrites.shortExtent?_eq (Nat.le_refl 1) (closes_cons_iff.mpr closes)
    exact isLexeme_string_iff.mpr ⟨quote', body', isQuote, rfl, closes_cons_iff.mp whole⟩

/-- An escape stays where it is. A double quote behind a backslash is an escape of its own. -/
theorem of_escape {letter : Char} {digits more : List Char}
    (rewrites : Rewrites quote (letter :: (digits ++ more)) text')
    (absent : digits = [] ∨ '\x22' ∉ letter :: digits) :
    ∃ more', text' = letter :: (digits ++ more') := by
  rcases absent with rfl | absent
  · exact List.head?_eq_some_iff.mp rewrites.head?_eq
  · obtain ⟨more', rfl, _⟩ := rewrites.of_append absent
    exact ⟨more', rfl⟩

/-- **Known escapes stay known.** The first characters may belong to an escape, or one of them be the quote
that opens the string. -/
theorem resolves (rewrites : Rewrites quote text text') {skipped : Nat}
    (plain : skipped ≤ 1 ∨ '\x22' ∉ text.take skipped) (resolves : Resolves skipped text) :
    Resolves skipped text' := by
  induction rewrites generalizing skipped with
  | nil => exact .nil skipped
  | @char c text text' later found =>
    cases skipped with
    | succ skipped =>
      refine found ?_ resolves
      refine plain.imp Nat.le_of_succ_le fun absent member => absent ?_
      rw [List.take_succ_cons]
      exact List.mem_cons_of_mem c member
    | zero =>
      by_cases backslash : c = '\\'
      · subst backslash
        cases text with
        | nil =>
          rw [later.eq_nil]
          exact resolves
        | cons letter rest =>
          obtain ⟨digits, more, rfl, hex, other, escape⟩ := Resolves.exists_of_backslash resolves
          have absent : digits = [] ∨ '\x22' ∉ letter :: digits := other.imp_right fun noQuote member =>
            (List.mem_cons.mp member).elim (Ne.symm noQuote) fun digit =>
              absurd (hex _ digit) (by decide)
          obtain ⟨more', rfl⟩ := later.of_escape absent
          have behind := @found (letter :: digits).length
            (absent.imp (fun none => by rw [none]; exact Nat.le_refl 1) fun absent => by
              rwa [← List.cons_append, List.take_left])
          rw [← List.cons_append, ← List.cons_append, Resolves.skip_iff, Resolves.skip_iff] at behind
          rw [escape] at resolves ⊢
          exact behind resolves
      · rw [Resolves.cons_iff backslash] at resolves ⊢
        exact found (.inl (Nat.zero_le 1)) resolves
  | @segment told told' text text' nonempty nonempty' hides hides' later found =>
    have inside := Resolves.written_iff told ('\x22' :: text)
    have inside' := Resolves.written_iff told' ('\x22' :: text')
    have behind := fun resolves => inside'.mpr (found (.inl (Nat.zero_le 1)) (inside.mp resolves))
    cases skipped with
    | zero => exact (Resolves.cons_iff (by decide)).mpr (behind ((Resolves.cons_iff (by decide)).mp resolves))
    | succ skipped =>
      cases skipped with
      | zero => exact behind resolves
      | succ skipped =>
        refine absurd List.mem_cons_self (plain.resolve_left ?_)
        exact Nat.not_le.mpr (Nat.succ_lt_succ (Nat.succ_pos skipped))

/-- **The escapes in a string stay known.** -/
theorem resolves_quoteCount {kind : TokenKind} (rewrites : Rewrites quote text text')
    (isString : kind.isString = true) (isLexeme : IsLexeme kind text [])
    (known : Resolves kind.quoteCount text) : Resolves kind.quoteCount text' := by
  cases kind <;> try cases isString
  · obtain ⟨_, body, _, rfl, _⟩ := isLexeme_longString_iff.mp isLexeme
    obtain ⟨first, rfl, later⟩ := rewrites.of_twice
    obtain ⟨second, rfl, last⟩ := later.of_twice
    exact last.resolves (.inl (Nat.le_refl 1)) known
  · exact rewrites.resolves (.inl (Nat.le_refl 1)) known

/-! ### Lines -/

/-- **No line breaks come**: a comment stays a comment. -/
theorem continuesComment (rewrites : Rewrites quote text text')
    (sameLine : ∀ c ∈ text, continuesComment c = true) : ∀ c ∈ text', continuesComment c = true := by
  induction rewrites with
  | nil => exact sameLine
  | char c later found =>
    obtain ⟨here, others⟩ := List.forall_mem_cons.mp sameLine
    exact List.forall_mem_cons.mpr ⟨here, found others⟩
  | segment nonempty nonempty' hides hides' later found =>
    obtain ⟨here, others⟩ := List.forall_mem_cons.mp sameLine
    have behind := found (List.forall_mem_append.mp others).2
    refine List.forall_mem_cons.mpr ⟨here, List.forall_mem_append.mpr ⟨fun c member => ?_, behind⟩⟩
    obtain ⟨feed, carriage⟩ := forall_mem_formatStringChars c member
    exact decide_eq_true ⟨carriage, feed⟩

/-- **The line behind a text stays the same.** -/
theorem lineBehind_eq (rewrites : Rewrites quote text text') (line : Nat) :
    lineBehind line text' = lineBehind line text := by
  induction rewrites generalizing line with
  | nil => rfl
  | char c later found => exact found (lineAfter line c)
  | @segment told told' text text' nonempty nonempty' hides hides' later found =>
    have inside : ∀ told rest : List Char,
        lineBehind line ('\x22' :: (told.flatMap formatStringChar ++ rest)) = lineBehind line rest := by
      intro told rest
      have stays := lineBehind_eq_self
        (fun feed => (@forall_mem_formatStringChars told _ feed).1 rfl) line
      have quote : lineAfter line '\x22' = line := if_neg (by decide)
      rw [lineBehind, List.foldl_cons, quote, List.foldl_append]
      exact congrArg (lineBehind · rest) stays
    rw [inside, inside, found]

end Rewrites

end HistoricalFigures.Turtle
