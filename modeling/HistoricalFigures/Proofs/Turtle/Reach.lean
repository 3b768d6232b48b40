import HistoricalFigures.Proofs.Turtle.RawIri
import HistoricalFigures.Proofs.Unicode.Blank

/-!
**How far a token reaches does not depend on what stands behind a blank.** A token looks at the
characters behind it only until it meets a blank, a quote or the sign of a comment.

* `Breaks`: a text that is empty or begins with a blank.
* `isEdge`, `IsEdged`: the characters that end every token before them, and a text that begins with one.
* `IsTokenReader`: what the first character of a token makes of the characters behind it.
* `extent?_append_edged`: a token reaches as far without the text behind an edge as with it.
* `extent?_of_append`: behind a blank the same holds for strings.
-/
namespace HistoricalFigures

namespace Turtle

theorem isNameChar_of_isBlank {c : Char} (blank : Unicode.isBlank c = true) :
    isNameChar c = false := by
  rw [isNameChar, Unicode.isWord_of_isBlank blank,
    decide_eq_false (Unicode.ne_of_isBlank blank '-' (by decide)), Bool.or_false]

theorem isLocalChar_of_isBlank {c : Char} (blank : Unicode.isBlank c = true) :
    isLocalChar c = false := by
  rw [isLocalChar, isNameChar_of_isBlank blank,
    decide_eq_false (Unicode.ne_of_isBlank blank '%' (by decide)),
    decide_eq_false (Unicode.ne_of_isBlank blank ':' (by decide)), Bool.or_false, Bool.or_false]

/-! ### What follows a text does not count behind a blank -/

/-- A text that is empty or begins with a blank. -/
def Breaks (rest : List Char) : Prop := ∀ c ∈ rest.head?, Unicode.isBlank c = true

theorem breaks_nil : Breaks [] := fun _ first => nomatch first

theorem Breaks.all_head? {rest : List Char} (breaks : Breaks rest) :
    rest.head?.all Unicode.isBlank = true := by
  cases rest with
  | nil => rfl
  | cons c later => exact breaks c rfl

/-- The characters that no token takes beyond its first one, but a string or a resource: blanks, quotes
and the sign of a comment. -/
def isEdge (c : Char) : Bool := Unicode.isBlank c || c = '\x22' || c = '\x27' || c = '#'

/-- A text that is empty or begins with such a character. -/
def IsEdged (rest : List Char) : Prop := ∀ c ∈ rest.head?, isEdge c = true

theorem Breaks.isEdged {rest : List Char} (breaks : Breaks rest) : IsEdged rest := fun c first => by
  rw [isEdge, breaks c first]
  rfl

/-- What holds of no blank, quote or number sign holds of no edge. -/
theorem eq_false_of_isEdge {p : Char → Bool} (blanks : ∀ c, Unicode.isBlank c = true → p c = false)
    (others : p '\x22' = false ∧ p '\x27' = false ∧ p '#' = false) {c : Char}
    (edge : isEdge c = true) : p c = false := by
  simp only [isEdge, Bool.or_eq_true, decide_eq_true_eq] at edge
  rcases edge with ((blank | rfl) | rfl) | rfl
  · exact blanks c blank
  · exact others.1
  · exact others.2.1
  · exact others.2.2

theorem ne_of_isEdge {c : Char} (edge : isEdge c = true) (d : Char) (other : isEdge d = false) :
    c ≠ d := by
  rintro rfl
  rw [edge] at other
  cases other

theorem isWord_of_isEdge {c : Char} (edge : isEdge c = true) : Unicode.isWord c = false :=
  eq_false_of_isEdge (fun _ => Unicode.isWord_of_isBlank) (by decide +kernel) edge

theorem isNameChar_of_isEdge {c : Char} (edge : isEdge c = true) : isNameChar c = false :=
  eq_false_of_isEdge (fun _ => isNameChar_of_isBlank) (by decide +kernel) edge

theorem isLocalChar_of_isEdge {c : Char} (edge : isEdge c = true) : isLocalChar c = false :=
  eq_false_of_isEdge (fun _ => isLocalChar_of_isBlank) (by decide +kernel) edge

theorem isDigit_of_isEdge {c : Char} (edge : isEdge c = true) : Unicode.isDigit c = false :=
  eq_false_of_isEdge (fun _ => Unicode.isDigit_of_isBlank) (by decide +kernel) edge

theorem isAlphanum_of_isEdge {c : Char} (edge : isEdge c = true) : c.isAlphanum = false :=
  eq_false_of_isEdge (fun _ => Unicode.isAlphanum_of_isBlank) (by decide) edge

theorem isAlpha_of_isEdge {c : Char} (edge : isEdge c = true) : c.isAlpha = false :=
  eq_false_of_isEdge (fun _ => Unicode.isAlpha_of_isBlank) (by decide) edge

theorem dottedExtent_le (p : Char → Bool) (text : List Char) :
    dottedExtent p text ≤ text.length := by
  induction text with
  | nil => exact Nat.le_refl 0
  | cons c later found =>
    rw [dottedExtent]
    split
    · exact Nat.succ_le_succ found
    · exact Nat.zero_le _

theorem fractionExtent_le (text : List Char) : fractionExtent text ≤ text.length := by
  unfold fractionExtent
  split
  · rename_i later
    have within : (later.takeWhile Unicode.isDigit).length ≤ later.length :=
      (List.takeWhile_prefix _).length_le
    dsimp only
    split
    · exact Nat.zero_le _
    · exact Nat.succ_le_succ within
  · exact Nat.zero_le _

section Edged

variable {p : Char → Bool} {rest : List Char} (edged : IsEdged rest)
include edged

theorem head?_any_append (other : ∀ c, isEdge c = true → p c = false)
    (text : List Char) : (text ++ rest).head?.any p = text.head?.any p := by
  cases text with
  | cons c later => rfl
  | nil =>
    cases rest with
    | nil => rfl
    | cons c later => exact other c (edged c rfl)

theorem head?_append_eq_iff {d : Char} (other : isEdge d = false) (text : List Char) :
    (text ++ rest).head? = some d ↔ text.head? = some d := by
  have here := head?_any_append edged (p := (· = d))
    (fun c edge => decide_eq_false (ne_of_isEdge edge d other)) text
  simpa [Option.any_eq_true] using Bool.eq_iff_iff.mp here

theorem takeWhile_append_edged (other : ∀ c, isEdge c = true → p c = false)
    (text : List Char) : (text ++ rest).takeWhile p = text.takeWhile p := by
  induction text with
  | cons c later found => rw [List.cons_append, List.takeWhile_cons, List.takeWhile_cons, found]
  | nil =>
    cases rest with
    | nil => rfl
    | cons c later =>
      rw [List.nil_append, List.takeWhile_cons_of_neg (by rw [other c (edged c rfl)]; exact nofun)]
      rfl

theorem dottedExtent_append_edged (other : ∀ c, isEdge c = true → p c = false)
    (text : List Char) : dottedExtent p (text ++ rest) = dottedExtent p text := by
  induction text with
  | cons c later found =>
    rw [List.cons_append, dottedExtent, dottedExtent, head?_any_append edged other, found]
  | nil =>
    cases rest with
    | nil => rfl
    | cons c later =>
      have edge := edged c rfl
      simp [dottedExtent, other c edge, ne_of_isEdge edge '.' (by decide)]

theorem subtagExtent_append_edged (text : List Char) :
    subtagExtent (text ++ rest) = subtagExtent text := by
  induction text with
  | cons c later found =>
    rw [List.cons_append, subtagExtent, subtagExtent,
      head?_any_append edged fun _ => isAlphanum_of_isEdge, found]
  | nil =>
    cases rest with
    | nil => rfl
    | cons c later =>
      have edge := edged c rfl
      simp [subtagExtent, isAlphanum_of_isEdge edge,
        ne_of_isEdge edge '-' (by decide)]

theorem languageExtent_append_edged (text : List Char) :
    languageExtent (text ++ rest) = languageExtent text := by
  have letters := takeWhile_append_edged edged (fun _ => isAlpha_of_isEdge) text
  have within : (text.takeWhile Char.isAlpha).length ≤ text.length :=
    (List.takeWhile_prefix _).length_le
  unfold languageExtent
  simp only [letters, List.drop_append_of_le_length within, subtagExtent_append_edged edged,
    head?_append_eq_iff edged (by decide : isEdge '-' = false)]

theorem localExtent_append_edged (text : List Char) :
    localExtent (text ++ rest) = localExtent text := by
  rw [localExtent, localExtent, head?_any_append edged fun _ => isLocalChar_of_isEdge,
    dottedExtent_append_edged edged fun _ => isLocalChar_of_isEdge]

theorem fractionExtent_append_edged (text : List Char) :
    fractionExtent (text ++ rest) = fractionExtent text := by
  cases text with
  | cons c later =>
    by_cases point : c = '.'
    · subst point
      simp only [List.cons_append, fractionExtent,
        takeWhile_append_edged edged fun _ => isDigit_of_isEdge]
    · simp [fractionExtent, point]
  | nil =>
    cases rest with
    | nil => rfl
    | cons c later => simp [fractionExtent, ne_of_isEdge (edged c rfl) '.' (by decide)]

theorem exponentExtent_append_edged (text : List Char) :
    exponentExtent (text ++ rest) = exponentExtent text := by
  cases text with
  | cons c later =>
    have plus := head?_append_eq_iff edged (by decide : isEdge '+' = false) later
    have minus := head?_append_eq_iff edged (by decide : isEdge '-' = false) later
    have sign : ∀ count ≤ later.length, ((later ++ rest).drop count).takeWhile Unicode.isDigit =
        (later.drop count).takeWhile Unicode.isDigit := fun count within => by
      rw [List.drop_append_of_le_length within,
        takeWhile_append_edged edged fun _ => isDigit_of_isEdge]
    simp only [List.cons_append, exponentExtent, plus, minus]
    split
    · rename_i signed
      have within : 1 ≤ later.length := by
        cases later with
        | nil => simp at signed
        | cons d more => exact Nat.succ_le_succ (Nat.zero_le _)
      rw [sign 1 within]
    · rw [sign 0 (Nat.zero_le _)]
  | nil =>
    cases rest with
    | nil => rfl
    | cons c later =>
      have edge := edged c rfl
      simp [exponentExtent, ne_of_isEdge edge 'e' (by decide),
        ne_of_isEdge edge 'E' (by decide)]

theorem numberExtent_append_edged (text : List Char) :
    numberExtent (text ++ rest) = numberExtent text := by
  have within : (text.takeWhile Unicode.isDigit).length ≤ text.length :=
    (List.takeWhile_prefix _).length_le
  have further : (text.takeWhile Unicode.isDigit).length +
      fractionExtent (text.drop (text.takeWhile Unicode.isDigit).length) ≤ text.length := by
    have fraction := fractionExtent_le (text.drop (text.takeWhile Unicode.isDigit).length)
    rw [List.length_drop] at fraction
    omega
  unfold numberExtent
  simp only [takeWhile_append_edged edged fun _ => isDigit_of_isEdge,
    List.drop_append_of_le_length within, fractionExtent_append_edged edged,
    List.drop_append_of_le_length further, exponentExtent_append_edged edged]

theorem letterExtent_append_edged (text : List Char) :
    letterExtent (text ++ rest) = letterExtent text := by
  have names := dottedExtent_append_edged edged (fun _ => isNameChar_of_isEdge) text
  have behind : (text ++ rest).drop (dottedExtent isNameChar text) =
      text.drop (dottedExtent isNameChar text) ++ rest :=
    List.drop_append_of_le_length (dottedExtent_le isNameChar text)
  unfold letterExtent
  simp only [names, behind, takeWhile_append_edged edged fun _ => isNameChar_of_isEdge]
  cases text.drop (dottedExtent isNameChar text) with
  | cons c later =>
    by_cases colon : c = ':'
    · subst colon
      simp only [List.cons_append, localExtent_append_edged edged]
    · simp [colon]
  | nil =>
    cases rest with
    | nil => rfl
    | cons c later => simp [ne_of_isEdge (edged c rfl) ':' (by decide)]

/-- A word without edges that a text begins with, and what may follow it. -/
theorem isPrefixOf_append_edged {word : List Char}
    (plain : ∀ c ∈ word, isEdge c = false) (text : List Char) :
    word.isPrefixOf (text ++ rest) = word.isPrefixOf text := by
  induction word generalizing text with
  | nil => cases text <;> rfl
  | cons letter word found =>
    obtain ⟨here, others⟩ := List.forall_mem_cons.mp plain
    cases text with
    | cons c later =>
      rw [List.cons_append, List.isPrefixOf_cons_cons, List.isPrefixOf_cons_cons, found others]
    | nil =>
      cases rest with
      | nil => rfl
      | cons c later =>
        have other := (ne_of_isEdge (edged c rfl) letter here).symm
        simp [List.isPrefixOf, other]

theorem atExtent?_append_edged (text : List Char) : atExtent? (text ++ rest) = atExtent? text := by
  have words : ∀ word ∈ directiveWords,
      (word.isPrefixOf (text ++ rest) &&
        !((text ++ rest).drop word.length).head?.any Unicode.isWord) =
      (word.isPrefixOf text && !(text.drop word.length).head?.any Unicode.isWord) := by
    intro word member
    have plain : ∀ word ∈ directiveWords,
        word.all (fun c => decide (isEdge c = false)) = true := by
      decide
    rw [isPrefixOf_append_edged edged (Unicode.forall_mem_of_all (plain word member))]
    cases start : word.isPrefixOf text with
    | false => rfl
    | true =>
      have within := (List.isPrefixOf_iff_prefix.mp start).length_le
      rw [List.drop_append_of_le_length within,
        head?_any_append edged fun _ => isWord_of_isEdge]
  have first := words "prefix".toList (by decide)
  have second := words "base".toList (by decide)
  simp only [atExtent?, directiveWords, List.find?_cons, List.find?_nil, first, second,
    languageExtent_append_edged edged]

end Edged

/-! ### Strings and resources -/

/-- **Over one character** the search for the closing quote ends there, or it goes on, and then before any
other text, too. -/
theorem shortExtent?_cons {quote c : Char} {skipped extent : Nat} {later : List Char}
    (found : shortExtent? quote skipped (c :: later) = some extent) :
    (extent = 1 ∧ c = quote ∧ ∀ other, shortExtent? quote skipped (c :: other) = some 1) ∨
      ∃ next count, extent = count + 1 ∧ (skipped ≤ 1 → next ≤ 1) ∧
        shortExtent? quote next later = some count ∧
        ∀ other, shortExtent? quote skipped (c :: other) =
          (shortExtent? quote next other).map (· + 1) := by
  have goesOn : ∀ next, (skipped ≤ 1 → next ≤ 1) → (∀ other,
      shortExtent? quote skipped (c :: other) = (shortExtent? quote next other).map (· + 1)) →
      ∃ next count, extent = count + 1 ∧ (skipped ≤ 1 → next ≤ 1) ∧
        shortExtent? quote next later = some count ∧
        ∀ other, shortExtent? quote skipped (c :: other) =
          (shortExtent? quote next other).map (· + 1) := by
    intro next fewer step
    obtain ⟨count, there, rfl⟩ := Option.map_eq_some_iff.mp ((step later).symm.trans found)
    exact ⟨next, count, rfl, fewer, there, step⟩
  cases skipped with
  | succ skipped => exact .inr (goesOn skipped Nat.le_of_succ_le fun _ => rfl)
  | zero =>
    by_cases backslash : c = '\\'
    · exact .inr (goesOn 1 (fun _ => Nat.le_refl 1) fun _ => by rw [shortExtent?, if_pos backslash])
    by_cases closes : c = quote
    · have ends : ∀ other, shortExtent? quote 0 (c :: other) = some 1 := fun _ => by
        rw [shortExtent?, if_neg backslash, if_pos closes]
      exact .inl ⟨Option.some.inj (found.symm.trans (ends later)), closes, ends⟩
    by_cases breaks : c = '\n' ∨ c = '\r'
    · rw [shortExtent?, if_neg backslash, if_neg closes, if_pos breaks] at found
      cases found
    · exact .inr (goesOn 0 (fun _ => Nat.zero_le 1) fun _ => by
        rw [shortExtent?, if_neg backslash, if_neg closes, if_neg breaks])

theorem pos_of_shortExtent? {quote : Char} {skipped extent : Nat} {text : List Char}
    (found : shortExtent? quote skipped text = some extent) : 0 < extent := by
  cases text with
  | nil => cases skipped <;> cases found
  | cons c later =>
    rcases shortExtent?_cons found with ⟨rfl, _⟩ | ⟨_, count, rfl, _⟩
    · exact Nat.one_pos
    · exact Nat.succ_pos count

/-- A string that is closed within a text is closed there whatever follows. -/
theorem shortExtent?_of_append {quote : Char} {skipped extent : Nat} {text rest : List Char}
    (found : shortExtent? quote skipped (text ++ rest) = some extent)
    (within : extent ≤ text.length) : shortExtent? quote skipped text = some extent := by
  induction text generalizing skipped extent with
  | nil => exact absurd (pos_of_shortExtent? found) (Nat.not_lt.mpr within)
  | cons c later shorter =>
    rcases shortExtent?_cons found with ⟨rfl, _, ends⟩ | ⟨next, count, rfl, _, there, goesOn⟩
    · exact ends later
    · rw [goesOn, shorter there (Nat.le_of_succ_le_succ within)]
      rfl

/-- A short string that is closed is closed whatever follows. -/
theorem shortExtent?_append {quote : Char} {skipped extent : Nat} {text : List Char}
    (found : shortExtent? quote skipped text = some extent) (rest : List Char) :
    shortExtent? quote skipped (text ++ rest) = some extent := by
  induction text generalizing skipped extent with
  | nil => cases skipped <;> cases found
  | cons c later shorter =>
    rcases shortExtent?_cons found with ⟨rfl, _, ends⟩ | ⟨next, count, rfl, _, there, goesOn⟩
    · exact ends (later ++ rest)
    · rw [List.cons_append, goesOn, shorter there]
      rfl

theorem length_of_take_two {first second : Char} {text : List Char}
    (two : text.take 2 = [first, second]) : 2 ≤ text.length := by
  have length := congrArg List.length two
  simp only [List.length_take, List.length_cons, List.length_nil] at length
  omega

/-- **Over one character** the search for three closing quotes ends there, or it goes on, and then before any
other text that does not begin with two quotes anew. -/
theorem longExtent?_cons {quote c : Char} {skipped extent : Nat} {later : List Char}
    (found : longExtent? quote skipped (c :: later) = some extent) :
    (extent = 3 ∧ c = quote ∧ later.take 2 = [quote, quote] ∧
        ∀ other, other.take 2 = [quote, quote] → longExtent? quote skipped (c :: other) = some 3) ∨
      ∃ next count, extent = count + 1 ∧ (skipped ≤ 1 → next ≤ 1) ∧
        longExtent? quote next later = some count ∧
        ∀ other, (other.take 2 = [quote, quote] → later.take 2 = [quote, quote]) →
          longExtent? quote skipped (c :: other) = (longExtent? quote next other).map (· + 1) := by
  have goesOn : ∀ next, (skipped ≤ 1 → next ≤ 1) → (∀ other,
      (other.take 2 = [quote, quote] → later.take 2 = [quote, quote]) →
        longExtent? quote skipped (c :: other) = (longExtent? quote next other).map (· + 1)) →
      ∃ next count, extent = count + 1 ∧ (skipped ≤ 1 → next ≤ 1) ∧
        longExtent? quote next later = some count ∧
        ∀ other, (other.take 2 = [quote, quote] → later.take 2 = [quote, quote]) →
          longExtent? quote skipped (c :: other) = (longExtent? quote next other).map (· + 1) := by
    intro next fewer step
    obtain ⟨count, there, rfl⟩ := Option.map_eq_some_iff.mp ((step later id).symm.trans found)
    exact ⟨next, count, rfl, fewer, there, step⟩
  cases skipped with
  | succ skipped => exact .inr (goesOn skipped Nat.le_of_succ_le fun _ _ => rfl)
  | zero =>
    by_cases backslash : c = '\\'
    · exact .inr (goesOn 1 (fun _ => Nat.le_refl 1) fun _ _ => by rw [longExtent?, if_pos backslash])
    by_cases closes : c = quote ∧ later.take 2 = [quote, quote]
    · have ends : ∀ other, other.take 2 = [quote, quote] → longExtent? quote 0 (c :: other) = some 3 :=
        fun _ two => by rw [longExtent?, if_neg backslash, if_pos ⟨closes.1, two⟩]
      exact .inl ⟨Option.some.inj (found.symm.trans (ends later closes.2)), closes.1, closes.2, ends⟩
    · exact .inr (goesOn 0 (fun _ => Nat.zero_le 1) fun _ noNew => by
        rw [longExtent?, if_neg backslash, if_neg fun two => closes ⟨two.1, noNew two.2⟩])

/-- Three quotes close a long string. -/
theorem length_of_longExtent? {quote : Char} {skipped extent : Nat} {text : List Char}
    (found : longExtent? quote skipped text = some extent) : 3 ≤ extent ∧ extent ≤ text.length := by
  induction text generalizing skipped extent with
  | nil => cases skipped <;> cases found
  | cons c later shorter =>
    rcases longExtent?_cons found with ⟨rfl, _, two, _⟩ | ⟨_, count, rfl, _, there, _⟩
    · exact ⟨Nat.le_refl 3, Nat.succ_le_succ (length_of_take_two two)⟩
    · obtain ⟨least, most⟩ := shorter there
      exact ⟨Nat.le_succ_of_le least, Nat.succ_le_succ most⟩

/-- A long string that is closed is closed whatever follows. -/
theorem longExtent?_append {quote : Char} {skipped extent : Nat} {text : List Char}
    (found : longExtent? quote skipped text = some extent) (rest : List Char) :
    longExtent? quote skipped (text ++ rest) = some extent := by
  induction text generalizing skipped extent with
  | nil => cases skipped <;> cases found
  | cons c later shorter =>
    rcases longExtent?_cons found with ⟨rfl, _, two, ends⟩ | ⟨next, count, rfl, _, there, goesOn⟩
    · refine ends (later ++ rest) ?_
      rw [List.take_append_of_le_length (length_of_take_two two), two]
    · have long : 2 ≤ later.length := by
        have bounds := length_of_longExtent? there
        omega
      have noNew : (later ++ rest).take 2 = [quote, quote] → later.take 2 = [quote, quote] := fun two => by
        rwa [List.take_append_of_le_length long] at two
      rw [List.cons_append, goesOn _ noNew, shorter there]
      rfl

/-- A long string that is closed within a text is closed there without what follows. -/
theorem longExtent?_of_append {quote : Char} {skipped extent : Nat} {text rest : List Char}
    (found : longExtent? quote skipped (text ++ rest) = some extent)
    (within : extent ≤ text.length) : longExtent? quote skipped text = some extent := by
  induction text generalizing skipped extent with
  | nil =>
    have least := (length_of_longExtent? found).1
    exact absurd (Nat.le_trans least within) (by decide)
  | cons c later shorter =>
    rw [List.cons_append] at found
    rcases longExtent?_cons found with ⟨rfl, _, two, ends⟩ | ⟨next, count, rfl, _, there, goesOn⟩
    · refine ends later ?_
      rwa [List.take_append_of_le_length (Nat.le_of_succ_le_succ within)] at two
    · have noNew : later.take 2 = [quote, quote] → (later ++ rest).take 2 = [quote, quote] := fun two => by
        rw [List.take_append_of_le_length (length_of_take_two two), two]
      rw [goesOn later noNew, shorter there (Nat.le_of_succ_le_succ within)]
      rfl

/-- A string is a long one, or it is closed by one quote and by no three. -/
theorem stringExtent?_cases {quote : Char} {text : List Char} {kind : TokenKind} {extent : Nat}
    (found : stringExtent? quote text = some (kind, extent)) :
    kind = .longString ∨ kind = .string ∧ shortExtent? quote 0 text = some extent ∧
      (if text.take 2 = [quote, quote] then longExtent? quote 0 (text.drop 2) else none) = none := by
  unfold stringExtent? at found
  dsimp only at found
  split at found
  · cases found
    exact .inl rfl
  · rename_i noLong
    obtain ⟨count, short, same⟩ := Option.map_eq_some_iff.mp found
    cases same
    exact .inr ⟨rfl, short, noLong⟩

/-- **A short string reaches as far without the text behind it.** -/
theorem stringExtent?_of_append {quote : Char} {text rest : List Char} {extent : Nat}
    (found : stringExtent? quote (text ++ rest) = some (.string, extent))
    (within : extent ≤ text.length) : stringExtent? quote text = some (.string, extent) := by
  obtain ⟨_, short, noLong⟩ := (stringExtent?_cases found).resolve_left (by decide)
  have long : (if text.take 2 = [quote, quote] then longExtent? quote 0 (text.drop 2) else none) =
      none := by
    split
    · rename_i twice
      have length := length_of_take_two twice
      rw [List.take_append_of_le_length length, if_pos twice,
        List.drop_append_of_le_length length] at noLong
      refine Option.not_isSome_iff_eq_none.mp fun closes => ?_
      obtain ⟨count, closes⟩ := Option.isSome_iff_exists.mp closes
      rw [longExtent?_append closes] at noLong
      cases noLong
    · rfl
  unfold stringExtent?
  simp only [long, shortExtent?_of_append short within, Option.map_some]

/-- **A resource between angle brackets reaches as far without the text behind it.** -/
theorem iriExtent?_of_append {text rest : List Char} {extent : Nat}
    (found : iriExtent? 0 (text ++ rest) = some extent) (within : extent ≤ text.length) :
    iriExtent? 0 text = some extent := by
  obtain ⟨raw, behind, whole, rfl, isRaw⟩ := exists_of_iriExtent? found
  have start : raw ++ ['>'] <+: text ++ rest := ⟨behind, by rw [whole]; simp⟩
  have inside : raw ++ ['>'] <+: text := by
    refine List.prefix_of_prefix_length_le start (List.prefix_append text rest) ?_
    rw [List.length_append]
    exact within
  obtain ⟨later, rfl⟩ := inside
  rw [List.append_assoc, List.singleton_append]
  exact isRaw.extent later

/-! ### The first character of a token -/

/-- What the first character of a token makes of the characters behind it. -/
inductive IsTokenReader : Char → (List Char → Option (Option TokenKind × Nat)) → Prop where
  | blank (c : Char) : Unicode.isBlank c = true → IsTokenReader c fun _ => some (none, 0)
  | comment : IsTokenReader '#' fun rest =>
    some (none, (rest.takeWhile fun d => d ≠ '\r' ∧ d ≠ '\n').length)
  | iri : IsTokenReader '<' fun rest =>
    (iriExtent? 0 rest).map fun extent => (some .iri, extent)
  | string (quote : Char) : quote = '\x22' ∨ quote = '\x27' → IsTokenReader quote fun rest =>
    (stringExtent? quote rest).map fun (kind, extent) => (some kind, extent)
  | at_ : IsTokenReader '@' fun rest =>
    (atExtent? rest).map fun (kind, extent) => (some kind, extent)
  | mark : IsTokenReader '^' fun rest =>
    if rest.head? = some '^' then some (some .datatypeMark, 1) else none
  | sign (c : Char) : c = '+' ∨ c = '-' → IsTokenReader c fun rest =>
    if numberExtent rest = 0 then none else some (some .number, numberExtent rest)
  | digit (c : Char) : Unicode.isDigit c = true → IsTokenReader c fun rest =>
    some (some .number, numberExtent (c :: rest) - 1)
  | colon : IsTokenReader ':' fun rest => some (some .name, localExtent rest)
  | letter (c : Char) : c.isAlpha = true → IsTokenReader c fun rest =>
    some (some (letterExtent rest).1, (letterExtent rest).2)
  | lowLine : IsTokenReader '_' fun rest =>
    if rest.head? = some ':' then
      some (some .blankNode, 1 + ((rest.drop 1).takeWhile isNameChar).length)
    else none
  | bracket (c : Char) : c = '[' ∨ c = ']' ∨ c = '(' ∨ c = ')' →
    IsTokenReader c fun _ => some (some .blankNode, 0)
  | punctuation (c : Char) : c = '.' ∨ c = ';' ∨ c = ',' →
    IsTokenReader c fun _ => some (some .punctuation, 0)
  | other (c : Char) : IsTokenReader c fun _ => none

/-- **A token is read by its first character.** -/
theorem isTokenReader (c : Char) : IsTokenReader c (extent? c) := by
  -- The conditions on the character are tried one after the other.
  unfold extent?
  by_cases blank : Unicode.isBlank c = true
  · simp only [if_pos blank]
    exact .blank c blank
  simp only [if_neg blank]
  by_cases comment : c = '#'
  · subst comment
    exact .comment
  simp only [if_neg comment]
  by_cases iri : c = '<'
  · subst iri
    exact .iri
  simp only [if_neg iri]
  by_cases quote : c = '\x22' ∨ c = '\x27'
  · simp only [if_pos quote]
    exact .string c quote
  simp only [if_neg quote]
  by_cases at_ : c = '@'
  · subst at_
    exact .at_
  simp only [if_neg at_]
  by_cases mark : c = '^'
  · subst mark
    exact .mark
  simp only [if_neg mark]
  by_cases sign : c = '+' ∨ c = '-'
  · simp only [if_pos sign]
    exact .sign c sign
  simp only [if_neg sign]
  by_cases digit : Unicode.isDigit c = true
  · simp only [if_pos digit]
    exact .digit c digit
  simp only [if_neg digit]
  by_cases colon : c = ':'
  · subst colon
    exact .colon
  simp only [if_neg colon]
  by_cases letter : c.isAlpha = true
  · simp only [if_pos letter]
    exact .letter c letter
  simp only [if_neg letter]
  by_cases lowLine : c = '_'
  · subst lowLine
    exact .lowLine
  simp only [if_neg lowLine]
  by_cases bracket : c = '[' ∨ c = ']' ∨ c = '(' ∨ c = ')'
  · simp only [if_pos bracket]
    exact .bracket c bracket
  simp only [if_neg bracket]
  by_cases punctuation : c = '.' ∨ c = ';' ∨ c = ','
  · simp only [if_pos punctuation]
    exact .punctuation c punctuation
  simp only [if_neg punctuation]
  exact .other c

theorem extent?_iri (rest : List Char) :
    extent? '<' rest = (iriExtent? 0 rest).map fun extent => (some .iri, extent) := by
  rw [extent?, if_neg (by decide), if_neg (by decide), if_pos rfl]

theorem extent?_quote {quote : Char} (isQuote : quote = '\x22' ∨ quote = '\x27') (rest : List Char) :
    extent? quote rest = (stringExtent? quote rest).map fun (kind, extent) => (some kind, extent) := by
  rcases isQuote with rfl | rfl <;>
    rw [extent?, if_neg (by decide), if_neg (by decide), if_neg (by decide), if_pos (by decide)]

/-- The characters that begin a string, a resource between angle brackets or a comment. -/
def opensText (c : Char) : Bool := c = '<' || c = '\x22' || c = '\x27' || c = '#'

/-- **What stands behind an edge does not count** for a token that is neither a string nor a resource
between angle brackets. -/
theorem extent?_append_edged {c : Char} {rest : List Char} (edged : IsEdged rest)
    (other : opensText c = false) (text : List Char) : extent? c (text ++ rest) = extent? c text := by
  have isReader := isTokenReader c
  generalize extent? c = reader at isReader ⊢
  cases isReader with
  | comment => cases other
  | iri => cases other
  | string _ isQuote => rcases isQuote with rfl | rfl <;> cases other
  | at_ => simp only [atExtent?_append_edged edged]
  | mark => simp only [head?_append_eq_iff edged (by decide : isEdge '^' = false)]
  | sign _ _ => simp only [numberExtent_append_edged edged]
  | digit _ _ => simp only [← List.cons_append, numberExtent_append_edged edged]
  | colon => simp only [localExtent_append_edged edged]
  | letter _ _ => simp only [letterExtent_append_edged edged]
  | lowLine =>
    simp only [head?_append_eq_iff edged (by decide : isEdge ':' = false)]
    split
    · rename_i colon
      have long : 1 ≤ text.length := by
        cases text with
        | nil => cases colon
        | cons c later => exact Nat.succ_le_succ (Nat.zero_le _)
      rw [List.drop_append_of_le_length long,
        takeWhile_append_edged edged fun _ => isNameChar_of_isEdge]
    · rfl
  | blank _ _ | bracket _ _ | punctuation _ _ | other _ => rfl

/-- A token reaches as far without the text behind an edge as with it, unless it is a string. -/
theorem extent?_of_append_edged {c : Char} {text rest : List Char} (edged : IsEdged rest)
    {kind : TokenKind} {extent : Nat} (found : extent? c (text ++ rest) = some (some kind, extent))
    (within : extent ≤ text.length) (noString : c ≠ '\x22' ∧ c ≠ '\x27') :
    extent? c text = some (some kind, extent) := by
  by_cases iri : c = '<'
  · subst iri
    rw [extent?_iri] at found ⊢
    obtain ⟨count, reaches, same⟩ := Option.map_eq_some_iff.mp found
    cases same
    rw [iriExtent?_of_append reaches within, Option.map_some]
  by_cases comment : c = '#'
  · subst comment
    cases found
  · have other : opensText c = false := by simp [opensText, iri, comment, noString]
    rwa [extent?_append_edged edged other] at found

/-- **A token reaches as far without the text behind a blank as with it**, unless it is a string
between triple quotes, which may begin with an empty string. -/
theorem extent?_of_append {c : Char} {text rest : List Char} (breaks : Breaks rest)
    {kind : TokenKind} {extent : Nat} (found : extent? c (text ++ rest) = some (some kind, extent))
    (within : extent ≤ text.length) (short : kind ≠ .longString) :
    extent? c text = some (some kind, extent) := by
  by_cases isQuote : c = '\x22' ∨ c = '\x27'
  · rw [extent?_quote isQuote] at found ⊢
    obtain ⟨⟨kind, count⟩, reaches, same⟩ := Option.map_eq_some_iff.mp found
    cases same
    obtain ⟨rfl, _⟩ := (stringExtent?_cases reaches).resolve_left short
    rw [stringExtent?_of_append reaches within, Option.map_some]
  · exact extent?_of_append_edged breaks.isEdged found within (not_or.mp isQuote)

end Turtle

end HistoricalFigures
