import HistoricalFigures.Proofs.Turtle.Separation

/-!
**A document is made up of blanks, comments and tokens.**

* `extent?_le`: no token reaches beyond the end of a text.
* `Lexes`: a text, and the tokens that it is made up of.
* `lexes_of_tokensFrom`: whoever finds tokens in a text finds what it is made up of.
* `Reads.comment`: a comment is passed over.
-/
namespace HistoricalFigures.Turtle

/-! ### How far tokens reach -/

theorem shortExtent?_le {quote : Char} {skipped extent : Nat} {text : List Char}
    (found : shortExtent? quote skipped text = some extent) : extent ≤ text.length := by
  induction text generalizing skipped extent with
  | nil => cases skipped <;> cases found
  | cons c later shorter =>
    rcases shortExtent?_cons found with ⟨rfl, _⟩ | ⟨_, count, rfl, _, there, _⟩
    · exact Nat.succ_le_succ (Nat.zero_le _)
    · exact Nat.succ_le_succ (shorter there)

theorem subtagExtent_le (text : List Char) : subtagExtent text ≤ text.length := by
  induction text with
  | nil => exact Nat.le_refl 0
  | cons c later found =>
    rw [subtagExtent]
    split
    · exact Nat.succ_le_succ found
    · exact Nat.zero_le _

theorem length_takeWhile_le (p : Char → Bool) (text : List Char) :
    (text.takeWhile p).length ≤ text.length :=
  (List.takeWhile_prefix p).length_le

theorem localExtent_le (text : List Char) : localExtent text ≤ text.length := by
  rw [localExtent]
  split
  · exact dottedExtent_le _ text
  · exact Nat.zero_le _

theorem languageExtent_le (text : List Char) : languageExtent text ≤ text.length := by
  have letters := length_takeWhile_le Char.isAlpha text
  have subtags := subtagExtent_le (text.drop (text.takeWhile Char.isAlpha).length)
  rw [List.length_drop] at subtags
  unfold languageExtent
  dsimp only
  split
  · exact Nat.zero_le _
  · split <;> omega

theorem atExtent?_le {kind : TokenKind} {extent : Nat} {text : List Char}
    (found : atExtent? text = some (kind, extent)) : extent ≤ text.length := by
  unfold atExtent? at found
  dsimp only at found
  split at found
  · rename_i word isWord
    cases found
    have start := List.find?_some isWord
    rw [Bool.and_eq_true, List.isPrefixOf_iff_prefix] at start
    exact start.1.length_le
  · split at found
    · cases found
    · cases found
      exact languageExtent_le text

theorem exponentExtent_le (text : List Char) : exponentExtent text ≤ text.length := by
  cases text with
  | nil => exact Nat.le_refl 0
  | cons c later =>
    unfold exponentExtent
    dsimp only
    generalize signs : (if later.head? = some '+' ∨ later.head? = some '-' then 1 else 0) = sign
    have within : sign ≤ later.length := by
      split at signs
      · rename_i isSign
        subst signs
        cases later with
        | nil => simp at isSign
        | cons d more => exact Nat.succ_le_succ (Nat.zero_le _)
      · subst signs
        exact Nat.zero_le _
    have digits := length_takeWhile_le Unicode.isDigit (later.drop sign)
    rw [List.length_drop] at digits
    rw [List.length_cons]
    split <;> omega

theorem numberExtent_le (text : List Char) : numberExtent text ≤ text.length := by
  have digits := length_takeWhile_le Unicode.isDigit text
  have fraction := fractionExtent_le (text.drop (text.takeWhile Unicode.isDigit).length)
  have exponent := exponentExtent_le (text.drop ((text.takeWhile Unicode.isDigit).length +
    fractionExtent (text.drop (text.takeWhile Unicode.isDigit).length)))
  rw [List.length_drop] at fraction exponent
  unfold numberExtent
  dsimp only
  split <;> omega

theorem letterExtent_le (text : List Char) : (letterExtent text).2 ≤ text.length := by
  have names := dottedExtent_le isNameChar text
  unfold letterExtent
  dsimp only
  split
  · rename_i after colon
    have length := congrArg List.length colon
    have local_ := localExtent_le after
    rw [List.length_drop, List.length_cons] at length
    dsimp only
    omega
  · exact length_takeWhile_le isNameChar text

/-- **No token reaches beyond the end of a text.** -/
theorem extent?_le {c : Char} {text : List Char} {kind : Option TokenKind} {extent : Nat}
    (found : extent? c text = some (kind, extent)) : extent ≤ text.length := by
  have isReader := isTokenReader c
  generalize extent? c = reader at isReader found
  cases isReader with
  | blank | bracket | punctuation =>
    cases found
    exact Nat.zero_le _
  | comment =>
    cases found
    exact length_takeWhile_le _ text
  | iri =>
    obtain ⟨count, reaches, same⟩ := Option.map_eq_some_iff.mp found
    cases same
    obtain ⟨raw, rest, rfl, rfl, _⟩ := exists_of_iriExtent? reaches
    rw [List.length_append, List.length_cons]
    omega
  | string quote isQuote =>
    obtain ⟨⟨kind, count⟩, reaches, same⟩ := Option.map_eq_some_iff.mp found
    cases same
    rcases stringExtent?_cases reaches with rfl | ⟨_, short, _⟩
    · obtain ⟨opens, count, closes, rfl⟩ := stringExtent?_eq_long_iff.mp reaches
      have two := length_of_take_two opens
      have inner := (length_of_longExtent? closes).2
      rw [List.length_drop] at inner
      omega
    · exact shortExtent?_le short
  | at_ =>
    obtain ⟨⟨kind, count⟩, reaches, same⟩ := Option.map_eq_some_iff.mp found
    cases same
    exact atExtent?_le reaches
  | mark =>
    dsimp only at found
    split at found
    · rename_i second
      cases found
      exact List.length_pos_iff.mpr fun nothing => by rw [nothing] at second; cases second
    · cases found
  | sign =>
    dsimp only at found
    split at found <;> cases found
    exact numberExtent_le text
  | digit c _ =>
    cases found
    have number := numberExtent_le (c :: text)
    rw [List.length_cons] at number
    omega
  | colon =>
    cases found
    exact localExtent_le text
  | letter =>
    cases found
    exact letterExtent_le text
  | lowLine =>
    dsimp only at found
    split at found
    · rename_i colon
      cases found
      obtain ⟨more, rfl⟩ := List.head?_eq_some_iff.mp colon
      have names := length_takeWhile_le isNameChar more
      rw [List.drop_succ_cons, List.drop_zero, List.length_cons]
      omega
    · cases found
  | other => cases found

/-! ### Comments -/

/-- The characters that a comment goes on with. -/
def continuesComment (c : Char) : Bool := c ≠ '\r' ∧ c ≠ '\n'

theorem extent?_comment (rest : List Char) :
    extent? '#' rest = some (none, (rest.takeWhile continuesComment).length) := by
  rw [extent?, if_neg (by decide), if_pos rfl]
  rfl

/-- A comment reaches up to the end of its line. -/
theorem extent?_comment_append {body rest : List Char}
    (sameLine : ∀ c ∈ body, continuesComment c = true)
    (ends : ∀ c ∈ rest.head?, continuesComment c = false) :
    extent? '#' (body ++ rest) = some (none, body.length) := by
  rw [extent?_comment, List.takeWhile_append_of_pos sameLine]
  cases rest with
  | nil => rw [List.takeWhile_nil, List.append_nil]
  | cons c later =>
    rw [List.takeWhile_cons_of_neg (by rw [ends c rfl]; exact Bool.false_ne_true), List.append_nil]

/-! ### What a document is made up of -/

/-- A text is made up of blanks, comments and tokens. -/
inductive Lexes : List Char → List (TokenKind × List Char) → Prop
  | nil : Lexes [] []
  | blank {c : Char} {rest : List Char} {found : List (TokenKind × List Char)}
      (isBlank : Unicode.isBlank c = true) (later : Lexes rest found) : Lexes (c :: rest) found
  | comment {body rest : List Char} {found : List (TokenKind × List Char)}
      (sameLine : ∀ c ∈ body, continuesComment c = true)
      (ends : ∀ c ∈ rest.head?, continuesComment c = false) (later : Lexes rest found) :
      Lexes ('#' :: (body ++ rest)) found
  | token {kind : TokenKind} {text rest : List Char} {found : List (TokenKind × List Char)}
      (isLexeme : IsLexeme kind text rest) (later : Lexes rest found) :
      Lexes (text ++ rest) ((kind, text) :: found)

/-- **Whoever finds tokens in a text finds what it is made up of.** -/
theorem lexes_of_tokensFrom {line skipped : Nat} {text : List Char} {found : List Token}
    (lexed : tokensFrom line skipped text = .ok found) :
    Lexes (text.drop skipped) (found.map fun token => (token.kind, token.text)) := by
  induction text generalizing line skipped found with
  | nil =>
    have nothing : found = [] := by
      cases skipped <;> cases lexed <;> rfl
    rw [nothing, List.drop_nil]
    exact .nil
  | cons c rest later =>
    cases skipped with
    | succ skipped => exact later lexed
    | zero =>
      rw [tokensFrom_cons] at lexed
      rw [List.drop_zero]
      split at lexed
      · cases lexed
      · rename_i extent reach
        have rest_ := later lexed
        by_cases comment : c = '#'
        · subst comment
          rw [extent?_comment] at reach
          cases reach
          have ends : ∀ c ∈ (rest.dropWhile continuesComment).head?, continuesComment c = false := by
            intro c first
            have stops := List.head?_dropWhile_not continuesComment rest
            rwa [first] at stops
          rw [drop_length_takeWhile] at rest_
          have sameLine : ∀ c ∈ rest.takeWhile continuesComment, continuesComment c = true :=
            List.all_eq_true.mp List.all_takeWhile
          have whole := Lexes.comment sameLine ends rest_
          rwa [List.takeWhile_append_dropWhile] at whole
        · have isBlank := isBlank_of_extent? reach comment
          rw [extent?, if_pos isBlank] at reach
          cases reach
          exact .blank isBlank rest_
      · rename_i kind extent reach
        obtain ⟨others, behind, rfl⟩ := eq_ok_of_map lexed
        have within := extent?_le reach
        have isLexeme : IsLexeme kind (c :: rest.take extent) (rest.drop extent) := by
          refine ⟨c, rest.take extent, rfl, ?_⟩
          rw [List.take_append_drop, List.length_take, Nat.min_eq_left within]
          exact reach
        have whole := Lexes.token isLexeme (later behind)
        rwa [List.cons_append, List.take_append_drop] at whole

/-- **A comment is passed over.** -/
theorem Reads.comment (reading : Reading) {body rest : List Char}
    (sameLine : ∀ c ∈ body, continuesComment c = true)
    (ends : ∀ c ∈ rest.head?, continuesComment c = false) : Reads reading ('#' :: body) rest reading := by
  intro line
  rw [List.cons_append, readOn, tokensFrom_cons, extent?_comment_append sameLine ends, readOn, lineBehind,
    List.foldl_cons]
  simp only [tokensFrom_skip, lineBehind]

end HistoricalFigures.Turtle
