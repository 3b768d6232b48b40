import HistoricalFigures.Proofs.Turtle.Reach

/-!
**What a token looks like.** The points within a token stand between quotes or angle brackets, or before
a character of the same token.

* `standsOutside`: the characters of tokens that are neither points nor quotes, angle brackets or
  backslashes.
* `isDotted_take_dottedExtent`, `isDotted_take_numberExtent`: what the tokens without quotes consist
  of.
* `isDotted_of_extent?`, `exists_rawIri_of_extent?`: what a token looks like that is no string.
-/
namespace HistoricalFigures.Turtle

/-- A character that leaves a place outside, and is neither a blank nor a point, nor a closing bracket
or a backslash. -/
def standsOutside (c : Char) : Bool :=
  !Unicode.isBlank c && c ∉ ['.', '\x22', '\x27', '<', '>', '\\']

theorem standsOutside_of {p : Char → Bool} (blank : ∀ c, Unicode.isBlank c = true → p c = false)
    (others : ∀ c ∈ ['.', '\x22', '\x27', '<', '>', '\\'], p c = false) {c : Char} (belongs : p c = true) :
    standsOutside c = true := by
  rw [standsOutside, Bool.and_eq_true, Bool.not_eq_true', decide_eq_true_eq]
  refine ⟨Bool.eq_false_iff.mpr fun isBlank => ?_, fun member => ?_⟩
  · rw [blank c isBlank] at belongs
    cases belongs
  · rw [others c member] at belongs
    cases belongs

theorem standsOutside_of_isDigit {c : Char} (digit : Unicode.isDigit c = true) :
    standsOutside c = true :=
  standsOutside_of (fun _ => Unicode.isDigit_of_isBlank)
    (Unicode.forall_mem_of_all (by decide)) digit

theorem standsOutside_of_isLocalChar {c : Char} (belongs : isLocalChar c = true) :
    standsOutside c = true :=
  standsOutside_of (fun _ => isLocalChar_of_isBlank)
    (Unicode.forall_mem_of_all (by decide +kernel)) belongs

theorem standsOutside_of_isNameChar {c : Char} (belongs : isNameChar c = true) :
    standsOutside c = true :=
  standsOutside_of (fun _ => isNameChar_of_isBlank)
    (Unicode.forall_mem_of_all (by decide +kernel)) belongs

theorem standsOutside_of_isAlphanum {c : Char} (plain : c.isAlphanum = true) :
    standsOutside c = true :=
  standsOutside_of (fun _ => Unicode.isAlphanum_of_isBlank)
    (Unicode.forall_mem_of_all (by decide)) plain

theorem IsDotted.mono {separator : Char} {p q : Char → Bool} (maps : ∀ c, p c = true → q c = true)
    {text : List Char} (dotted : IsDotted separator p text) : IsDotted separator q text := by
  have mapped := dotted.map (rfl : id separator = separator) maps
  rwa [List.map_id] at mapped

theorem IsDotted.append {separator : Char} {p : Char → Bool} {first second : List Char}
    (before : IsDotted separator p first) (behind : IsDotted separator p second) :
    IsDotted separator p (first ++ second) := by
  induction before with
  | nil => exact behind
  | char c rest belongs _ found => exact .char c _ belongs found
  | separator c rest belongs _ found => exact .separator c _ belongs found

/-- **What is read as a name has points only between its characters.** -/
theorem isDotted_take_dottedExtent (p : Char → Bool) (text : List Char) :
    IsDotted '.' p (text.take (dottedExtent p text)) := by
  induction text with
  | nil => exact .nil
  | cons c rest found =>
    rw [dottedExtent]
    by_cases belongs : p c = true
    · rw [belongs, Bool.true_or, if_pos rfl, List.take_succ_cons]
      exact .char c _ belongs found
    · rw [Bool.not_eq_true] at belongs
      by_cases point : c = '.' ∧ rest.head?.any p = true
      · obtain ⟨rfl, follows⟩ := point
        obtain ⟨d, later, rfl⟩ : ∃ d later, rest = d :: later := by
          cases rest with
          | nil => simp at follows
          | cons d later => exact ⟨d, later, rfl⟩
        have belongs' : p d = true := by simpa using follows
        have reach : dottedExtent p (d :: later) = dottedExtent p later + 1 := by
          rw [dottedExtent, belongs', Bool.true_or, if_pos rfl]
        rw [follows, if_pos (by simp), List.take_succ_cons]
        rw [reach, List.take_succ_cons] at found ⊢
        exact .separator d _ belongs' found
      · have stop : (p c || (decide (c = '.') && rest.head?.any p)) = false := by
          rw [belongs, Bool.false_or, Bool.and_eq_false_iff, decide_eq_false_iff_not]
          by_cases first : c = '.'
          · exact .inr (Bool.not_eq_true _ ▸ fun follows => point ⟨first, follows⟩)
          · exact .inl first
        rw [stop, if_neg Bool.false_ne_true, List.take_zero]
        exact .nil

theorem isDotted_take_localExtent (text : List Char) :
    IsDotted '.' isLocalChar (text.take (localExtent text)) := by
  rw [localExtent]
  split
  · exact isDotted_take_dottedExtent _ _
  · rw [List.take_zero]
    exact .nil

/-- The digits that a text begins with. -/
theorem take_length_takeWhile {p : Char → Bool} (text : List Char) :
    text.take (text.takeWhile p).length = text.takeWhile p :=
  (List.prefix_iff_eq_take.mp (List.takeWhile_prefix p)).symm

theorem drop_length_takeWhile {p : Char → Bool} (text : List Char) :
    text.drop (text.takeWhile p).length = text.dropWhile p := by
  have cut := List.take_append_drop (text.takeWhile p).length text
  rw [take_length_takeWhile] at cut
  exact List.append_cancel_left (cut.trans List.takeWhile_append_dropWhile.symm)

theorem isDotted_digits (text : List Char) :
    IsDotted '.' standsOutside (text.takeWhile Unicode.isDigit) :=
  isDotted_of_forall fun c member =>
    standsOutside_of_isDigit (List.all_eq_true.mp List.all_takeWhile c member)

theorem isDotted_take_fractionExtent (text : List Char) :
    IsDotted '.' standsOutside (text.take (fractionExtent text)) := by
  unfold fractionExtent
  split
  · rename_i later
    have digits := isDotted_digits later
    dsimp only
    cases taken : later.takeWhile Unicode.isDigit with
    | nil => exact .nil
    | cons d more =>
      rw [if_neg (List.cons_ne_nil d more), ← taken, List.take_succ_cons, take_length_takeWhile]
      rw [taken] at digits ⊢
      have belongs : standsOutside d = true := standsOutside_of_isDigit
        (List.all_eq_true.mp List.all_takeWhile d (taken ▸ List.mem_cons_self))
      exact .separator d more belongs digits
  · rw [List.take_zero]
    exact .nil

theorem isDotted_take_exponentExtent (text : List Char) :
    IsDotted '.' standsOutside (text.take (exponentExtent text)) := by
  cases text with
  | nil => exact .nil
  | cons c later =>
    unfold exponentExtent
    dsimp only
    generalize signs : (if later.head? = some '+' ∨ later.head? = some '-' then 1 else 0) = sign
    have signed : IsDotted '.' standsOutside (later.take sign) := by
      split at signs
      · rename_i isSign
        subst signs
        cases later with
        | nil => exact .nil
        | cons d more =>
          simp only [List.head?_cons, Option.some.injEq] at isSign
          refine .char d _ ?_ .nil
          rcases isSign with rfl | rfl <;> decide
      · subst signs
        rw [List.take_zero]
        exact .nil
    split
    · rename_i isExponent
      have first : standsOutside c = true := by
        rcases isExponent.1 with rfl | rfl <;> decide
      rw [Nat.add_assoc, Nat.add_comm 1, List.take_succ_cons, List.take_add, take_length_takeWhile]
      exact .char c _ first (signed.append (isDotted_digits _))
    · rw [List.take_zero]
      exact .nil

/-- **A number has a point only before a digit.** -/
theorem isDotted_take_numberExtent (text : List Char) :
    IsDotted '.' standsOutside (text.take (numberExtent text)) := by
  unfold numberExtent
  dsimp only
  split
  · rw [List.take_zero]
    exact .nil
  · rw [List.take_add, List.take_add, take_length_takeWhile]
    exact ((isDotted_digits text).append (isDotted_take_fractionExtent _)).append
      (isDotted_take_exponentExtent _)

/-- **A token that begins with a letter has points only between its characters.** -/
theorem isDotted_take_letterExtent (text : List Char) :
    IsDotted '.' standsOutside (text.take (letterExtent text).2) := by
  unfold letterExtent
  dsimp only
  split
  · rename_i after colon
    rw [List.take_add, List.take_add, colon, List.take_succ_cons, List.take_zero, List.append_assoc]
    have behind : text.drop (dottedExtent isNameChar text + 1) = after := by
      rw [← List.drop_drop, colon]
      rfl
    rw [behind]
    exact ((isDotted_take_dottedExtent _ _).mono fun _ => standsOutside_of_isNameChar).append
      (.char ':' _ (by decide)
        ((isDotted_take_localExtent after).mono fun _ => standsOutside_of_isLocalChar))
  · rw [take_length_takeWhile]
    exact isDotted_of_forall fun c member =>
      standsOutside_of_isNameChar (List.all_eq_true.mp List.all_takeWhile c member)

/-- **A token behind an at sign has no points.** -/
theorem isDotted_take_atExtent? {text : List Char} {kind : TokenKind} {extent : Nat}
    (found : atExtent? text = some (kind, extent)) :
    IsDotted '.' standsOutside (text.take extent) := by
  unfold atExtent? at found
  dsimp only at found
  split at found
  · rename_i word isWord
    cases found
    have words : ∀ word ∈ directiveWords, word.all standsOutside = true := by decide
    have start := List.find?_some isWord
    rw [Bool.and_eq_true, List.isPrefixOf_iff_prefix] at start
    rw [← List.prefix_iff_eq_take.mp start.1]
    exact isDotted_of_forall (List.all_eq_true.mp (words word (List.mem_of_find?_eq_some isWord)))
  · split at found
    · cases found
    · cases found
      unfold languageExtent
      dsimp only
      split
      · rw [List.take_zero]
        exact .nil
      · have letters : IsDotted '.' standsOutside (text.takeWhile Char.isAlpha) :=
          isDotted_of_forall fun c member => standsOutside_of_isAlphanum
            (Unicode.isAlphanum_of_isAlpha (List.all_eq_true.mp List.all_takeWhile c member))
        rw [List.take_add, take_length_takeWhile]
        refine letters.append ?_
        split
        · refine isDotted_of_forall fun c member => ?_
          rcases (isDotted_take_subtagExtent _).forall_mem c member with rfl | plain
          · decide
          · exact standsOutside_of_isAlphanum plain
        · rw [List.take_zero]
          exact .nil

/-- A token of one character. -/
theorem isDotted_singleton {c : Char} {body : List Char} (nothing : 0 = body.length)
    (first : standsOutside c = true) : IsDotted '.' standsOutside (c :: body) := by
  obtain rfl := List.length_eq_zero_iff.mp nothing.symm
  exact .char c _ first .nil

/-- A token whose later characters are taken from what follows its first one. -/
theorem isDotted_cons {c : Char} {body rest : List Char} {extent : Nat} (length : extent = body.length)
    (first : standsOutside c = true)
    (later : IsDotted '.' standsOutside ((body ++ rest).take extent)) :
    IsDotted '.' standsOutside (c :: body) := by
  rw [length, List.take_left] at later
  exact .char c _ first later

/-- **A token has points only between its characters**, unless it is a string, a resource between angle
brackets or a point of its own. -/
theorem isDotted_of_extent? {c : Char} {body rest : List Char} {kind : TokenKind}
    (found : extent? c (body ++ rest) = some (some kind, body.length)) (other : opensText c = false)
    (notPoint : c ≠ '.') : IsDotted '.' standsOutside (c :: body) := by
  have isReader := isTokenReader c
  generalize extent? c = reader at isReader found
  have reach : ∀ {told : TokenKind} {extent : Nat},
      some (some told, extent) = some (some kind, body.length) → extent = body.length :=
    fun same => (Prod.mk.inj (Option.some.inj same)).2
  cases isReader with
  | blank c blank => cases found
  | comment => cases other
  | iri => cases other
  | string quote isQuote => rcases isQuote with rfl | rfl <;> cases other
  | at_ =>
    obtain ⟨⟨told, count⟩, reaches, same⟩ := Option.map_eq_some_iff.mp found
    exact isDotted_cons (Prod.mk.inj same).2 (by decide) (isDotted_take_atExtent? reaches)
  | mark =>
    dsimp only at found
    split at found
    · rename_i second
      have later : IsDotted '.' standsOutside ((body ++ rest).take 1) := by
        obtain ⟨more, whole⟩ := List.head?_eq_some_iff.mp second
        rw [whole]
        exact .char '^' _ (by decide) .nil
      exact isDotted_cons (reach found) (by decide) later
    · cases found
  | sign c isSign =>
    dsimp only at found
    split at found
    · cases found
    · have first : standsOutside c = true := by rcases isSign with rfl | rfl <;> decide
      exact isDotted_cons (reach found) first (isDotted_take_numberExtent _)
  | digit c isDigit =>
    have length := reach found
    have number := isDotted_take_numberExtent (c :: (body ++ rest))
    cases extent : numberExtent (c :: (body ++ rest)) with
    | zero =>
      rw [extent] at length
      exact isDotted_singleton length (standsOutside_of_isDigit isDigit)
    | succ count =>
      rw [extent] at length number
      rw [show count = body.length from length, List.take_succ_cons, List.take_left] at number
      exact number
  | colon =>
    exact isDotted_cons (reach found) (by decide) ((isDotted_take_localExtent _).mono fun _ =>
      standsOutside_of_isLocalChar)
  | letter c isLetter =>
    exact isDotted_cons (reach found)
      (standsOutside_of_isAlphanum (Unicode.isAlphanum_of_isAlpha isLetter))
      (isDotted_take_letterExtent _)
  | lowLine =>
    dsimp only at found
    split at found
    · rename_i colon
      have later : IsDotted '.' standsOutside ((body ++ rest).take
          (1 + (((body ++ rest).drop 1).takeWhile isNameChar).length)) := by
        obtain ⟨more, whole⟩ := List.head?_eq_some_iff.mp colon
        rw [Nat.add_comm, whole, List.take_succ_cons, List.drop_succ_cons, List.drop_zero,
          take_length_takeWhile]
        exact .char ':' _ (by decide) (isDotted_of_forall fun c member =>
          standsOutside_of_isNameChar (List.all_eq_true.mp List.all_takeWhile c member))
      exact isDotted_cons (reach found) (by decide) later
    · cases found
  | bracket c isBracket =>
    exact isDotted_singleton (reach found)
      (by rcases isBracket with rfl | rfl | rfl | rfl <;> decide)
  | punctuation c isMark =>
    rcases isMark with rfl | rfl | rfl
    · exact absurd rfl notPoint
    · exact isDotted_singleton (reach found) (by decide)
    · exact isDotted_singleton (reach found) (by decide)
  | other => cases found

/-- What a resource between angle brackets looks like. -/
theorem exists_rawIri_of_extent? {body rest : List Char} {kind : TokenKind}
    (found : extent? '<' (body ++ rest) = some (some kind, body.length)) :
    kind = .iri ∧ ∃ raw, IsRawIri raw ∧ body = raw ++ ['>'] := by
  rw [extent?_iri] at found
  obtain ⟨count, reaches, same⟩ := Option.map_eq_some_iff.mp found
  cases same
  obtain ⟨raw, behind, whole, length, isRaw⟩ := exists_of_iriExtent? reaches
  refine ⟨rfl, raw, isRaw, ?_⟩
  rw [← List.singleton_append, ← List.append_assoc] at whole
  exact (List.append_inj whole (by rw [length, List.length_append]; rfl)).1

end HistoricalFigures.Turtle
