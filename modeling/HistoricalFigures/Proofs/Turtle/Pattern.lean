import HistoricalFigures.Proofs.Turtle.Lexes
import HistoricalFigures.Proofs.Turtle.Numeral
import HistoricalFigures.Proofs.Turtle.ReadTerms

/-!
**What the token pattern matches.** A document is matched piece by piece: each piece is blanks, a comment
or a token, and has the form of its kind.

* `IsInner`: what stands between the quotes of a string.
* `IsMatch`: the forms of the pieces, one alternative after the other.
* `IsMatch.ne_nil`: no piece is empty.
* `isMatch_of_extent?`: what is taken at a place has the form of its kind.
-/
namespace HistoricalFigures.Turtle

/-! ### Strings -/

/-- What stands before the closing quotes of a string: characters with which these do not begin, and
characters behind a backslash. -/
inductive IsInner (closing : List Char) (goesOn : Char → Bool) : List Char → Prop where
  | nil : IsInner closing goesOn []
  | char (c : Char) (rest : List Char) : c ≠ '\\' → goesOn c = true →
    ¬ closing <+: c :: (rest ++ closing) → IsInner closing goesOn rest → IsInner closing goesOn (c :: rest)
  | escape (c : Char) (rest : List Char) : IsInner closing goesOn rest →
    IsInner closing goesOn ('\\' :: c :: rest)

/-- The characters that a short string goes on with: it ends on its line. -/
def staysOnLine (c : Char) : Bool := c ≠ '\n' && c ≠ '\r'

/-- **A short string is closed by its quote**, and what stands before it is on one line. -/
theorem exists_of_shortExtent? {quote : Char} {text : List Char} :
    (∀ extent, shortExtent? quote 0 text = some extent → ∃ inner behind,
      text = inner ++ quote :: behind ∧ extent = inner.length + 1 ∧ IsInner [quote] staysOnLine inner) ∧
    ∀ extent, shortExtent? quote 1 text = some extent → ∃ c inner behind,
      text = c :: (inner ++ quote :: behind) ∧ extent = inner.length + 2 ∧
        IsInner [quote] staysOnLine inner := by
  -- The second part is what stands behind a backslash.
  induction text with
  | nil => exact ⟨fun _ found => (nomatch found), fun _ found => (nomatch found)⟩
  | cons c later found =>
    refine ⟨fun extent reach => ?_, fun extent reach => ?_⟩
    · rw [shortExtent?] at reach
      split at reach
      · rename_i backslash
        obtain ⟨count, there, rfl⟩ := Option.map_eq_some_iff.mp reach
        obtain ⟨d, inner, behind, rfl, rfl, isInner⟩ := found.2 count there
        exact ⟨c :: d :: inner, behind, rfl, rfl, backslash ▸ .escape d inner isInner⟩
      split at reach
      · rename_i same
        cases reach
        exact ⟨[], later, by rw [same]; rfl, rfl, .nil⟩
      split at reach
      · cases reach
      · rename_i plain other sameLine
        obtain ⟨count, there, rfl⟩ := Option.map_eq_some_iff.mp reach
        obtain ⟨inner, behind, rfl, rfl, isInner⟩ := found.1 count there
        refine ⟨c :: inner, behind, rfl, rfl, .char c inner plain ?_ ?_ isInner⟩
        · simpa [staysOnLine] using sameLine
        · rw [List.cons_prefix_cons]
          exact fun starts => other starts.1.symm
    · rw [shortExtent?] at reach
      obtain ⟨count, there, rfl⟩ := Option.map_eq_some_iff.mp reach
      obtain ⟨inner, behind, rfl, rfl, isInner⟩ := found.1 count there
      exact ⟨c, inner, behind, rfl, rfl, isInner⟩

/-- The closing quotes of a long string. -/
def closingQuotes (quote : Char) : List Char := [quote, quote, quote]

/-- **A long string is closed by its first three quotes** that stand together. -/
theorem exists_of_longExtent?_eq {quote : Char} {text : List Char} :
    (∀ extent, longExtent? quote 0 text = some extent → ∃ inner behind,
      text = inner ++ (closingQuotes quote ++ behind) ∧ extent = inner.length + 3 ∧
        IsInner (closingQuotes quote) (fun _ => true) inner) ∧
    ∀ extent, longExtent? quote 1 text = some extent → ∃ c inner behind,
      text = c :: (inner ++ (closingQuotes quote ++ behind)) ∧ extent = inner.length + 4 ∧
        IsInner (closingQuotes quote) (fun _ => true) inner := by
  induction text with
  | nil => exact ⟨fun _ found => (nomatch found), fun _ found => (nomatch found)⟩
  | cons c later found =>
    refine ⟨fun extent reach => ?_, fun extent reach => ?_⟩
    · rw [longExtent?] at reach
      split at reach
      · rename_i backslash
        obtain ⟨count, there, rfl⟩ := Option.map_eq_some_iff.mp reach
        obtain ⟨d, inner, behind, rfl, rfl, isInner⟩ := found.2 count there
        exact ⟨c :: d :: inner, behind, rfl, rfl, backslash ▸ .escape d inner isInner⟩
      split at reach
      · rename_i closes
        cases reach
        refine ⟨[], later.drop 2, ?_, rfl, .nil⟩
        rw [List.nil_append, closingQuotes, closes.1, List.cons_append, ← closes.2,
          List.take_append_drop]
      · rename_i plain open_
        obtain ⟨count, there, rfl⟩ := Option.map_eq_some_iff.mp reach
        obtain ⟨inner, behind, rfl, rfl, isInner⟩ := found.1 count there
        refine ⟨c :: inner, behind, rfl, rfl, .char c inner plain rfl (fun starts => ?_) isInner⟩
        obtain ⟨first, two⟩ := List.cons_prefix_cons.mp starts
        refine open_ ⟨first.symm, ?_⟩
        have within := two.trans (List.prefix_append (inner ++ closingQuotes quote) behind)
        rw [List.append_assoc] at within
        exact (List.prefix_iff_eq_take.mp within).symm
    · rw [longExtent?] at reach
      obtain ⟨count, there, rfl⟩ := Option.map_eq_some_iff.mp reach
      obtain ⟨inner, behind, rfl, rfl, isInner⟩ := found.1 count there
      exact ⟨c, inner, behind, rfl, rfl, isInner⟩

/-! ### Pieces -/

/-- What may stand behind the colon of a name: nothing, or characters of names with points between
them. -/
def IsLocalName (name : List Char) : Prop :=
  (∀ c ∈ name.head?, isLocalChar c = true) ∧ IsDotted '.' isLocalChar name

/-- **The pieces that the token pattern matches**, by their kinds; blanks and comments have none. -/
inductive IsMatch : Option TokenKind → List Char → Prop where
  | blanks (c : Char) (rest : List Char) : (∀ d ∈ c :: rest, Unicode.isBlank d = true) →
    IsMatch none (c :: rest)
  | comment (body : List Char) : (∀ c ∈ body, continuesComment c = true) → IsMatch none ('#' :: body)
  | iri (raw : List Char) : IsRawIri raw → IsMatch (some .iri) ('<' :: (raw ++ ['>']))
  | longString (quote : Char) (inner : List Char) : quote = '\x22' ∨ quote = '\x27' →
    IsInner (closingQuotes quote) (fun _ => true) inner →
      IsMatch (some .longString) (closingQuotes quote ++ (inner ++ closingQuotes quote))
  | string (quote : Char) (inner : List Char) : quote = '\x22' ∨ quote = '\x27' →
    IsInner [quote] staysOnLine inner → IsMatch (some .string) (quote :: (inner ++ [quote]))
  | directive (word : List Char) : word ∈ directiveWords → IsMatch (some .directive) ('@' :: word)
  | language (tag : List Char) : IsLanguageTag (tag.map Char.toLower) →
    IsMatch (some .language) ('@' :: tag)
  | datatypeMark : IsMatch (some .datatypeMark) ['^', '^']
  | number (numeral : Numeral) : IsMatch (some .number) numeral.text
  | name (namespaceName name : List Char) : IsNamespaceName namespaceName → IsLocalName name →
    IsMatch (some .name) (namespaceName ++ ':' :: name)
  | blankNode (name : List Char) : (∀ c ∈ name, isNameChar c = true) →
    IsMatch (some .blankNode) ('_' :: ':' :: name)
  | bracket (c : Char) : c = '[' ∨ c = ']' ∨ c = '(' ∨ c = ')' → IsMatch (some .blankNode) [c]
  | word (letter : Char) (body : List Char) : letter.isAlpha = true →
    (∀ c ∈ body, isNameChar c = true) → IsMatch (some .word) (letter :: body)
  | punctuation (c : Char) : c = '.' ∨ c = ';' ∨ c = ',' → IsMatch (some .punctuation) [c]

/-- **No piece is empty**, although most of what a number or a name consists of may be missing. -/
theorem IsMatch.ne_nil {kind : Option TokenKind} {piece : List Char} (isMatch : IsMatch kind piece) :
    piece ≠ [] := by
  cases isMatch with
  | number numeral =>
    -- A number has digits, whatever else it lacks.
    intro nothing
    exact numeral.whole.nonempty
      (List.append_eq_nil_iff.mp (List.append_eq_nil_iff.mp nothing).2).1
  | name => exact List.append_ne_nil_of_right_ne_nil _ (List.cons_ne_nil _ _)
  | _ => exact List.cons_ne_nil _ _

theorem isLocalName_take (text : List Char) : IsLocalName (text.take (localExtent text)) := by
  refine ⟨?_, isDotted_take_localExtent text⟩
  rw [localExtent]
  split
  · rename_i first
    intro c member
    rw [List.head?_take] at member
    split at member
    · cases member
    · rw [Option.mem_def.mp member] at first
      exact first
  · rw [List.take_zero]
    intro c member
    cases member

/-- A token that begins with a letter is a name or a word. -/
theorem isMatch_letter {letter : Char} (isLetter : letter.isAlpha = true) (rest : List Char) :
    IsMatch (some (letterExtent rest).1) (letter :: rest.take (letterExtent rest).2) := by
  unfold letterExtent
  dsimp only
  split
  · rename_i after colon
    have behind : rest.drop (dottedExtent isNameChar rest + 1) = after := by
      rw [← List.drop_drop, colon]
      rfl
    rw [List.take_add, List.take_add, colon, List.take_succ_cons, List.take_zero, behind,
      List.append_assoc]
    exact .name (letter :: rest.take (dottedExtent isNameChar rest)) _
      (.inr ⟨letter, _, rfl, isLetter, isDotted_take_dottedExtent _ _⟩) (isLocalName_take after)
  · rw [take_length_takeWhile]
    exact .word letter _ isLetter (List.all_eq_true.mp List.all_takeWhile)

/-- A token behind an at sign is a directive or a language. -/
theorem isMatch_at {rest : List Char} {kind : TokenKind} {extent : Nat}
    (found : atExtent? rest = some (kind, extent)) :
    IsMatch (some kind) ('@' :: rest.take extent) := by
  unfold atExtent? at found
  dsimp only at found
  split at found
  · rename_i word isWord
    cases found
    have start := List.find?_some isWord
    rw [Bool.and_eq_true, List.isPrefixOf_iff_prefix] at start
    rw [← List.prefix_iff_eq_take.mp start.1]
    exact .directive word (List.mem_of_find?_eq_some isWord)
  · split at found
    · cases found
    · rename_i positive
      cases found
      exact .language _ (isLanguageTag_take_languageExtent positive)

/-- A token behind a quote is a string of one kind or the other. -/
theorem isMatch_string {quote : Char} (isQuote : quote = '\x22' ∨ quote = '\x27') {rest : List Char}
    {kind : TokenKind} {extent : Nat} (found : stringExtent? quote rest = some (kind, extent)) :
    IsMatch (some kind) (quote :: rest.take extent) := by
  rcases stringExtent?_cases found with rfl | ⟨rfl, short, _⟩
  · obtain ⟨opens, count, closes, rfl⟩ := stringExtent?_eq_long_iff.mp found
    obtain ⟨inner, behind, whole, rfl, isInner⟩ := exists_of_longExtent?_eq.1 count closes
    have piece : rest.take (inner.length + 3 + 2) = quote :: quote :: (inner ++ closingQuotes quote) := by
      rw [Nat.add_comm (inner.length + 3), List.take_add, opens, whole, List.take_length_add_append]
      rfl
    rw [piece]
    exact .longString quote inner isQuote isInner
  · obtain ⟨inner, behind, rfl, rfl, isInner⟩ := exists_of_shortExtent?.1 extent short
    rw [List.take_length_add_append]
    exact .string quote inner isQuote isInner

/-- **What is taken at a place has the form of its kind.** -/
theorem isMatch_of_extent? {c : Char} {rest : List Char} {kind : Option TokenKind} {extent : Nat}
    (found : extent? c rest = some (kind, extent)) : IsMatch kind (c :: rest.take extent) := by
  have isReader := isTokenReader c
  generalize extent? c = reader at isReader found
  cases isReader with
  | blank c isBlank =>
    cases found
    exact .blanks c [] (List.forall_mem_singleton.mpr isBlank)
  | comment =>
    cases found
    rw [take_length_takeWhile]
    exact .comment _ (List.all_eq_true.mp List.all_takeWhile)
  | iri =>
    obtain ⟨count, reaches, same⟩ := Option.map_eq_some_iff.mp found
    cases same
    obtain ⟨raw, behind, rfl, rfl, isRaw⟩ := exists_of_iriExtent? reaches
    rw [List.take_length_add_append]
    exact .iri raw isRaw
  | string quote isQuote =>
    obtain ⟨⟨kind, count⟩, reaches, same⟩ := Option.map_eq_some_iff.mp found
    cases same
    exact isMatch_string isQuote reaches
  | at_ =>
    obtain ⟨⟨kind, count⟩, reaches, same⟩ := Option.map_eq_some_iff.mp found
    cases same
    exact isMatch_at reaches
  | mark =>
    dsimp only at found
    split at found
    · rename_i second
      cases found
      obtain ⟨more, rfl⟩ := List.head?_eq_some_iff.mp second
      exact .datatypeMark
    · cases found
  | sign c isSign =>
    dsimp only at found
    split at found
    · cases found
    · rename_i positive
      cases found
      obtain ⟨sign, written⟩ : ∃ sign : Sign, sign.text = [c] := by
        rcases isSign with rfl | rfl
        · exact ⟨.plus, rfl⟩
        · exact ⟨.minus, rfl⟩
      obtain ⟨numeral, same⟩ := exists_numeral positive sign
      rw [written, List.singleton_append] at same
      exact same ▸ .number numeral
  | digit c isDigit =>
    cases found
    have positive : numberExtent (c :: rest) ≠ 0 := by
      rw [numberExtent, List.takeWhile_cons_of_pos isDigit]
      simp
    obtain ⟨numeral, same⟩ := exists_numeral positive .none
    obtain ⟨count, length⟩ := Nat.exists_eq_succ_of_ne_zero positive
    rw [length, List.take_succ_cons, Sign.text, List.nil_append] at same
    rw [length, Nat.succ_sub_one]
    exact same ▸ .number numeral
  | colon =>
    cases found
    exact .name [] _ (.inl rfl) (isLocalName_take rest)
  | letter c isLetter =>
    cases found
    exact isMatch_letter isLetter rest
  | lowLine =>
    dsimp only at found
    split at found
    · rename_i colon
      cases found
      obtain ⟨more, rfl⟩ := List.head?_eq_some_iff.mp colon
      rw [Nat.add_comm, List.take_succ_cons, List.drop_succ_cons, List.drop_zero, take_length_takeWhile]
      exact .blankNode _ (List.all_eq_true.mp List.all_takeWhile)
    · cases found
  | bracket c isBracket =>
    cases found
    exact .bracket c isBracket
  | punctuation c isMark =>
    cases found
    exact .punctuation c isMark
  | other => cases found

end HistoricalFigures.Turtle
