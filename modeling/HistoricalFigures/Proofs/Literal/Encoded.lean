import HistoricalFigures.Literal.Encoded
import HistoricalFigures.Proofs.Literal.Escaping
import HistoricalFigures.Proofs.Text.Search
import HistoricalFigures.Proofs.Turtle.Escape
import HistoricalFigures.Proofs.Unicode.Blank

/-!
**A text that decoding leaves as it is has parts that it leaves as they are**, wherever the text is
parted outside its quoted segments.

* `quotedSegment_append`, `quotedSegment_eq_none_or`: what is found at a place.
* `rewritten`: what stands between the quotes of a decoded segment.
* `replaceAll_induction`: from one segment to the next.
* `eq_of_rewritten_append`: a segment is left as it is where nothing behind it moves.
* `IsParted`: no segment reaches from one part into the other.
* `replaceAll_of_append`: the parts of a text that decoding leaves as it is.
-/
namespace HistoricalFigures.Literal

/-! ### Quoted segments -/

/-- What a segment is replaced by, between its quotes. -/
def rewritten (segment : List Char) : List Char :=
  if decodeChars segment = segment then segment else escapeChars (decodeChars segment)

theorem looksAhead_quotedSegment : Text.LooksAhead quotedSegment := fun _ _ => rfl

/-- A segment between quotes is found with its quotes. -/
theorem quotedSegment_append {segment : List Char} (nonempty : segment ≠ [])
    (symbols : ∀ d ∈ segment, Base64.isSymbol d = true) (later : List Char) :
    quotedSegment none ('\x22' :: (segment ++ '\x22' :: later)) =
      some ('\x22' :: rewritten segment ++ ['\x22'], segment.length + 1) := by
  have taken : (segment ++ '\x22' :: later).takeWhile Base64.isSymbol = segment := by
    rw [List.takeWhile_append_of_pos symbols, List.takeWhile_cons_of_neg (by decide), List.append_nil]
  simp only [quotedSegment, taken, List.drop_left, List.head?_cons, and_true, if_pos nonempty,
    ne_eq, rewritten]

/-- **At a place nothing is found, or a whole segment between quotes.** -/
theorem quotedSegment_eq_none_or (c : Char) (rest : List Char) :
    quotedSegment none (c :: rest) = none ∨
      ∃ segment later, c = '\x22' ∧ rest = segment ++ '\x22' :: later ∧ segment ≠ [] ∧
        ∀ d ∈ segment, Base64.isSymbol d = true := by
  unfold quotedSegment
  split
  · rename_i rest' same
    obtain ⟨rfl, rfl⟩ := List.cons.inj same
    dsimp only
    split
    · rename_i found
      obtain ⟨nonempty, closes⟩ := found
      obtain ⟨later, behind⟩ := List.head?_eq_some_iff.mp closes
      refine .inr ⟨_, later, rfl, ?_, nonempty, List.all_eq_true.mp List.all_takeWhile⟩
      have taken := List.prefix_iff_eq_take.mp (List.takeWhile_prefix Base64.isSymbol (l := rest))
      calc rest = rest.take (rest.takeWhile Base64.isSymbol).length ++
            rest.drop (rest.takeWhile Base64.isSymbol).length := (List.take_append_drop _ _).symm
        _ = rest.takeWhile Base64.isSymbol ++ '\x22' :: later := by rw [← taken, behind]
    · exact .inl rfl
  · exact .inl rfl

theorem replaceAll_segment {segment : List Char} (nonempty : segment ≠ [])
    (symbols : ∀ d ∈ segment, Base64.isSymbol d = true) (later : List Char) :
    Text.replaceAll quotedSegment ('\x22' :: (segment ++ '\x22' :: later)) =
      '\x22' :: (rewritten segment ++ '\x22' :: Text.replaceAll quotedSegment later) := by
  have found := quotedSegment_append nonempty symbols later
  have whole : segment ++ '\x22' :: later = segment ++ ['\x22'] ++ later := by
    rw [List.append_assoc, List.singleton_append]
  have length : segment.length + 1 = (segment ++ ['\x22']).length := by
    rw [List.length_append, List.length_singleton]
  rw [whole, length] at found
  rw [whole, Text.replaceAll_of_found looksAhead_quotedSegment found, List.cons_append,
    List.cons_append, List.append_assoc, List.singleton_append]

/-- **From one segment to the next**: a property of decoding is that of its three cases. -/
theorem replaceAll_induction {motive : List Char → List Char → Prop} (nil : motive [] [])
    (char : ∀ c rest, quotedSegment none (c :: rest) = none →
      motive rest (Text.replaceAll quotedSegment rest) →
        motive (c :: rest) (c :: Text.replaceAll quotedSegment rest))
    (segment : ∀ segment later, segment ≠ [] → (∀ d ∈ segment, Base64.isSymbol d = true) →
      motive later (Text.replaceAll quotedSegment later) →
        motive ('\x22' :: (segment ++ '\x22' :: later))
          ('\x22' :: (rewritten segment ++ '\x22' :: Text.replaceAll quotedSegment later)))
    (text : List Char) : motive text (Text.replaceAll quotedSegment text) := by
  induction length : text.length using Nat.strong_induction_on generalizing text with
  | _ count found =>
    subst length
    cases text with
    | nil => exact nil
    | cons c rest =>
      rcases quotedSegment_eq_none_or c rest with nothing | ⟨part, later, rfl, rfl, nonempty, symbols⟩
      · rw [Text.replaceAll_cons_of_none looksAhead_quotedSegment nothing]
        exact char c rest nothing (found rest.length (Nat.lt_succ_self _) rest rfl)
      · rw [replaceAll_segment nonempty symbols]
        exact segment part later nonempty symbols (found later.length (by simp; omega) later rfl)

/-- The text before a closing quote is told by the quote where it has neither quotes nor
backslashes. -/
theorem eq_of_formatStringChars_append {text segment first second : List Char}
    (plain : ∀ d ∈ segment, d ≠ '\\' ∧ d ≠ '\x22')
    (same : text.flatMap Turtle.formatStringChar ++ '\x22' :: first = segment ++ '\x22' :: second) :
    text.flatMap Turtle.formatStringChar = segment := by
  induction text generalizing segment with
  | nil =>
    cases segment with
    | nil => rfl
    | cons d more => exact absurd (List.cons.inj same).1.symm (plain d List.mem_cons_self).2
  | cons c later found =>
    rw [List.flatMap_cons] at same ⊢
    rcases Turtle.formatStringChar_cases c with ⟨written, _, quote, _⟩ | ⟨letter, written, _⟩
    · rw [written, List.singleton_append, List.cons_append] at same
      cases segment with
      | nil => exact absurd (List.cons.inj same).1 quote
      | cons d more =>
        obtain ⟨rfl, behind⟩ := List.cons.inj same
        rw [written, List.singleton_append, found (List.forall_mem_cons.mp plain).2 behind]
    · rw [written, List.cons_append, List.cons_append] at same
      cases segment with
      | nil => cases (List.cons.inj same).1
      | cons d more => exact absurd (List.cons.inj same).1.symm (plain d List.mem_cons_self).1

/-- **A segment is left as it is where nothing behind it moves.** -/
theorem eq_of_rewritten_append {segment first second : List Char}
    (symbols : ∀ d ∈ segment, Base64.isSymbol d = true)
    (same : rewritten segment ++ '\x22' :: first = segment ++ '\x22' :: second) :
    rewritten segment = segment := by
  have plain : ∀ d ∈ segment, d ≠ '\\' ∧ d ≠ '\x22' := by
    intro d member
    have symbol := symbols d member
    constructor <;> (rintro rfl; exact absurd symbol (by decide))
  unfold rewritten at same ⊢
  split
  · rfl
  · rename_i decoded
    rw [if_neg decoded, escapeChars, (escapeFrom_eq _ none).1] at same
    rw [escapeChars, (escapeFrom_eq _ none).1]
    exact eq_of_formatStringChars_append plain same

/-! ### Parts -/

/-- A character that neither belongs to a quoted segment nor to its quotes. -/
def IsApart (c : Char) : Prop := Base64.isSymbol c = false ∧ c ≠ '\x22'

theorem isApart_of_isBlank {c : Char} (blank : Unicode.isBlank c = true) : IsApart c := by
  have each : ∀ code ∈ Unicode.blankCodes, Base64.isSymbol (Char.ofNat code) = false := by
    decide +kernel
  have here := each c.toNat (Unicode.toNat_mem_blankCodes blank)
  rw [Char.ofNat_toNat] at here
  exact ⟨here, Unicode.ne_of_isBlank blank _ (by decide)⟩

/-- No quoted segment reaches from one part into the other: the first one ends with a character that
belongs to none, or the second one begins with one. -/
def IsParted (first second : List Char) : Prop :=
  (∀ c ∈ first.getLast?, IsApart c) ∨ ∀ c ∈ second.head?, IsApart c

theorem IsParted.of_cons {c : Char} {first second : List Char} (parted : IsParted (c :: first) second) :
    IsParted first second := by
  refine parted.imp_left fun ends d last => ends d ?_
  rw [Option.mem_def] at last ⊢
  rw [List.getLast?_cons, last, Option.getD_some]

theorem IsParted.of_append {front first second : List Char}
    (parted : IsParted (front ++ first) second) : IsParted first second := by
  induction front with
  | nil => exact parted
  | cons c later found => exact found parted.of_cons

/-- A segment that begins in the first part ends there. -/
theorem IsParted.exists_eq {first second segment later : List Char}
    (parted : IsParted ('\x22' :: first) second)
    (symbols : ∀ d ∈ segment, Base64.isSymbol d = true)
    (whole : first ++ second = segment ++ '\x22' :: later) :
    ∃ behind, first = segment ++ '\x22' :: behind ∧ later = behind ++ second := by
  have inside : ∀ d, d = '\x22' ∨ d ∈ segment → ¬ IsApart d := by
    rintro d (quote | member) ⟨noSymbol, noQuote⟩
    · exact noQuote quote
    · rw [symbols d member] at noSymbol
      cases noSymbol
  have across : ∀ more, segment = first ++ more → second = more ++ '\x22' :: later → False := by
    rintro more rfl rfl
    rcases parted with ends | begins
    · have last := List.getLast?_eq_some_getLast (List.cons_ne_nil '\x22' first)
      refine inside _ ?_ (ends _ last)
      rcases List.mem_cons.mp (List.getLast_mem (List.cons_ne_nil '\x22' first)) with quote | member
      · exact .inl quote
      · exact .inr (List.mem_append_left more member)
    · cases more with
      | nil => exact inside '\x22' (.inl rfl) (begins '\x22' rfl)
      | cons d more => exact inside d (.inr (by simp)) (begins d rfl)
  rcases List.append_eq_append_iff.mp whole with ⟨more, same, follows⟩ | ⟨more, same, follows⟩
  · exact (across more same follows).elim
  · cases more with
    | nil => exact (across [] (by simpa using same.symm) follows.symm).elim
    | cons d behind =>
      obtain ⟨rfl, rfl⟩ := List.cons.inj follows
      exact ⟨behind, same, rfl⟩

/-- Where nothing is found in the first part nothing is found in the whole. -/
theorem IsParted.eq_none {c : Char} {rest second : List Char} (parted : IsParted (c :: rest) second)
    (nothing : quotedSegment none (c :: rest) = none) :
    quotedSegment none (c :: (rest ++ second)) = none := by
  refine (quotedSegment_eq_none_or c (rest ++ second)).resolve_right ?_
  rintro ⟨segment, later, rfl, whole, nonempty, symbols⟩
  obtain ⟨behind, rfl, rfl⟩ := parted.exists_eq symbols whole
  rw [quotedSegment_append nonempty symbols] at nothing
  cases nothing

/-- **Parts of a text that decoding leaves as it is** are left as they are. -/
theorem replaceAll_of_append {first second : List Char} (parted : IsParted first second)
    (kept : Text.replaceAll quotedSegment (first ++ second) = first ++ second) :
    Text.replaceAll quotedSegment first = first ∧
      Text.replaceAll quotedSegment second = second := by
  -- What stands before a place is left as it is, and so no later find has been moved.
  refine replaceAll_induction (motive := fun first first' => IsParted first second →
      Text.replaceAll quotedSegment (first ++ second) = first ++ second →
        first' = first ∧ Text.replaceAll quotedSegment second = second)
    (fun _ kept => ⟨rfl, kept⟩) (fun c rest nothing found parted kept => ?_)
    (fun segment later nonempty symbols found parted kept => ?_) first parted kept
  · rw [List.cons_append,
      Text.replaceAll_cons_of_none looksAhead_quotedSegment (parted.eq_none nothing)] at kept
    obtain ⟨here, behind⟩ := found parted.of_cons (List.cons.inj kept).2
    rw [here]
    exact ⟨rfl, behind⟩
  · rw [List.cons_append, List.append_assoc, List.cons_append, replaceAll_segment nonempty symbols] at kept
    have same := (List.cons.inj kept).2
    have stays := eq_of_rewritten_append symbols same
    rw [stays] at same
    obtain ⟨here, behind⟩ := found parted.of_cons.of_append.of_cons
      (List.cons.inj (List.append_cancel_left same)).2
    rw [stays, here]
    exact ⟨rfl, behind⟩

end HistoricalFigures.Literal
