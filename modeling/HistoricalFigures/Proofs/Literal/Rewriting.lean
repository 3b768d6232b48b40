import HistoricalFigures.Proofs.Literal.Decoding
import HistoricalFigures.Proofs.Literal.Encoded
import HistoricalFigures.Proofs.Turtle.Rewriting

/-!
**Decoding the quoted segments of a text writes them anew**, as strings are written in documents, and
nothing else.

* `exists_rewritten_eq`: what a segment is replaced by, in written form.
* `rewrites_replaceAll`: decoding writes anew what stands between double quotes.
* `isLexeme_replaceAll`, `exists_stringValue_replaceAll`: what a string is decoded to.
* `replaceAll_append`, `replaceAll_append_of_notMem`: the parts of a text are decoded one by one.
-/
namespace HistoricalFigures.Literal

open Turtle (Hides IsLexeme Reading Resolves Rewrites TokenKind formatStringChar)

/-! ### Segments -/

/-- The characters of a segment are written as themselves. -/
theorem flatMap_formatStringChar_segment {segment : List Char}
    (symbols : ∀ d ∈ segment, Base64.isSymbol d = true) : segment.flatMap formatStringChar = segment := by
  induction segment with
  | nil => rfl
  | cons c later found =>
    obtain ⟨here, others⟩ := List.forall_mem_cons.mp symbols
    have plain : formatStringChar c = [c] := by
      unfold formatStringChar
      repeat rw [if_neg (by rintro rfl; exact absurd here (by decide))]
    rw [List.flatMap_cons, plain, found others, List.singleton_append]

theorem replaceAllFrom_lineBlank_ne_nil {text : List Char} (nonempty : text ≠ []) :
    Text.replaceAllFrom lineBlank none 0 text ≠ [] := by
  obtain ⟨c, later, rfl⟩ := List.exists_cons_of_ne_nil nonempty
  rw [Text.replaceAllFrom, lineBlank]
  by_cases isBreak_ : isBreak c = true
  · rw [if_pos isBreak_]
    exact List.cons_ne_nil _ _
  · rw [if_neg isBreak_]
    by_cases tab : c = '\t'
    · rw [if_pos tab]
      exact List.cons_ne_nil _ _
    · rw [if_neg tab]
      exact List.cons_ne_nil _ _

/-- **A segment is replaced by a text that is not empty**, in written form. -/
theorem exists_rewritten_eq {segment : List Char} (nonempty : segment ≠ [])
    (symbols : ∀ d ∈ segment, Base64.isSymbol d = true) :
    ∃ told, told ≠ [] ∧ rewritten segment = told.flatMap formatStringChar := by
  unfold rewritten
  split
  · exact ⟨segment, nonempty, (flatMap_formatStringChar_segment symbols).symm⟩
  · exact ⟨_, replaceAllFrom_lineBlank_ne_nil (decodeChars_ne_nil nonempty), (escapeFrom_eq _ none).1⟩

/-! ### What stands between double quotes -/

/-- **Decoding writes anew what stands between double quotes.** -/
theorem rewrites_replaceAll (text : List Char) :
    Rewrites '\x22' text (Text.replaceAll quotedSegment text) := by
  refine replaceAll_induction .nil (fun c rest _ => .char c) (fun segment later nonempty symbols found => ?_)
    text
  obtain ⟨told, nonempty', same⟩ := exists_rewritten_eq nonempty symbols
  have whole := Rewrites.segment nonempty nonempty' (Turtle.hides_double _) (Turtle.hides_double _)
    (found.char '\x22')
  rwa [flatMap_formatStringChar_segment symbols, ← same] at whole

/-- Decoding takes no single quotes away. -/
theorem count_le_count_replaceAll (text : List Char) :
    text.count '\x27' ≤ (Text.replaceAll quotedSegment text).count '\x27' := by
  refine replaceAll_induction (motive := fun text text' => text.count '\x27' ≤ text'.count '\x27')
    (Nat.le_refl _) (fun c rest _ found => ?_) (fun segment later _ symbols found => ?_) text
  · rw [List.count_cons, List.count_cons]
    exact Nat.add_le_add_right found _
  · have absent : segment.count '\x27' = 0 :=
      List.count_eq_zero.mpr fun member => absurd (symbols _ member) (by decide)
    simp only [List.count_cons, List.count_append, absent]
    omega

/-- **Where decoding brings no single quotes** they stand between double quotes nowhere anew. -/
theorem rewrites_replaceAll_single {text : List Char}
    (none : (Text.replaceAll quotedSegment text).count '\x27' = text.count '\x27') :
    Rewrites '\x27' text (Text.replaceAll quotedSegment text) := by
  refine replaceAll_induction
    (motive := fun text text' => text'.count '\x27' = text.count '\x27' → Rewrites '\x27' text text')
    (fun _ => .nil) (fun c rest _ found none => ?_)
    (fun segment later nonempty symbols found none => ?_) text none
  · rw [List.count_cons, List.count_cons] at none
    exact .char c (found (Nat.add_right_cancel none))
  · have absent : '\x27' ∉ segment := fun member => absurd (symbols _ member) (by decide)
    have more := count_le_count_replaceAll later
    simp only [List.count_cons, List.count_append, List.count_eq_zero.mpr absent] at none
    obtain ⟨told, nonempty', same⟩ := exists_rewritten_eq nonempty symbols
    have hidden : '\x27' ∉ told := by
      intro member
      have written : '\x27' ∈ rewritten segment :=
        same ▸ List.mem_flatMap.mpr ⟨'\x27', member, List.mem_singleton_self _⟩
      have some := List.count_pos_iff.mpr written
      omega
    have whole := Rewrites.segment nonempty nonempty' (.inr absent) (.inr hidden)
      ((found (by omega)).char '\x22')
    rwa [flatMap_formatStringChar_segment symbols, ← same] at whole

/-! ### Strings -/

/-- **A string is decoded to a string**: one in double quotes always is, and one in single quotes where
decoding brings no single quotes into it. -/
theorem isLexeme_replaceAll {kind : TokenKind} {lexeme : List Char} (isLexeme : IsLexeme kind lexeme [])
    (isString : kind.isString = true)
    (none : lexeme.head? = some '\x22' ∨
      (Text.replaceAll quotedSegment lexeme).count '\x27' = lexeme.count '\x27') :
    IsLexeme kind (Text.replaceAll quotedSegment lexeme) [] := by
  obtain ⟨quote, body, rfl, reach⟩ := id isLexeme
  rcases (Turtle.isString_of_extent? reach).mp isString with rfl | rfl
  · exact (rewrites_replaceAll _).isLexeme isString rfl isLexeme
  · have kept := none.resolve_left (by simp)
    exact (rewrites_replaceAll_single kept).isLexeme isString rfl isLexeme

/-- **A string has a value behind the decoding.** -/
theorem exists_stringValue_replaceAll {kind : TokenKind} {lexeme : List Char} {line : Nat}
    (isLexeme : IsLexeme kind lexeme []) (isString : kind.isString = true)
    (stays : IsLexeme kind (Text.replaceAll quotedSegment lexeme) []) {value : String}
    (reads : Reading.stringValue kind.quoteCount ⟨kind, lexeme, line⟩ = .ok value) (line' : Nat) :
    ∃ value', Reading.stringValue kind.quoteCount
      ⟨kind, Text.replaceAll quotedSegment lexeme, line'⟩ = .ok value' :=
  (Turtle.exists_stringValue_iff stays isString line').mpr
    ((rewrites_replaceAll lexeme).resolves_quoteCount isString isLexeme
      ((Turtle.exists_stringValue_iff isLexeme isString line).mp ⟨value, reads⟩))

/-! ### Parts -/

/-- **Parts of a text are decoded one by one.** -/
theorem replaceAll_append {first second : List Char} (parted : IsParted first second) :
    Text.replaceAll quotedSegment (first ++ second) =
      Text.replaceAll quotedSegment first ++ Text.replaceAll quotedSegment second := by
  refine replaceAll_induction (motive := fun first first' => IsParted first second →
      Text.replaceAll quotedSegment (first ++ second) = first' ++ Text.replaceAll quotedSegment second)
    (fun _ => rfl) (fun c rest nothing found parted => ?_)
    (fun segment later nonempty symbols found parted => ?_) first parted
  · rw [List.cons_append, Text.replaceAll_cons_of_none looksAhead_quotedSegment (parted.eq_none nothing),
      found parted.of_cons, List.cons_append]
  · have behind := found parted.of_cons.of_append.of_cons
    rw [List.cons_append, List.append_assoc, List.cons_append, replaceAll_segment nonempty symbols,
      behind, List.cons_append, List.append_assoc, List.cons_append]

/-- What has no double quotes is not decoded. -/
theorem replaceAll_append_of_notMem {first : List Char} (absent : '\x22' ∉ first)
    (second : List Char) : Text.replaceAll quotedSegment (first ++ second) =
      first ++ Text.replaceAll quotedSegment second := by
  induction first with
  | nil => rfl
  | cons c rest found =>
    obtain ⟨other, others⟩ := List.ne_and_not_mem_of_not_mem_cons absent
    have nothing : quotedSegment none (c :: (rest ++ second)) = none := by
      refine (quotedSegment_eq_none_or c (rest ++ second)).resolve_right ?_
      rintro ⟨_, _, rfl, _⟩
      exact other rfl
    rw [List.cons_append, Text.replaceAll_cons_of_none looksAhead_quotedSegment nothing,
      found others, List.cons_append]

theorem decodeQuotedSegments_of_notMem {text : List Char} (absent : '\x22' ∉ text) :
    decodeQuotedSegments (String.ofList text) = String.ofList text := by
  have same := replaceAll_append_of_notMem absent []
  rw [List.append_nil] at same
  rw [decodeQuotedSegments, String.toList_ofList, same]
  exact congrArg String.ofList (List.append_nil text)

end HistoricalFigures.Literal
