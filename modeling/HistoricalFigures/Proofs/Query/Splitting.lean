import HistoricalFigures.Proofs.Query.TokenPassage
import HistoricalFigures.Proofs.Turtle.Advance

/-!
**A plain block is cut where its sentences end.** Whoever reads the triples of such a block one by one
reads the statements that the block has as a document.

* `IsPlainText`: a text of blanks and tokens, without comments, strings between triple quotes and
  declarations.
* `isPlainFrom`: a check whether a text is plain.
* `ReadsAs`: a text that is read to the end of a sentence, with the statements that it adds.
* `Splits`: the stretches of a block, each with the statements of its sentences.
* `splits_of_readOn`: a plain text splits.
* `parse_pieces`: the statements of a plain block are those of its pieces.
-/
namespace HistoricalFigures

namespace Turtle

open Rdf (Namespaces Statement)

/-! ### Plain texts -/

/-- A text of blanks and tokens, none of which is a string between triple quotes or begins a
declaration. -/
inductive IsPlainText : List Char → Prop
  | nil : IsPlainText []
  | blank {c : Char} {rest : List Char} (isBlank : Unicode.isBlank c = true)
      (later : IsPlainText rest) : IsPlainText (c :: rest)
  | token {kind : TokenKind} {text rest : List Char} (isLexeme : IsLexeme kind text rest)
      (isShort : kind ≠ .longString) (noDeclaration : ¬ BeginsDeclaration kind text)
      (later : IsPlainText rest) : IsPlainText (text ++ rest)

instance (kind : TokenKind) (text : List Char) : Decidable (BeginsDeclaration kind text) :=
  inferInstanceAs (Decidable (_ ∨ _))

/-- A token may stand in a plain text. -/
def isPlainToken (kind : TokenKind) (text : List Char) : Bool :=
  decide (kind ≠ .longString ∧ ¬ BeginsDeclaration kind text)

/-- Whether a text is plain from a place on, where the next `skipped` characters belong to an earlier
token. -/
def isPlainFrom : Nat → List Char → Bool
  | skipped, [] => skipped == 0
  | skipped + 1, _ :: rest => isPlainFrom skipped rest
  | 0, c :: rest =>
    match extent? c rest with
    | none => false
    | some (none, extent) => Unicode.isBlank c && isPlainFrom extent rest
    | some (some kind, extent) => isPlainToken kind (c :: rest.take extent) && isPlainFrom extent rest

theorem isPlainFrom_cons (c : Char) (rest : List Char) :
    isPlainFrom 0 (c :: rest) = match extent? c rest with
      | none => false
      | some (none, extent) => Unicode.isBlank c && isPlainFrom extent rest
      | some (some kind, extent) =>
        isPlainToken kind (c :: rest.take extent) && isPlainFrom extent rest := by rfl

/-- **A text that is checked to be plain is plain.** -/
theorem isPlainText_of_isPlainFrom {skipped : Nat} {text : List Char}
    (checked : isPlainFrom skipped text = true) :
    skipped ≤ text.length ∧ IsPlainText (text.drop skipped) := by
  induction text generalizing skipped with
  | nil =>
    cases skipped with
    | zero => exact ⟨Nat.le_refl 0, .nil⟩
    | succ skipped => cases checked
  | cons c rest found =>
    cases skipped with
    | succ skipped =>
      obtain ⟨within, later⟩ := found checked
      exact ⟨Nat.succ_le_succ within, later⟩
    | zero =>
      refine ⟨Nat.zero_le _, ?_⟩
      rw [isPlainFrom_cons] at checked
      split at checked
      · cases checked
      · rename_i extent reach
        obtain ⟨blank, later⟩ := Bool.and_eq_true_iff.mp checked
        rw [extent?, if_pos blank] at reach
        cases reach
        exact .blank blank (found later).2
      · rename_i kind extent reach
        obtain ⟨here, later⟩ := Bool.and_eq_true_iff.mp checked
        obtain ⟨isShort, noDeclaration⟩ := of_decide_eq_true here
        obtain ⟨within, later⟩ := found later
        have isLexeme : IsLexeme kind (c :: rest.take extent) (rest.drop extent) := by
          refine ⟨c, rest.take extent, rfl, ?_⟩
          rw [List.take_append_drop, List.length_take, Nat.min_eq_left within]
          exact reach
        have plain := IsPlainText.token isLexeme isShort noDeclaration later
        rwa [List.cons_append, List.take_append_drop] at plain

/-- A text is read from what is expected to the end of a sentence, with the statements that it
adds, wherever it stands. -/
def ReadsAs (known : Namespaces) (expecting : Expecting) (text : List Char)
    (told : List Statement) : Prop :=
  ∀ done line, readOn ⟨known, done, expecting⟩ line text =
    .ok ⟨known, told.reverse ++ done, .sentence⟩

/-- A text may have more blanks before it. -/
theorem ReadsAs.of_trimStart {known : Namespaces} {expecting : Expecting} {text : List Char}
    {told : List Statement} (reads : ReadsAs known expecting (Unicode.trimStart text) told) :
    ReadsAs known expecting text told := by
  intro done line
  have whole : text.takeWhile Unicode.isBlank ++ Unicode.trimStart text = text :=
    List.takeWhile_append_dropWhile
  rw [← whole, Reads.blanks _ (List.all_eq_true.mp List.all_takeWhile) _ line]
  exact reads done _

/-- What is read to the end of a sentence is a document. -/
theorem ReadsAs.parse_eq {known : Namespaces} {text : List Char} {told : List Statement}
    (reads : ReadsAs known .sentence text told) : parse known (String.ofList text) = .ok told := by
  rw [parse, read_eq_readOn, String.toList_ofList, reads, List.append_nil]
  simp only [Except.bind, Except.map, Reading.finish, Reading.missing?, List.reverse_reverse]

/-- A token reaches as far in a text that ends before a blank. -/
theorem IsLexeme.of_append {kind : TokenKind} {lexeme text rest : List Char}
    (isLexeme : IsLexeme kind lexeme (text ++ rest)) (isShort : kind ≠ .longString)
    (breaks : Breaks rest) : IsLexeme kind lexeme text := by
  obtain ⟨c, body, rfl, reach⟩ := isLexeme
  rw [← List.append_assoc] at reach
  have within : body.length ≤ (body ++ text).length := by
    rw [List.length_append]
    exact Nat.le_add_right _ _
  exact ⟨c, body, rfl, extent?_of_append breaks reach within isShort⟩

/-- The first character of a token is no blank. -/
theorem IsLexeme.trimStart_eq {kind : TokenKind} {lexeme rest : List Char}
    (isLexeme : IsLexeme kind lexeme rest) (text : List Char) :
    Unicode.trimStart (lexeme ++ text) = lexeme ++ text := by
  obtain ⟨c, body, rfl, reach⟩ := isLexeme
  refine List.dropWhile_cons_of_neg fun isBlank => ?_
  rw [extent?, if_pos isBlank] at reach
  cases reach

/-- **Within statements the step is the same wherever the token stands**, and only a point ends a
statement. -/
theorem exists_of_readOn_token {known : Namespaces} {done : List Statement} {expecting : Expecting}
    {kind : TokenKind} {lexeme rest : List Char} {line : Nat} {last : Reading}
    (isStatement : expecting.IsStatement) (isLexeme : IsLexeme kind lexeme rest)
    (noDeclaration : ¬ BeginsDeclaration kind lexeme)
    (reads : readOn ⟨known, done, expecting⟩ line (lexeme ++ rest) = .ok last) :
    ∃ added after, after.IsStatement ∧ (after = .sentence ↔ IsPoint kind lexeme) ∧
      (∀ done line, Reading.step ⟨known, done, expecting⟩ ⟨kind, lexeme, line⟩ =
        .ok ⟨known, added ++ done, after⟩) ∧
      readOn ⟨known, added ++ done, after⟩ (lineBehind line lexeme) rest = .ok last := by
  obtain ⟨next, step, goesOn⟩ := exists_of_readOn_lexeme isLexeme reads
  obtain ⟨added, after, isStatement', isEnd, advances⟩ :=
    Reading.advances_step isStatement noDeclaration done expecting line next step
  obtain rfl := Except.ok.inj (step.symm.trans (advances done expecting line))
  exact ⟨added, after, isStatement', isEnd, fun done line => advances done expecting line, goesOn⟩

end Turtle

namespace Query

open Rdf (Namespaces Statement)
open Turtle (Breaks Expecting IsLexeme IsPlainText ReadsAs TokenKind readOn)

/-! ### Stretches -/

/-- The stretches of a block whose first one is read from what is expected: each ends with a point and
has the statements that it is read as, and behind the last point there are only blanks. -/
inductive Splits (known : Namespaces) :
    Expecting → List (List Char) → List (List Statement) → Prop
  | last {blanks : List Char} (areBlanks : ∀ c ∈ blanks, Unicode.isBlank c = true) :
      Splits known .sentence [blanks] []
  | cons {expecting : Expecting} {stretch : List Char} {told : List Statement}
      {more : List (List Char)} {tolds : List (List Statement)}
      (ends : stretch.getLast? = some '.')
      (reads : ReadsAs known expecting (Unicode.trimStart stretch) told)
      (later : Splits known .sentence more tolds) :
      Splits known expecting (stretch :: more) (told :: tolds)

/-- The stretches of a block are blanks alone, or they begin with one that ends with a point. -/
theorem Splits.cases_first {known : Namespaces} {expecting : Expecting}
    {stretches : List (List Char)} {tolds : List (List Statement)}
    (splits : Splits known expecting stretches tolds) :
    (∃ blanks : List Char, (∀ c ∈ blanks, Unicode.isBlank c = true) ∧ expecting = .sentence ∧
      stretches = [blanks] ∧ tolds = []) ∨
    ∃ first more told others, stretches = first :: more ∧ tolds = told :: others ∧
      first.getLast? = some '.' ∧ ReadsAs known expecting (Unicode.trimStart first) told ∧
        Splits known .sentence more others := by
  cases splits with
  | last areBlanks => exact .inl ⟨_, areBlanks, rfl, rfl, rfl⟩
  | cons ends reads later => exact .inr ⟨_, _, _, _, rfl, rfl, ends, reads, later⟩

/-- **A cut is behind a point and before a blank**, and what follows it is cut on its own. -/
theorem exists_of_stretchesFrom {place : Place} {text first : List Char} {more : List (List Char)}
    (cut : stretchesFrom place text = first :: more) :
    more = [] ∨ ∃ rest, text = first ++ rest ∧ first.getLast? = some '.' ∧ Breaks rest ∧
      stretchesFrom .outside rest = more := by
  induction text generalizing place first more with
  | nil =>
    cases cut
    exact .inl rfl
  | cons c rest found =>
    unfold stretchesFrom at cut
    dsimp only at cut
    split at cut
    · rename_i ends
      obtain ⟨rfl, rfl⟩ := List.cons.inj cut
      simp only [Place.endsTriple, Bool.and_eq_true, decide_eq_true_eq] at ends
      obtain ⟨⟨rfl, rfl⟩, breaks⟩ := ends
      refine .inr ⟨rest, rfl, rfl, fun d head => ?_, rfl⟩
      simpa [Option.mem_def.mp head] using breaks
    · split at cut
      · rename_i nothing
        exact absurd nothing (stretchesFrom_ne_nil _ _)
      · rename_i inner others parts
        obtain ⟨rfl, rfl⟩ := List.cons.inj cut
        rcases found parts with last | ⟨behind, rfl, ends, breaks, later⟩
        · exact .inl last
        · refine .inr ⟨behind, rfl, ?_, breaks, later⟩
          rw [List.getLast?_cons, ends, Option.getD_some]

/-- Behind each cut there is a blank. -/
theorem breaks_of_stretchesFrom {place : Place} {text first : List Char} {more : List (List Char)}
    (cut : stretchesFrom place text = first :: more) : Breaks more.flatten := by
  rcases exists_of_stretchesFrom cut with rfl | ⟨rest, _, _, breaks, rfl⟩
  · exact Turtle.breaks_nil
  · rwa [flatten_stretchesFrom]

/-- A blank is not cut. -/
theorem stretchesFrom_blank {c : Char} (isBlank : Unicode.isBlank c = true) (rest : List Char) :
    stretchesFrom .outside (c :: rest) = (stretchesFrom .outside rest).modifyHead (c :: ·) :=
  passes_blanks ⟨[c], fun _ member => List.mem_singleton.mp member ▸ isBlank⟩ rest

/-- A token is not cut, or it is a point before a blank. -/
theorem stretchesFrom_lexeme {kind : TokenKind} {lexeme rest : List Char}
    (isLexeme : IsLexeme kind lexeme rest) (isShort : kind ≠ .longString) :
    (Turtle.IsPoint kind lexeme ∧
      stretchesFrom .outside (lexeme ++ rest) = ['.'] :: stretchesFrom .outside rest) ∨
    (¬ (Turtle.IsPoint kind lexeme ∧ rest.head?.all Unicode.isBlank = true) ∧
      stretchesFrom .outside (lexeme ++ rest) =
        (stretchesFrom .outside rest).modifyHead (lexeme ++ ·)) := by
  obtain ⟨c, body, rfl, reach⟩ := isLexeme
  by_cases point : c :: body = ['.']
  · obtain ⟨rfl, rfl⟩ := List.cons.inj point
    obtain ⟨_, _, same, extent⟩ := Turtle.isLexeme_point rest
    obtain ⟨rfl, rfl⟩ := List.cons.inj same
    rw [List.nil_append] at reach extent
    obtain rfl : kind = .punctuation := by
      rw [extent] at reach
      cases reach
      rfl
    rw [List.singleton_append, stretchesFrom]
    have stays : Place.next .outside '.' = .outside := by decide
    have whether : Place.endsTriple .outside '.' rest = rest.head?.all Unicode.isBlank := by
      rw [Place.endsTriple, decide_eq_true rfl, decide_eq_true rfl, Bool.true_and, Bool.true_and]
    rw [stays, whether]
    cases blank : rest.head?.all Unicode.isBlank with
    | true => exact .inl ⟨⟨rfl, rfl⟩, rfl⟩
    | false =>
      refine .inr ⟨fun both => Bool.false_ne_true both.2, ?_⟩
      cases parts : stretchesFrom .outside rest with
      | nil => exact absurd parts (stretchesFrom_ne_nil _ rest)
      | cons first more => rfl
  · exact .inr ⟨fun both => point both.1.2, passes_token reach isShort point rest⟩

section Reading

variable {known : Namespaces} {expecting after : Expecting} {rest : List Char}
  {tolds : List (List Statement)}

/-- A blank may stand before the first stretch. -/
theorem Splits.blank {c : Char} (isBlank : Unicode.isBlank c = true)
    (splits : Splits known expecting (stretchesFrom .outside rest) tolds) :
    Splits known expecting (stretchesFrom .outside (c :: rest)) tolds := by
  rw [stretchesFrom_blank isBlank]
  obtain ⟨blanks, areBlanks, rfl, parts, rfl⟩ |
    ⟨first, more, here, others, parts, rfl, point, readsAs, later⟩ := splits.cases_first
  · rw [parts]
    exact .last (List.forall_mem_cons.mpr ⟨isBlank, areBlanks⟩)
  · rw [parts]
    refine .cons ?_ ?_ later
    · rw [List.getLast?_cons, point, Option.getD_some]
    · rwa [Unicode.trimStart, List.dropWhile_cons_of_pos isBlank]

variable {kind : TokenKind} {lexeme : List Char} {added : List Statement}
  (steps : ∀ done line, Turtle.Reading.step ⟨known, done, expecting⟩ ⟨kind, lexeme, line⟩ =
    .ok ⟨known, added ++ done, after⟩)
include steps

/-- A token may stand before a text that is read. -/
theorem readsAs_lexeme {text : List Char} {told : List Statement} (isLexeme : IsLexeme kind lexeme text)
    (readsAs : ReadsAs known after text told) :
    ReadsAs known expecting (Unicode.trimStart (lexeme ++ text)) (added.reverse ++ told) := by
  intro done line
  have takes := Turtle.Reads.lexeme isLexeme (steps done)
  rw [isLexeme.trimStart_eq, takes line, readsAs, List.reverse_append, List.reverse_reverse,
    List.append_assoc]

/-- **A token may stand before the first stretch**, unless it is one of its own. -/
theorem Splits.token (isLexeme : IsLexeme kind lexeme rest) (isShort : kind ≠ .longString)
    (uncut : ¬ (after = .sentence ∧ rest.head?.all Unicode.isBlank = true))
    (splits : Splits known after (stretchesFrom .outside rest) tolds) :
    ∃ others, Splits known expecting ((stretchesFrom .outside rest).modifyHead (lexeme ++ ·)) others ∧
      others.flatten = added.reverse ++ tolds.flatten := by
  have whole := flatten_stretchesFrom .outside rest
  obtain ⟨blanks, areBlanks, rfl, parts, rfl⟩ |
    ⟨first, more, here, others, parts, rfl, point, readsAs, later⟩ := splits.cases_first
  · -- Before blanks alone the token is a point, and would have been cut.
    rw [parts, List.flatten_singleton] at whole
    refine absurd ⟨rfl, ?_⟩ uncut
    rw [← whole]
    cases blanks with
    | nil => rfl
    | cons c later => exact areBlanks c List.mem_cons_self
  · rw [parts, List.flatten_cons] at whole
    rw [parts, List.modifyHead_cons]
    refine ⟨(added.reverse ++ here) :: others, .cons ?_ ?_ later, ?_⟩
    · rw [List.getLast?_append, point, Option.some_or]
    · rw [← whole] at isLexeme
      exact readsAs_lexeme steps (isLexeme.of_append isShort (breaks_of_stretchesFrom parts))
        readsAs.of_trimStart
    · rw [List.flatten_cons, List.flatten_cons, List.append_assoc]

end Reading

/-- **A plain text that is read to the end of a sentence splits**, and what is read is what its
stretches tell. -/
theorem splits_of_readOn {known : Namespaces} {text : List Char} (plain : IsPlainText text)
    {expecting : Expecting} (isStatement : expecting.IsStatement) {done : List Statement}
    {line : Nat} {last : Turtle.Reading}
    (reads : readOn ⟨known, done, expecting⟩ line text = .ok last) (ends : last.expecting = .sentence) :
    ∃ tolds, Splits known expecting (stretchesFrom .outside text) tolds ∧
      last.statements = tolds.flatten.reverse ++ done := by
  -- What the rest is read as does not depend on what has been read, so that one token after the other
  -- can be put before the first stretch of the rest, or before all of them where it ends a sentence.
  induction plain generalizing expecting done line with
  | nil =>
    cases reads
    cases ends
    exact ⟨[], .last fun c member => absurd member List.not_mem_nil, rfl⟩
  | @blank c rest isBlank _ found =>
    have here := Turtle.Reads.blank ⟨known, done, expecting⟩ isBlank rest line
    rw [List.singleton_append] at here
    rw [here] at reads
    obtain ⟨tolds, splits, told⟩ := found isStatement reads
    exact ⟨tolds, splits.blank isBlank, told⟩
  | @token kind lexeme rest isLexeme isShort noDeclaration _ found =>
    obtain ⟨added, after, isStatement', isEnd, steps, goesOn⟩ :=
      Turtle.exists_of_readOn_token isStatement isLexeme noDeclaration reads
    obtain ⟨tolds, splits, told⟩ := found isStatement' goesOn
    rcases stretchesFrom_lexeme isLexeme isShort with ⟨point, cut⟩ | ⟨uncut, cut⟩
    · obtain rfl := isEnd.mpr point
      obtain ⟨rfl, rfl⟩ := point
      have ended : ReadsAs known .sentence [] [] := fun done line => rfl
      have readsAs := readsAs_lexeme steps (Turtle.isLexeme_point []) ended
      rw [List.append_nil, List.append_nil] at readsAs
      refine ⟨added.reverse :: tolds, cut ▸ .cons rfl readsAs splits, ?_⟩
      rw [told, List.flatten_cons, List.reverse_append, List.reverse_reverse, List.append_assoc]
    · obtain ⟨others, splits, same⟩ := splits.token steps isLexeme isShort
        fun both => uncut ⟨isEnd.mp both.1, both.2⟩
      refine ⟨others, cut ▸ splits, ?_⟩
      rw [told, same, List.reverse_append, List.reverse_reverse, List.append_assoc]

/-! ### Pieces -/

/-- The pieces of what splits end with their points, and are read one by one. -/
theorem Splits.pieces {known : Namespaces} {stretches : List (List Char)}
    {tolds : List (List Statement)} (splits : Splits known .sentence stretches tolds) :
    (∀ piece ∈ (stretches.map Unicode.trim).filter fun piece => !piece.isEmpty,
        piece.getLast? = some '.') ∧
      ((stretches.map Unicode.trim).filter fun piece => !piece.isEmpty).mapM
        (fun piece => Turtle.parse known (String.ofList piece)) = .ok tolds := by
  induction stretches generalizing tolds with
  | nil => cases splits
  | cons stretch more found =>
    obtain ⟨blanks, areBlanks, _, parts, rfl⟩ |
      ⟨_, _, told, others, parts, rfl, ends, reads, later⟩ := splits.cases_first
    · have nothing : Unicode.trimStart blanks = [] := List.dropWhile_eq_nil_iff.mpr areBlanks
      rw [parts, List.map_singleton, Unicode.trim, nothing]
      exact ⟨fun piece member => absurd member List.not_mem_nil, rfl⟩
    · obtain ⟨rfl, rfl⟩ := List.cons.inj parts
      obtain ⟨trimmed, ends⟩ := Unicode.trim_of_getLast? ends (by decide)
      obtain ⟨othersEnd, othersRead⟩ := found later
      have kept : (!(Unicode.trimStart stretch).isEmpty) = true := by
        cases start : Unicode.trimStart stretch with
        | nil =>
          rw [start] at ends
          cases ends
        | cons c rest => rfl
      rw [List.map_cons, trimmed,
        List.filter_cons_of_pos (p := fun piece : List Char => !piece.isEmpty) kept]
      refine ⟨List.forall_mem_cons.mpr ⟨ends, othersEnd⟩, ?_⟩
      rw [List.mapM_cons, reads.parse_eq, othersRead]
      rfl

/-- **The statements of a plain block are those of its pieces**, one after the other, and each piece
ends with a point. -/
theorem parse_pieces {known : Namespaces} {block : List Char} (plain : IsPlainText block)
    {statements : List Statement}
    (parsed : Turtle.parse known (String.ofList block) = .ok statements) :
    (∀ piece ∈ pieces block, piece.getLast? = some '.') ∧
      ∃ tolds, statements = tolds.flatten ∧
        (pieces block).mapM (fun piece => Turtle.parse known (String.ofList piece)) = .ok tolds := by
  obtain ⟨⟨declared, found⟩, reads, rfl⟩ := eq_ok_of_map parsed
  rw [Turtle.read_eq_readOn, String.toList_ofList] at reads
  obtain ⟨last, run, finished⟩ := eq_ok_of_bind reads
  have ends : last.expecting = .sentence ∧ last.statements.reverse = found := by
    unfold Turtle.Reading.finish at finished
    cases expecting : last.expecting <;> rw [expecting] at finished <;> cases finished
    exact ⟨rfl, rfl⟩
  have start : Expecting.IsStatement .sentence := trivial
  obtain ⟨tolds, splits, told⟩ := splits_of_readOn plain start run ends.1
  refine ⟨splits.pieces.1, tolds, ?_, splits.pieces.2⟩
  rw [← ends.2, told, List.append_nil, List.reverse_reverse]

end Query

end HistoricalFigures
