import HistoricalFigures.Proofs.Turtle.Advance
import HistoricalFigures.Proofs.Turtle.Lexes

/-!
**A document behind a line break is read as on its own.** What stands before it counts for the
namespaces that it declares and for nothing else, and no token of it reaches over the line break.

* `exists_step_anywhere`: a step is the same whatever has been read before it, declarations included.
* `exists_readOn_anywhere`: so is the reading of a whole text.
* `reads_before_newline`: a text that is read on its own is read in the same way before a line break.
* `read_newline_iff`: the statements and the namespaces of two documents in one.
* `parse_newline_iff`: two documents in one are read as one behind the other.
-/
namespace HistoricalFigures.Turtle

open Rdf (Namespaces Statement)

/-! ### What has been read before does not count -/

namespace Reading

section Steps

variable {known : Namespaces} {done : List Statement} {expecting : Expecting} {kind : TokenKind}
  {text : List Char} {line : Nat} {next : Reading}

theorem Advances.anywhere {take : Reading → Token → Except Error Reading}
    (advances : Advances known kind text take)
    (took : take ⟨known, done, expecting⟩ ⟨kind, text, line⟩ = .ok next) :
    ∃ declared added after, ∀ other line, take ⟨known, other, expecting⟩ ⟨kind, text, line⟩ =
      .ok ⟨declared, added ++ other, after⟩ := by
  obtain ⟨added, after, _, _, takes⟩ := advances done expecting line next took
  exact ⟨known, added, after, fun other line => takes other expecting line⟩

/-- The first token of a declaration is taken in the same way wherever it stands. -/
theorem exists_beginSentence_anywhere (declares : BeginsDeclaration kind text)
    (took : beginSentence ⟨known, done, expecting⟩ ⟨kind, text, line⟩ = .ok next) :
    ∃ declared added after, ∀ other line,
      beginSentence ⟨known, other, expecting⟩ ⟨kind, text, line⟩ =
        .ok ⟨declared, added ++ other, after⟩ := by
  unfold beginSentence at took ⊢
  dsimp only at took ⊢
  rcases declares with rfl | ⟨rfl, isPrefix⟩
  · rw [if_pos rfl] at took
    split at took
    · cases took
    · rename_i noBase
      refine ⟨known, [], .namespaceName true, fun other line => ?_⟩
      rw [if_pos rfl, if_neg noBase]
      rfl
  · refine ⟨known, [], .namespaceName false, fun other line => ?_⟩
    rw [if_neg (by decide), if_neg (by rw [isPrefix]; decide), if_pos ⟨rfl, isPrefix⟩]
    rfl

/-- **A step is the same whatever has been read before it**, and on every line. -/
theorem exists_step_anywhere
    (step : step ⟨known, done, expecting⟩ ⟨kind, text, line⟩ = .ok next) :
    ∃ declared added after, ∀ other line, Reading.step ⟨known, other, expecting⟩ ⟨kind, text, line⟩ =
      .ok ⟨declared, added ++ other, after⟩ := by
  cases expecting with
  | sentence =>
    by_cases declares : BeginsDeclaration kind text
    · exact exists_beginSentence_anywhere declares step
    · exact (advances_beginSentence declares).anywhere step
  | namespaceName pointed =>
    simp only [Reading.step, takeNamespaceName] at step ⊢
    split at step
    · rename_i isName
      exact ⟨known, [], _, fun other line => if_pos isName⟩
    · cases step
  | namespaceIri pointed name =>
    simp only [Reading.step, takeNamespaceIri] at step ⊢
    split at step
    · rename_i isIri
      obtain ⟨base, names, _⟩ := eq_ok_of_map step
      refine ⟨known.put (String.ofList name) base, [],
        if pointed then .declarationEnd else .sentence, fun other line => ?_⟩
      rw [if_pos isIri]
      exact congrArg (Except.map _) names
    · cases step
  | declarationEnd => exact advances_takePoint.anywhere step
  | predicate subject => exact (advances_takePredicate subject).anywhere step
  | object subject predicate => exact (advances_takeObject subject predicate).anywhere step
  | suffix subject predicate value => exact (advances_takeSuffix subject predicate value).anywhere step
  | datatype subject predicate value =>
    obtain ⟨datatype, names, _⟩ := eq_ok_of_map step
    exact ⟨known, [⟨subject, predicate, .typed value datatype⟩], .separator subject predicate,
      fun other line => congrArg (Except.map _) ((resource_cases names).2 line)⟩
  | separator subject predicate => exact (advances_takeSeparator subject predicate).anywhere step
  | continuation subject =>
    obtain ⟨added, after, _, _, takes⟩ :=
      advances_takeContinuation subject done (.continuation subject) line next step
    exact ⟨known, added, after, fun other line => takes other (.continuation subject) line⟩

end Steps

end Reading

/-- Where a text is read, what it is made up of is found in it. -/
theorem exists_lexes_of_readOn {reading last : Reading} {line : Nat} {text : List Char}
    (reads : readOn reading line text = .ok last) : ∃ found, Lexes text found := by
  obtain ⟨found, lexed, _⟩ := eq_ok_of_bind reads
  exact ⟨_, lexes_of_tokensFrom lexed⟩

/-- A comment does not count in a text that is read. -/
theorem readOn_comment {reading : Reading} {line : Nat} {body rest : List Char}
    (sameLine : ∀ c ∈ body, continuesComment c = true)
    (ends : ∀ c ∈ rest.head?, continuesComment c = false) :
    readOn reading line ('#' :: (body ++ rest)) = readOn reading (lineBehind line ('#' :: body)) rest :=
  Reads.comment reading sameLine ends line

/-- A blank does not count in a text that is read. -/
theorem readOn_blank {reading : Reading} {line : Nat} {c : Char} {rest : List Char}
    (isBlank : Unicode.isBlank c = true) :
    readOn reading line (c :: rest) = readOn reading (lineBehind line [c]) rest :=
  Reads.blank reading isBlank rest line

/-- **A text is read in the same way whatever has been read before it**, and on every line. -/
theorem exists_readOn_anywhere {known : Namespaces} {done : List Statement} {expecting : Expecting}
    {line : Nat} {text : List Char} {last : Reading}
    (reads : readOn ⟨known, done, expecting⟩ line text = .ok last) :
    ∃ declared added after, ∀ other line, readOn ⟨known, other, expecting⟩ line text =
      .ok ⟨declared, added ++ other, after⟩ := by
  -- By induction on what the text is made up of: the namespaces and the place go from step to step.
  obtain ⟨found, lexes⟩ := exists_lexes_of_readOn reads
  induction lexes generalizing known done expecting line with
  | nil => exact ⟨known, [], expecting, fun other line => rfl⟩
  | blank isBlank _ later =>
    rw [readOn_blank isBlank] at reads
    obtain ⟨declared, added, after, same⟩ := later reads
    exact ⟨declared, added, after, fun other line => by rw [readOn_blank isBlank, same]⟩
  | comment sameLine ends _ later =>
    rw [readOn_comment sameLine ends] at reads
    obtain ⟨declared, added, after, same⟩ := later reads
    exact ⟨declared, added, after, fun other line => by rw [readOn_comment sameLine ends, same]⟩
  | token isLexeme _ later =>
    obtain ⟨next, step, goesOn⟩ := exists_of_readOn_lexeme isLexeme reads
    obtain ⟨declared, added, after, steps⟩ := Reading.exists_step_anywhere step
    obtain rfl := Except.ok.inj (step.symm.trans (steps done line))
    obtain ⟨declared', added', after', same⟩ := later goesOn
    refine ⟨declared', added' ++ added, after', fun other line => ?_⟩
    rw [readOn_lexeme isLexeme (steps other line), same, List.append_assoc]

/-! ### No token reaches over a line break -/

/-- What is so of the first character of a text is so with a line break behind it, if it is so of a line
break. -/
theorem forall_head?_append_newline {holds : Char → Prop} (newline : holds '\n') {text : List Char}
    (first : ∀ c ∈ text.head?, holds c) (rest : List Char) :
    ∀ c ∈ (text ++ '\n' :: rest).head?, holds c := by
  cases text with
  | nil => exact fun c same => Option.some.inj same ▸ newline
  | cons d more => exact first

/-- **A token that is read on its own is one before a line break**: a string is followed by what may follow
strings, and other tokens end before a blank. -/
theorem IsLexeme.append_newline {kind : TokenKind} {lexeme behind : List Char}
    (isLexeme : IsLexeme kind lexeme behind)
    (follows : kind.isString = true → ∀ c ∈ behind.head?, mayFollow c = true) (rest : List Char) :
    IsLexeme kind lexeme (behind ++ '\n' :: rest) := by
  cases isString : kind.isString with
  | true =>
    have apart := isLexeme.head?_ne isString
      (forall_head?_append_newline (by decide) (follows isString) rest)
    exact (isLexeme.alone isString).string_append isString apart
  | false =>
    have alone : IsEdged [] := by rintro c ⟨⟩
    have before : IsEdged ([] ++ '\n' :: rest) :=
      forall_head?_append_newline (by decide) alone rest
    rw [← List.append_nil behind] at isLexeme
    exact isLexeme.transfer isString alone before

/-- **A text that is read on its own is read in the same way before a line break**: its strings are
closed in it, its comments end with their line, and its other tokens end before a blank. -/
theorem reads_before_newline {reading last : Reading} {line : Nat} {text : List Char}
    (reads : readOn reading line text = .ok last) (rest : List Char) :
    Reads reading text ('\n' :: rest) last := by
  obtain ⟨found, lexes⟩ := exists_lexes_of_readOn reads
  induction lexes generalizing reading line with
  | nil =>
    cases reads
    exact Reads.nil last _
  | blank isBlank _ later =>
    rw [readOn_blank isBlank] at reads
    exact (Reads.blank reading isBlank _).append (later reads)
  | @comment body behind _ sameLine ends _ later =>
    rw [readOn_comment sameLine ends] at reads
    have endsToo := forall_head?_append_newline (by decide) ends rest
    exact (Reads.comment reading sameLine endsToo).append (later reads)
  | @token kind lexeme behind _ isLexeme _ later =>
    obtain ⟨next, step, goesOn⟩ := exists_of_readOn_lexeme isLexeme reads
    have steps : ∀ line, reading.step ⟨kind, lexeme, line⟩ = .ok next := by
      obtain ⟨_, _, _, same⟩ := Reading.exists_step_anywhere step
      intro line'
      rw [same reading.statements line', ← same reading.statements line, ← step]
    have isLexeme' := isLexeme.append_newline
      (fun isString => mayFollow_of_readOn isString step goesOn) rest
    exact (Reads.lexeme isLexeme' steps).append (later goesOn)

/-! ### Two documents in one -/

/-- A document is read to the start of a sentence, with its statements in reverse. -/
theorem read_eq_ok_iff {known declared : Namespaces} {text : String} {told : List Statement} :
    read known text = .ok (declared, told) ↔
      readOn ⟨known, [], .sentence⟩ 1 text.toList = .ok ⟨declared, told.reverse, .sentence⟩ := by
  rw [read_eq_readOn]
  constructor
  · intro reads
    obtain ⟨⟨namespaces, statements, expecting⟩, run, finish⟩ := eq_ok_of_bind reads
    unfold Reading.finish at finish
    cases expecting <;> cases finish
    rw [run, List.reverse_reverse]
  · intro run
    rw [run]
    simp only [Except.bind, Reading.finish, Reading.missing?, List.reverse_reverse]

/-- **The statements and the namespaces of two documents in one**: those of the second one where the
namespaces that the first one declares are known. -/
theorem read_newline_iff {known declared last : Namespaces} {first second : String}
    {told all : List Statement} (reads : read known first = .ok (declared, told)) :
    read known (first ++ "\n" ++ second) = .ok (last, all) ↔
      ∃ later, read declared second = .ok (last, later) ∧ all = told ++ later := by
  have seam := reads_before_newline (read_eq_ok_iff.mp reads) second.toList
  have whole : readOn ⟨known, [], .sentence⟩ 1 (first ++ "\n" ++ second).toList =
      readOn ⟨declared, told.reverse, .sentence⟩ (lineBehind (lineBehind 1 first.toList) ['\n'])
        second.toList := by
    rw [String.toList_append, String.toList_append, List.append_assoc]
    exact (seam 1).trans (readOn_blank (by decide))
  rw [read_eq_ok_iff, whole]
  constructor
  · intro run
    obtain ⟨namespaces, added, after, same⟩ := exists_readOn_anywhere run
    obtain ⟨rfl, split, rfl⟩ := Reading.mk.inj (Except.ok.inj (run.symm.trans (same _ _)))
    refine ⟨added.reverse, read_eq_ok_iff.mpr ?_, ?_⟩
    · rw [same [] 1, List.reverse_reverse, List.append_nil]
    · rw [← List.reverse_inj, split, List.reverse_append, List.reverse_reverse]
  · rintro ⟨later, run, rfl⟩
    obtain ⟨namespaces, added, after, same⟩ := exists_readOn_anywhere (read_eq_ok_iff.mp run)
    obtain ⟨rfl, split, rfl⟩ :=
      Reading.mk.inj (Except.ok.inj ((read_eq_ok_iff.mp run).symm.trans (same [] 1)))
    rw [same told.reverse, List.reverse_append, split, List.append_nil]

/-- **Two documents in one are read as one behind the other.** Where the first one is read, the whole
is read exactly if the second one is with the namespaces known that the first one leaves; its
statements are those of the first one, whatever the second one declares, and then those of the second
one. -/
theorem parse_newline_iff {known declared : Namespaces} {first : String} {told : List Statement}
    (reads : read known first = .ok (declared, told)) (second : String) (all : List Statement) :
    parse known (first ++ "\n" ++ second) = .ok all ↔
      ∃ later, parse declared second = .ok later ∧ all = told ++ later := by
  constructor
  · intro parses
    obtain ⟨⟨last, _⟩, whole, rfl⟩ := eq_ok_of_map parses
    obtain ⟨later, run, split⟩ := (read_newline_iff reads).mp whole
    exact ⟨later, congrArg (Except.map Prod.snd) run, split⟩
  · rintro ⟨later, parses, split⟩
    obtain ⟨⟨last, later⟩, run, rfl⟩ := eq_ok_of_map parses
    exact congrArg (Except.map Prod.snd) ((read_newline_iff reads).mpr ⟨later, run, split⟩)

/-- A document that declares its namespace once more at its end, before a comment. -/
def redeclaring : String :=
  "@prefix p: <http://a/> .\np:x p:y \x22\x22\x22v\x22\x22\x22@es, 1.5 .\nPREFIX p: <http://b/> # p:x \x22"

theorem parse_redeclaring :
    read [] redeclaring = .ok ([("p", "http://b/")],
      [⟨"http://a/x", "http://a/y", .tagged "v" "es"⟩,
        ⟨"http://a/x", "http://a/y", .typed "1.5" Rdf.decimalDatatype⟩]) ∧
    parse [] (redeclaring ++ "\n" ++ "p:x a p:y .") = .ok
      [⟨"http://a/x", "http://a/y", .tagged "v" "es"⟩,
        ⟨"http://a/x", "http://a/y", .typed "1.5" Rdf.decimalDatatype⟩,
        ⟨"http://b/x", Rdf.typePredicate, .uri "http://b/y"⟩] := by
  have reads : read [] redeclaring = .ok ([("p", "http://b/")],
      [⟨"http://a/x", "http://a/y", .tagged "v" "es"⟩,
        ⟨"http://a/x", "http://a/y", .typed "1.5" Rdf.decimalDatatype⟩]) :=
    eq_ok_of_toOption (by decide +kernel)
  have parses : parse [("p", "http://b/")] "p:x a p:y ." =
      .ok [⟨"http://b/x", Rdf.typePredicate, .uri "http://b/y"⟩] :=
    eq_ok_of_toOption (by decide +kernel)
  exact ⟨reads, (parse_newline_iff reads _ _).mpr ⟨_, parses, rfl⟩⟩

end HistoricalFigures.Turtle
