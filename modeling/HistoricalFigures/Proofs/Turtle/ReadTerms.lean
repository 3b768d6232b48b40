import HistoricalFigures.Proofs.Outcome
import HistoricalFigures.Proofs.Turtle.Objects
import HistoricalFigures.Turtle.Triple

/-!
**The objects that reading gives.** Every literal that is read has a datatype, or a language in
small letters, or neither.

* `IsSound`: the text of a token for a language has the form of one.
* `isSound_of_tokensFrom`: the tokens of a document are sound.
* `step_statements`: a step adds one statement at most.
* `isReadTerm_of_parse`, `isReadTerm_of_parseTriple`: the objects of documents and of triples.
-/
namespace HistoricalFigures.Turtle

open Rdf (Namespaces Statement Term)

/-! ### Languages among the tokens -/

/-- The text of a token for a language is a language behind an at sign, in whatever letters. -/
def IsSound (token : Token) : Prop :=
  token.kind = .language → IsLanguageTag ((token.text.drop 1).map Char.toLower)

/-- **What is read as a language is one**, once its letters are small. -/
theorem isLanguageTag_take_languageExtent {text : List Char} (found : languageExtent text ≠ 0) :
    IsLanguageTag ((text.take (languageExtent text)).map Char.toLower) := by
  obtain ⟨rest, whole⟩ := List.takeWhile_prefix Char.isAlpha (l := text)
  have alpha : ∀ c ∈ text.takeWhile Char.isAlpha, c.isAlpha = true :=
    List.all_eq_true.mp List.all_takeWhile
  simp only [languageExtent] at found ⊢
  generalize text.takeWhile Char.isAlpha = letters at whole alpha found ⊢
  subst whole
  rw [List.drop_left] at found ⊢
  have positive : letters.length ≠ 0 := fun none => found (if_pos none)
  have nonempty : letters ≠ [] := fun none => positive (List.length_eq_zero_iff.mpr none)
  rw [if_neg positive, List.take_length_add_append, List.map_append]
  have small : ∀ c ∈ letters.map Char.toLower, c.isLower = true := by
    intro c member
    obtain ⟨d, inside, rfl⟩ := List.mem_map.mp member
    exact isLower_toLower (alpha d inside)
  refine ⟨_, _, rfl, by simpa using nonempty, small, ?_, ?_⟩
  · by_cases hyphen : rest.head? = some '-'
    · rw [if_pos hyphen, List.head?_map, List.head?_take]
      by_cases none : subtagExtent rest = 0
      · exact .inl (by rw [none, List.take_zero, List.map_nil])
      · exact .inr (by rw [if_neg none, hyphen]; rfl)
    · exact .inl (by rw [if_neg hyphen, List.take_zero, List.map_nil])
  · have stays : Char.toLower '-' = '-' := rfl
    by_cases hyphen : rest.head? = some '-'
    · rw [if_pos hyphen]
      exact (isDotted_take_subtagExtent rest).map stays fun c => isTagChar_toLower
    · rw [if_neg hyphen, List.take_zero]
      exact .nil

/-- What is found at a place is no token for a language. -/
def IsOther (found : Option (Option TokenKind × Nat)) : Prop :=
  ∀ extent, found ≠ some (some .language, extent)

/-- A string is no language. -/
theorem stringExtent?_ne_language (quote : Char) (rest : List Char) (extent : Nat) :
    stringExtent? quote rest ≠ some (.language, extent) := by
  unfold stringExtent?
  dsimp only
  split
  · simp
  · cases shortExtent? quote 0 rest <;> simp

theorem letterExtent_fst_ne_language (rest : List Char) : (letterExtent rest).1 ≠ .language := by
  unfold letterExtent
  dsimp only
  split <;> simp

theorem isOther_extent? {c : Char} (other : c ≠ '@') (rest : List Char) :
    IsOther (extent? c rest) := by
  unfold extent?
  refine iteInduction (motive := IsOther) (fun _ => by simp [IsOther]) fun _ => ?_
  refine iteInduction (motive := IsOther) (fun _ => by simp [IsOther]) fun _ => ?_
  refine iteInduction (motive := IsOther) (fun _ => by simp [IsOther]) fun _ => ?_
  refine iteInduction (motive := IsOther) (fun _ => ?_) fun _ => ?_
  · simp [IsOther, stringExtent?_ne_language]
  refine iteInduction (motive := IsOther) (fun same => absurd same other) fun _ => ?_
  refine iteInduction (motive := IsOther) (fun _ => ?_) fun _ => ?_
  · split <;> simp [IsOther]
  refine iteInduction (motive := IsOther) (fun _ => ?_) fun _ => ?_
  · dsimp only
    split <;> simp [IsOther]
  refine iteInduction (motive := IsOther) (fun _ => by simp [IsOther]) fun _ => ?_
  refine iteInduction (motive := IsOther) (fun _ => by simp [IsOther]) fun _ => ?_
  refine iteInduction (motive := IsOther) (fun _ => ?_) fun _ => ?_
  · simp [IsOther, letterExtent_fst_ne_language]
  refine iteInduction (motive := IsOther) (fun _ => ?_) fun _ => ?_
  · split <;> simp [IsOther]
  refine iteInduction (motive := IsOther) (fun _ => by simp [IsOther]) fun _ => ?_
  exact iteInduction (motive := IsOther) (fun _ => by simp [IsOther]) fun _ => by simp [IsOther]

theorem extent?_eq_language {c : Char} {rest : List Char} {extent : Nat}
    (found : extent? c rest = some (some .language, extent)) :
    extent = languageExtent rest ∧ languageExtent rest ≠ 0 := by
  obtain rfl : c = '@' := by
    by_contra other
    exact isOther_extent? other rest extent found
  rw [extent?, if_neg (by decide), if_neg (by decide), if_neg (by decide), if_neg (by decide),
    if_pos rfl] at found
  obtain ⟨⟨kind, reach⟩, at_, same⟩ := Option.map_eq_some_iff.mp found
  obtain ⟨rfl, rfl⟩ : kind = .language ∧ reach = extent := by simpa using same
  unfold atExtent? at at_
  dsimp only at at_
  split at at_
  · simp at at_
  · by_cases none : languageExtent rest = 0
    · rw [if_pos none] at at_
      cases at_
    · rw [if_neg none] at at_
      cases at_
      exact ⟨rfl, none⟩

/-- **The tokens of a document are sound.** -/
theorem isSound_of_tokensFrom {line skipped : Nat} {text : List Char} {found : List Token}
    (ends : tokensFrom line skipped text = .ok found) : ∀ token ∈ found, IsSound token := by
  -- Only where no earlier token reaches does a token begin, and with the text that it stands for.
  induction text generalizing line skipped found with
  | nil => cases skipped <;> cases ends <;> exact fun token member => absurd member List.not_mem_nil
  | cons c rest sound =>
    cases skipped with
    | succ skipped => exact sound ends
    | zero =>
      rw [tokensFrom_cons] at ends
      split at ends
      · cases ends
      · exact sound ends
      · rename_i kind extent here
        obtain ⟨later, behind, rfl⟩ := eq_ok_of_map ends
        intro token member
        rcases List.mem_cons.mp member with rfl | inside
        · intro isLanguage
          obtain rfl : kind = .language := isLanguage
          obtain ⟨rfl, positive⟩ := extent?_eq_language here
          exact isLanguageTag_take_languageExtent positive
        · exact sound behind token inside

/-! ### Steps of a reading -/

/-- What is known of the statements behind a step: they are those before it, or one more stands
before them, with an object that documents hold. -/
def AddsReadTerm (before after : List Statement) : Prop :=
  after = before ∨ ∃ statement, after = statement :: before ∧ IsReadTerm statement.object

namespace Reading

variable {reading next : Reading} {token : Token}

/-- A step that looks for a separator adds nothing. -/
theorem statements_takeSeparator {subject predicate : String}
    (step : reading.takeSeparator subject predicate token = .ok next) :
    next.statements = reading.statements := by
  unfold takeSeparator takePoint at step
  split at step
  · cases step; rfl
  · split at step
    · cases step; rfl
    · split at step <;> cases step; rfl

theorem statements_takePredicate {subject : String}
    (step : reading.takePredicate subject token = .ok next) :
    next.statements = reading.statements := by
  unfold takePredicate at step
  split at step
  · cases step; rfl
  · obtain ⟨predicate, _, rfl⟩ := eq_ok_of_map step
    rfl

theorem statements_takePoint (step : reading.takePoint token = .ok next) :
    next.statements = reading.statements := by
  unfold takePoint at step
  split at step <;> cases step
  rfl

/-- A step that looks for an object adds a resource, a number or a truth value, or waits for what
follows a string. -/
theorem statements_takeObject {subject predicate : String}
    (step : reading.takeObject subject predicate token = .ok next) :
    AddsReadTerm reading.statements next.statements := by
  unfold takeObject at step
  split at step
  · obtain ⟨text, _, rfl⟩ := eq_ok_of_map step
    exact .inl rfl
  · obtain ⟨text, _, rfl⟩ := eq_ok_of_map step
    exact .inl rfl
  · cases step
    exact .inr ⟨_, rfl, .typed _ _⟩
  · split at step <;> cases step
    exact .inr ⟨_, rfl, .typed _ _⟩
  · obtain ⟨value, _, rfl⟩ := eq_ok_of_map step
    exact .inr ⟨_, rfl, .uri value⟩

/-- A step behind a string adds a literal, or waits for its datatype. -/
theorem statements_takeSuffix (sound : IsSound token) {subject predicate text : String}
    (step : reading.takeSuffix subject predicate text token = .ok next) :
    AddsReadTerm reading.statements next.statements := by
  unfold takeSuffix at step
  split at step
  · rename_i isLanguage
    cases step
    refine .inr ⟨_, rfl, .tagged _ _ ?_⟩
    rw [String.toList_ofList]
    exact sound isLanguage
  · split at step
    · cases step
      exact .inl rfl
    · exact .inr ⟨_, statements_takeSeparator step, .plain text⟩

theorem statements_beginSentence (step : reading.beginSentence token = .ok next) :
    next.statements = reading.statements := by
  unfold beginSentence at step
  dsimp only at step
  split at step
  · split at step <;> cases step
    rfl
  · split at step
    · cases step
    · split at step
      · cases step; rfl
      · obtain ⟨subject, _, rfl⟩ := eq_ok_of_map step
        rfl

theorem statements_takeNamespaceName {pointed : Bool}
    (step : reading.takeNamespaceName pointed token = .ok next) :
    next.statements = reading.statements := by
  unfold takeNamespaceName at step
  dsimp only at step
  split at step <;> cases step
  rfl

theorem statements_takeNamespaceIri {pointed : Bool} {name : List Char}
    (step : reading.takeNamespaceIri pointed name token = .ok next) :
    next.statements = reading.statements := by
  unfold takeNamespaceIri at step
  split at step
  · obtain ⟨base, _, rfl⟩ := eq_ok_of_map step
    rfl
  · cases step

theorem statements_takeContinuation {subject : String}
    (step : reading.takeContinuation subject token = .ok next) :
    next.statements = reading.statements := by
  unfold takeContinuation at step
  split at step
  · cases step; rfl
  · split at step
    · exact statements_takePoint step
    · exact statements_takePredicate step

/-- **A step adds one statement at most**, with an object that documents hold. -/
theorem statements_step (sound : IsSound token) (step : reading.step token = .ok next) :
    AddsReadTerm reading.statements next.statements := by
  unfold Reading.step at step
  cases expecting : reading.expecting <;> rw [expecting] at step
  case sentence => exact .inl (statements_beginSentence step)
  case namespaceName pointed => exact .inl (statements_takeNamespaceName step)
  case namespaceIri pointed name => exact .inl (statements_takeNamespaceIri step)
  case declarationEnd => exact .inl (statements_takePoint step)
  case predicate subject => exact .inl (statements_takePredicate step)
  case object subject predicate => exact statements_takeObject step
  case suffix subject predicate text => exact statements_takeSuffix sound step
  case datatype subject predicate text =>
    obtain ⟨datatype, _, rfl⟩ := eq_ok_of_map step
    exact .inr ⟨_, rfl, .typed text datatype⟩
  case separator subject predicate => exact .inl (statements_takeSeparator step)
  case continuation subject => exact .inl (statements_takeContinuation step)

end Reading

/-! ### Documents and triples -/

/-- **The objects of a document.** -/
theorem isReadTerm_of_parse {known : Namespaces} {text : String} {statements : List Statement}
    (parsed : parse known text = .ok statements) :
    ∀ statement ∈ statements, IsReadTerm statement.object := by
  obtain ⟨⟨declared, found⟩, reads, rfl⟩ := eq_ok_of_map parsed
  obtain ⟨lexed, ends, reads⟩ := eq_ok_of_bind reads
  obtain ⟨last, run, finished⟩ := eq_ok_of_bind reads
  have held : ∀ statement ∈ last.statements, IsReadTerm statement.object := by
    refine eq_ok_of_foldlM
      (fun reading => ∀ statement ∈ reading.statements, IsReadTerm statement.object)
      ?_ (fun statement member => absurd member List.not_mem_nil) run
    intro reading token next member held step
    have sound := isSound_of_tokensFrom ends token member
    rcases Reading.statements_step sound step with same | ⟨first, more, readable⟩
    · rw [same]
      exact held
    · rw [more]
      exact List.forall_mem_cons.mpr ⟨readable, held⟩
  unfold Reading.finish at finished
  split at finished <;> cases finished
  exact fun statement member => held statement (List.mem_reverse.mp member)

/-- **The objects of a triple**, whichever way it is read. -/
theorem isReadTerm_of_parseTriple {known : Namespaces} {text : String}
    {statements : List Statement} (parsed : parseTriple known text = .ok statements) :
    ∀ statement ∈ statements, IsReadTerm statement.object := by
  unfold parseTriple at parsed
  split at parsed
  · rename_i strict
    cases parsed
    exact isReadTerm_of_parse strict
  · split at parsed
    · split at parsed
      · obtain ⟨value, _, rfl⟩ := eq_ok_of_map parsed
        intro statement member
        rw [List.mem_singleton.mp member]
        exact .plain _
      · cases parsed
    · cases parsed

end HistoricalFigures.Turtle
