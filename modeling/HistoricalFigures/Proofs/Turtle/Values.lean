import HistoricalFigures.Proofs.Turtle.Scanning

/-!
**What the objects of statements look like.** A literal has a datatype or a language, never both, and each
number and each truth value of a document is the object of a statement of its own, written as it stands
there.

* `IsShaped`: the shape of objects.
* `valueObject?`: the object that a token for a number or a truth value stands for.
* `step_of_value`, `exists_of_step_value`: where it stands it is the object.
* `exists_added_of_foldlM`: each such token of a run adds its object.
* `parsed_objects`: the objects of documents and of triples.
-/
namespace HistoricalFigures.Turtle

open Rdf (Namespaces Statement Term)

/-! ### The shape of objects -/

/-- The shape of an object: a resource without datatype and language, or a literal that lacks one of
them, where a language is letters and parts behind hyphens. -/
def IsShaped (object : Term) : Prop :=
  (object.kind = .uri ∧ object.datatype = none ∧ object.language = none ∨
    object.kind = .literal ∧ (object.datatype = none ∨ object.language = none)) ∧
  ∀ language ∈ object.language, IsLanguageTag language.toList

theorem IsReadTerm.isShaped {object : Term} (readable : IsReadTerm object) : IsShaped object := by
  cases readable with
  | uri value => exact ⟨.inl ⟨rfl, rfl, rfl⟩, fun _ member => nomatch member⟩
  | plain value => exact ⟨.inr ⟨rfl, .inl rfl⟩, fun _ member => nomatch member⟩
  | typed value datatype => exact ⟨.inr ⟨rfl, .inr rfl⟩, fun _ member => nomatch member⟩
  | tagged value language grammar =>
    exact ⟨.inr ⟨rfl, .inl rfl⟩, fun _ member => Option.some.inj member ▸ grammar⟩

/-! ### Numbers and truth values -/

/-- The object that a token for a number or a truth value stands for. Other tokens stand for none. -/
def valueObject? (token : Token) : Option Term :=
  if token.kind = .number then
    some (.typed (String.ofList token.text) (Reading.numberDatatype token.text))
  else if token.kind = .word ∧ Reading.truthWords.contains token.text then
    some (.typed (String.ofList token.text) Rdf.booleanDatatype)
  else none

section Steps

variable {token : Token} {object : Term} {reading next : Reading}

theorem valueObject?_cases (value : valueObject? token = some object) :
    token.kind = .number ∧
        object = .typed (String.ofList token.text) (Reading.numberDatatype token.text) ∨
      (token.kind = .word ∧ token.text ∈ Reading.truthWords) ∧
        object = .typed (String.ofList token.text) Rdf.booleanDatatype := by
  unfold valueObject? at value
  split at value
  · exact .inl ⟨‹_›, (Option.some.inj value).symm⟩
  split at value
  · rename_i isTruth
    exact .inr ⟨⟨isTruth.1, List.contains_iff_mem.mp isTruth.2⟩, (Option.some.inj value).symm⟩
  · cases value

/-- **Where an object has to come, a number or a truth value is one.** -/
theorem step_of_value (value : valueObject? token = some object) {subject predicate : String}
    (expecting : reading.expecting = .object subject predicate) :
    reading.step token = .ok (reading.complete subject predicate object) := by
  obtain ⟨kind, text, line⟩ := token
  simp only [Reading.step, expecting]
  rcases valueObject?_cases value with ⟨isNumber, rfl⟩ | ⟨⟨isWord, isTruth⟩, rfl⟩
  · obtain rfl : kind = .number := isNumber
    rfl
  · obtain rfl : kind = .word := isWord
    exact if_pos isTruth

/-- **It is taken nowhere else.** -/
theorem exists_of_step_value (value : valueObject? token = some object)
    (step : reading.step token = .ok next) :
    ∃ subject predicate, reading.expecting = .object subject predicate := by
  obtain ⟨kind, text, line⟩ := token
  rcases valueObject?_cases value with ⟨isNumber, _⟩ | ⟨⟨isWord, isTruth⟩, _⟩
  · obtain rfl : kind = .number := isNumber
    cases expecting : reading.expecting with
    | object subject predicate => exact ⟨subject, predicate, rfl⟩
    | _ =>
      rw [Reading.step, expecting] at step
      cases step
  · obtain rfl : kind = .word := isWord
    have words : ∀ word ∈ Reading.truthWords, word ≠ ['a'] ∧
        String.ofList (Unicode.uppercase word) ≠ "BASE" ∧
        String.ofList (Unicode.uppercase word) ≠ "PREFIX" := by decide
    obtain ⟨noType, noBase, noPrefix⟩ := words text isTruth
    cases expecting : reading.expecting with
    | object subject predicate => exact ⟨subject, predicate, rfl⟩
    | sentence =>
      simp [Reading.step, expecting, Reading.beginSentence, noBase, noPrefix, Reading.resource,
        Except.map] at step
    | predicate subject =>
      simp [Reading.step, expecting, Reading.takePredicate, noType, Reading.resource,
        Except.map] at step
    | continuation subject =>
      simp [Reading.step, expecting, Reading.takeContinuation, Reading.isMark, Reading.takePredicate,
        noType, Reading.resource, Except.map] at step
    | _ =>
      rw [Reading.step, expecting] at step
      cases step

/-- What a step adds to the statements: nothing or one statement, and for a number or a truth value the
one with its object. -/
theorem exists_added_of_step (sound : IsSound token) (step : reading.step token = .ok next) :
    ∃ added : List Statement, next.statements = added ++ reading.statements ∧
      (valueObject? token).toList.Sublist (added.reverse.map Statement.object) := by
  cases value : valueObject? token with
  | some object =>
    obtain ⟨subject, predicate, expecting⟩ := exists_of_step_value value step
    obtain rfl := Except.ok.inj (step.symm.trans (step_of_value value expecting))
    exact ⟨[⟨subject, predicate, object⟩], rfl, List.Sublist.refl _⟩
  | none =>
    rcases Reading.statements_step sound step with same | ⟨statement, more, _⟩
    · exact ⟨[], same, List.nil_sublist _⟩
    · exact ⟨[statement], more, List.nil_sublist _⟩

end Steps

/-- **Each number and each truth value of a run adds its object**, in their order. -/
theorem exists_added_of_foldlM {found : List Token} (sound : ∀ token ∈ found, IsSound token)
    {reading last : Reading} (run : found.foldlM Reading.step reading = .ok last) :
    ∃ added, last.statements = added ++ reading.statements ∧
      (found.filterMap valueObject?).Sublist (added.reverse.map Statement.object) := by
  induction found generalizing reading with
  | nil =>
    cases run
    exact ⟨[], rfl, List.Sublist.refl _⟩
  | cons token later rest =>
    obtain ⟨here, others⟩ := List.forall_mem_cons.mp sound
    rw [List.foldlM_cons] at run
    obtain ⟨next, step, run⟩ := eq_ok_of_bind run
    obtain ⟨first, adds, value⟩ := exists_added_of_step here step
    obtain ⟨added, more, values⟩ := rest others run
    refine ⟨added ++ first, by rw [more, adds, List.append_assoc], ?_⟩
    rw [List.filterMap_eq_flatMap_toList, List.flatMap_cons, ← List.filterMap_eq_flatMap_toList,
      List.reverse_append, List.map_append]
    exact value.append values

theorem exists_numeral_of_isMatch {text : List Char} (isMatch : IsMatch (some .number) text) :
    ∃ numeral : Numeral, numeral.text = text := by
  cases isMatch with
  | number numeral => exact ⟨numeral, rfl⟩

/-! ### Documents and triples -/

/-- **The objects of documents and of triples.** Every one has its shape. A number is the object that is
written as it stands, and its parts tell the datatype; so is a truth value. Where the document is read each
of them is the object of a statement of its own, in their order. -/
theorem parsed_objects (known : Namespaces) (text : String) :
    (∀ statements, parse known text = .ok statements ∨ parseTriple known text = .ok statements →
      ∀ statement ∈ statements, IsShaped statement.object) ∧
    ∀ found, tokens text.toList = .ok found →
      (∀ token ∈ found, token.kind = .number → ∃ datatype,
        valueObject? token = some (.typed (String.ofList token.text) datatype) ∧
          (∃ numeral : Numeral, numeral.text = token.text) ∧
          ∀ numeral : Numeral, numeral.text = token.text →
            (datatype = Rdf.integerDatatype ↔ numeral.fraction = none ∧ numeral.exponent = none) ∧
            (datatype = Rdf.decimalDatatype ↔ numeral.fraction ≠ none ∧ numeral.exponent = none) ∧
            (datatype = Rdf.doubleDatatype ↔ numeral.exponent ≠ none)) ∧
      (∀ token ∈ found, token.kind = .word → token.text ∈ Reading.truthWords →
        valueObject? token = some (.typed (String.ofList token.text) Rdf.booleanDatatype)) ∧
      (∀ token ∈ found, ∀ object, valueObject? token = some object →
        ∀ (reading : Reading) (subject predicate : String),
          reading.expecting = .object subject predicate →
            reading.step token = .ok (reading.complete subject predicate object)) ∧
      ∀ statements, parse known text = .ok statements →
        (found.filterMap valueObject?).Sublist (statements.map Statement.object) := by
  refine ⟨fun statements parsed statement member => ?_, fun found lexed =>
    ⟨fun token member isNumber => ?_, fun token _ isWord isTruth => ?_,
      fun token _ object value reading subject predicate => step_of_value value,
      fun statements parsed => ?_⟩⟩
  · rcases parsed with parsed | parsed
    · exact (isReadTerm_of_parse parsed statement member).isShaped
    · exact (isReadTerm_of_parseTriple parsed statement member).isShaped
  · have isMatch := (isMatch_of_tokens lexed token member).1
    rw [isNumber] at isMatch
    refine ⟨Reading.numberDatatype token.text, if_pos isNumber, exists_numeral_of_isMatch isMatch,
      fun numeral same => ?_⟩
    rw [← same, numeral.numberDatatype_text]
    exact ⟨numeral.datatype_eq_integer_iff, numeral.datatype_eq_decimal_iff,
      numeral.datatype_eq_double_iff⟩
  · rw [valueObject?, if_neg (by rw [isWord]; decide), if_pos ⟨isWord, List.contains_iff_mem.mpr isTruth⟩]
  · obtain ⟨⟨declared, told⟩, reads, rfl⟩ := eq_ok_of_map parsed
    obtain ⟨found', ends, reads⟩ := eq_ok_of_bind reads
    obtain rfl := Except.ok.inj (lexed.symm.trans ends)
    obtain ⟨last, run, finished⟩ := eq_ok_of_bind reads
    obtain ⟨added, same, values⟩ := exists_added_of_foldlM (isSound_of_tokensFrom lexed) run
    unfold Reading.finish at finished
    split at finished <;> cases finished
    rw [same, List.append_nil]
    exact values

end HistoricalFigures.Turtle
