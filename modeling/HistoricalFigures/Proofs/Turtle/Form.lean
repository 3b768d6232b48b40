import HistoricalFigures.Proofs.Turtle.Separation

/-!
**What a literal says does not count for how a document is read.** Two readings that differ in the
values of literals alone go on in the same way, and a string may be read for another one.

* `Term.form`, `Statement.form`: terms and statements without what their literals say.
* `Reading.form`: a reading without it.
* `map_form_step`: a step leads to the same form, whatever the literals before it say.
* `exists_step_of_form`, `exists_step_string_of_form`: the same token, and one string for another.
* `exists_finish_of_form`: the end of a document.
-/
namespace HistoricalFigures

namespace Rdf

/-- A term without what it says, if it is a literal. -/
def Term.form (term : Term) : Term := if term.kind = .literal then { term with value := "" } else term

/-- A statement without what its object says, if that is a literal. -/
def Statement.form (statement : Statement) : Statement :=
  { statement with object := statement.object.form }

@[simp] theorem Term.form_plain (value : String) : (Term.plain value).form = Term.plain "" := rfl

@[simp] theorem Term.form_typed (value datatype : String) :
    (Term.typed value datatype).form = Term.typed "" datatype := rfl

@[simp] theorem Term.form_tagged (value language : String) :
    (Term.tagged value language).form = Term.tagged "" language := rfl

@[simp] theorem Term.form_uri (value : String) : (Term.uri value).form = Term.uri value := rfl

end Rdf

namespace Turtle

open Rdf (Namespaces Statement)

/-- What may come next, without what a literal says that has been read. -/
def Expecting.form : Expecting → Expecting
  | .suffix subject property _ => .suffix subject property ""
  | .datatype subject property _ => .datatype subject property ""
  | other => other

namespace Reading

/-- A reading without what its literals say. -/
def form (reading : Reading) : Reading :=
  ⟨reading.namespaces, reading.statements.map Statement.form, reading.expecting.form⟩

section Steps

variable {known : Namespaces} {done done' : List Statement} {expecting expecting' : Expecting}
  {token : Token}

/-- What follows a resource. -/
theorem map_form_resource (part : Part) {next next' : String → Reading}
    (each : ∀ value, (next value).form = (next' value).form) :
    ((resource known part token).map next).map form =
      ((resource known part token).map next').map form := by
  cases resource known part token with
  | error cause => rfl
  | ok value => exact congrArg Except.ok (each value)

variable (same : done.map Statement.form = done'.map Statement.form)
include same

theorem form_eq (declared : Namespaces) (after : Expecting) :
    form ⟨declared, done, after⟩ = form ⟨declared, done', after⟩ := by
  rw [form, form, same]

theorem form_complete_eq (subject property : String) {object object' : Rdf.Term}
    (sameObject : object.form = object'.form) :
    form (complete ⟨known, done, expecting⟩ subject property object) =
      form (complete ⟨known, done', expecting'⟩ subject property object') := by
  simp only [form, complete, List.map_cons, Statement.form, sameObject, same]

theorem map_form_takePoint : (takePoint ⟨known, done, expecting⟩ token).map form =
    (takePoint ⟨known, done', expecting'⟩ token).map form := by
  unfold takePoint
  split
  · exact congrArg Except.ok (form_eq same _ _)
  · rfl

theorem map_form_takePredicate (subject : String) :
    (takePredicate ⟨known, done, expecting⟩ subject token).map form =
      (takePredicate ⟨known, done', expecting'⟩ subject token).map form := by
  unfold takePredicate
  split
  · exact congrArg Except.ok (form_eq same _ _)
  · exact map_form_resource _ fun value => form_eq same _ _

theorem map_form_takeObject (subject property : String) :
    (takeObject ⟨known, done, expecting⟩ subject property token).map form =
      (takeObject ⟨known, done', expecting'⟩ subject property token).map form := by
  have string : ∀ quoteCount, (takeString ⟨known, done, expecting⟩ subject property quoteCount token).map
      form = (takeString ⟨known, done', expecting'⟩ subject property quoteCount token).map form := by
    intro quoteCount
    unfold takeString
    cases stringValue quoteCount token with
    | error cause => rfl
    | ok value => exact congrArg Except.ok (form_eq same _ _)
  unfold takeObject
  split
  · exact string 1
  · exact string 3
  · exact congrArg Except.ok (form_complete_eq same _ _ rfl)
  · split
    · exact congrArg Except.ok (form_complete_eq same _ _ rfl)
    · rfl
  · exact map_form_resource _ fun value => form_complete_eq same _ _ rfl

theorem map_form_takeSeparator (subject property : String) :
    (takeSeparator ⟨known, done, expecting⟩ subject property token).map form =
      (takeSeparator ⟨known, done', expecting'⟩ subject property token).map form := by
  unfold takeSeparator
  split
  · exact congrArg Except.ok (form_eq same _ _)
  split
  · exact congrArg Except.ok (form_eq same _ _)
  · exact map_form_takePoint same

theorem map_form_takeSuffix (subject property value value' : String) :
    (takeSuffix ⟨known, done, expecting⟩ subject property value token).map form =
      (takeSuffix ⟨known, done', expecting'⟩ subject property value' token).map form := by
  unfold takeSuffix
  split
  · exact congrArg Except.ok (form_complete_eq same _ _ rfl)
  split
  · simp only [Except.map, form, Expecting.form, same]
  · refine map_form_takeSeparator ?_ _ _
    simp only [List.map_cons, Statement.form, Rdf.Term.form_plain, same]

theorem map_form_beginSentence : (beginSentence ⟨known, done, expecting⟩ token).map form =
    (beginSentence ⟨known, done', expecting'⟩ token).map form := by
  unfold beginSentence
  dsimp only
  split
  · split
    · rfl
    · exact congrArg Except.ok (form_eq same _ _)
  split
  · rfl
  split
  · exact congrArg Except.ok (form_eq same _ _)
  · exact map_form_resource _ fun value => form_eq same _ _

theorem map_form_takeNamespaceIri (pointed : Bool) (name : List Char) :
    (takeNamespaceIri ⟨known, done, expecting⟩ pointed name token).map form =
      (takeNamespaceIri ⟨known, done', expecting'⟩ pointed name token).map form := by
  unfold takeNamespaceIri
  split
  · cases iriValue token with
    | error cause => rfl
    | ok value => exact congrArg Except.ok (form_eq same _ _)
  · rfl

end Steps

/-- **A step leads to the same form**, whatever the literals before it say. -/
theorem map_form_step {reading other : Reading} (same : reading.form = other.form) (token : Token) :
    (reading.step token).map form = (other.step token).map form := by
  obtain ⟨known, done, expecting⟩ := reading
  obtain ⟨known', done', expecting'⟩ := other
  obtain ⟨rfl, same, sameExpecting⟩ := Reading.mk.inj same
  cases expecting with
  | suffix subject property value =>
    cases expecting' <;> cases sameExpecting
    exact map_form_takeSuffix same _ _ _ _
  | datatype subject property value =>
    cases expecting' <;> cases sameExpecting
    exact map_form_resource _ fun value => form_complete_eq same _ _ rfl
  | sentence =>
    cases expecting' <;> cases sameExpecting
    exact map_form_beginSentence same
  | namespaceName pointed =>
    cases expecting' <;> cases sameExpecting
    simp only [step, takeNamespaceName]
    split
    · exact congrArg Except.ok (form_eq same _ _)
    · rfl
  | namespaceIri pointed name =>
    cases expecting' <;> cases sameExpecting
    exact map_form_takeNamespaceIri same _ _
  | declarationEnd =>
    cases expecting' <;> cases sameExpecting
    exact map_form_takePoint same
  | predicate subject =>
    cases expecting' <;> cases sameExpecting
    exact map_form_takePredicate same _
  | object subject property =>
    cases expecting' <;> cases sameExpecting
    exact map_form_takeObject same _ _
  | separator subject property =>
    cases expecting' <;> cases sameExpecting
    exact map_form_takeSeparator same _ _
  | continuation subject =>
    cases expecting' <;> cases sameExpecting
    simp only [step, takeContinuation]
    split
    · exact congrArg Except.ok (form_eq same _ _)
    split
    · exact map_form_takePoint same
    · exact map_form_takePredicate same _

/-- **The same token takes readings of the same form** to readings of the same form. -/
theorem exists_step_of_form {reading other next : Reading} {token : Token}
    (same : reading.form = other.form) (step : reading.step token = .ok next) :
    ∃ next', other.step token = .ok next' ∧ next.form = next'.form := by
  have steps := map_form_step same token
  rw [step] at steps
  obtain ⟨next', took, sameNext⟩ := eq_ok_of_map steps.symm
  exact ⟨next', took, sameNext.symm⟩

/-- **One string may be read for another one.** -/
theorem exists_step_string_of_form {kind : TokenKind} {text text' : List Char} {line line' : Nat}
    (isString : kind.isString = true) {reading other next : Reading}
    (same : reading.form = other.form) (step : reading.step ⟨kind, text, line⟩ = .ok next)
    {value : String} (reads : stringValue kind.quoteCount ⟨kind, text', line'⟩ = .ok value) :
    ∃ next', other.step ⟨kind, text', line'⟩ = .ok next' ∧ next.form = next'.form := by
  obtain ⟨subject, property, _, expecting, _, rfl⟩ := exists_of_step_string isString step
  obtain ⟨known, done, expecting'⟩ := reading
  obtain ⟨known', done', expecting''⟩ := other
  obtain rfl : expecting' = .object subject property := expecting
  obtain ⟨rfl, sameDone, sameExpecting⟩ := Reading.mk.inj same
  cases expecting'' <;> cases sameExpecting
  refine ⟨⟨known, done', .suffix subject property value⟩, ?_, ?_⟩
  · cases kind <;> try cases isString
    all_goals exact congrArg (Except.map _) reads
  · rw [form, form, sameDone]
    rfl

/-- **What is missing at the end** does not depend on what literals say, and neither does what else has
been read. -/
theorem exists_finish_of_form {reading other : Reading} (same : reading.form = other.form)
    {declared : Namespaces} {told : List Statement} (finish : reading.finish = .ok (declared, told)) :
    ∃ others, other.finish = .ok (declared, others) ∧
      others.map Statement.form = told.map Statement.form := by
  have missing : ∀ expecting : Expecting, missing? expecting.form = missing? expecting := by
    intro expecting
    cases expecting <;> rfl
  obtain ⟨known, done, expecting⟩ := reading
  obtain ⟨known', done', expecting'⟩ := other
  obtain ⟨rfl, sameDone, sameExpecting⟩ := Reading.mk.inj same
  have ends : missing? expecting' = missing? expecting := by
    rw [← missing expecting', ← missing expecting, sameExpecting]
  unfold Reading.finish at finish ⊢
  dsimp only at finish ⊢
  rw [ends]
  split at finish
  · cases finish
  · cases finish
    exact ⟨done'.reverse, rfl, by rw [List.map_reverse, List.map_reverse, sameDone]⟩

end Reading

end Turtle

end HistoricalFigures
