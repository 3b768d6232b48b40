import HistoricalFigures.Proofs.Loop
import HistoricalFigures.Proofs.Outcome
import HistoricalFigures.Turtle.Reading

/-!
**Reading a document part by part.** A cursor moves over the tokens: each part of the grammar takes what
belongs to it, and loops go over the objects of a predicate, the predicates of a subject and the
declarations and statements of a document.

* `Cursor`: a place among the tokens.
* `Cursor.object`, `Cursor.verb`, `Cursor.subject`, `Cursor.declaration`: what is taken for a part.
* `objects`, `semicolons`, `predicates`, `sentences`: the loops.
* `Cursor.Consumes`: the places that at least one token lies in front of.
* `consumes_of_objectTurn`, `consumes_of_semicolonTurn`, `consumes_of_predicateTurn`,
  `consumes_of_sentenceTurn`: each turn moves on.
-/
namespace HistoricalFigures.Turtle

open Rdf (Namespaces Statement Term)

/-! ### What is taken for a part -/

/-- A place among the tokens of a document: the namespaces that are declared there, the statements in front
of it, the last one first, and the tokens behind it. -/
structure Cursor where
  namespaces : Namespaces
  statements : List Statement
  rest : List Token

namespace Cursor

/-- The next token, where a part has to come. -/
def take (expected : Part) (cursor : Cursor) : Except Error (Token × Cursor) :=
  match cursor.rest with
  | [] => .error (.endOfDocument expected)
  | token :: rest => .ok (token, { cursor with rest })

/-- Whether the next token is a point, a comma or a semicolon. -/
def isAt (mark : Char) (cursor : Cursor) : Bool :=
  cursor.rest.head?.any fun token => Reading.isMark token mark

/-- The place behind the next token. -/
def skip (cursor : Cursor) : Cursor := { cursor with rest := cursor.rest.tail }

/-- The place behind one more statement. -/
def add (cursor : Cursor) (statement : Statement) : Cursor :=
  { cursor with statements := statement :: cursor.statements }

/-- The place behind a point that has to come. -/
def point (cursor : Cursor) : Except Error Cursor :=
  (cursor.take .point).bind fun (token, behind) =>
    if Reading.isMark token '.' then .ok behind else .error (Reading.refuse token .point)

/-- The place behind the name of a namespace and the namespace. -/
def declaration (cursor : Cursor) : Except Error Cursor :=
  (cursor.take .namespaceName).bind fun (token, behind) =>
    let name := token.text.takeWhile (· ≠ ':')
    if token.kind = .name ∧ token.text = name ++ [':'] then
      (behind.take .namespaceIri).bind fun (token, behind) =>
        if token.kind = .iri then
          (Reading.iriValue token).map fun base =>
            { behind with namespaces := behind.namespaces.put (String.ofList name) base }
        else .error (Reading.refuse token .namespaceIri)
    else .error (Reading.refuse token .namespaceName)

/-- A subject. -/
def subject (cursor : Cursor) : Except Error (String × Cursor) :=
  (cursor.take .subject).bind fun (token, behind) =>
    (Reading.resource behind.namespaces .subject token).map fun subject => (subject, behind)

/-- A predicate. -/
def verb (cursor : Cursor) : Except Error (String × Cursor) :=
  (cursor.take .predicate).bind fun (token, behind) =>
    if token.kind = .word ∧ token.text = ['a'] then .ok (Rdf.typePredicate, behind)
    else (Reading.resource behind.namespaces .predicate token).map fun predicate => (predicate, behind)

/-- The literal of a text, with the language or the datatype that follows. -/
def literal (text : String) (cursor : Cursor) : Except Error (Term × Cursor) :=
  match cursor.rest with
  | [] => .ok (.plain text, cursor)
  | token :: _ =>
    if token.kind = .language then
      .ok (.tagged text (String.ofList ((token.text.drop 1).map Char.toLower)), cursor.skip)
    else if token.kind = .datatypeMark then
      (cursor.skip.take .datatype).bind fun (token, behind) =>
        (Reading.resource behind.namespaces .datatype token).map fun datatype =>
          (.typed text datatype, behind)
    else .ok (.plain text, cursor)

/-- An object. -/
def object (cursor : Cursor) : Except Error (Term × Cursor) :=
  (cursor.take .object).bind fun (token, behind) =>
    match token.kind with
    | .string => (Reading.stringValue 1 token).bind fun text => behind.literal text
    | .longString => (Reading.stringValue 3 token).bind fun text => behind.literal text
    | .number => .ok (.typed (String.ofList token.text) (Reading.numberDatatype token.text), behind)
    | .word =>
      if Reading.truthWords.contains token.text then
        .ok (.typed (String.ofList token.text) Rdf.booleanDatatype, behind)
      else .error (Reading.refuse token .object)
    | _ => (Reading.resource behind.namespaces .object token).map fun value => (.uri value, behind)

/-! ### How far the parts reach -/

/-- At least one token lies between a place and another behind it. -/
def Consumes (cursor next : Cursor) : Prop := ∃ taken, taken ≠ [] ∧ cursor.rest = taken ++ next.rest

variable {cursor middle next : Cursor}

theorem Consumes.append (first : cursor.Consumes middle) (later : next.rest <:+ middle.rest) :
    cursor.Consumes next := by
  obtain ⟨taken, more, same⟩ := first
  obtain ⟨others, rest⟩ := later
  exact ⟨taken ++ others, List.append_ne_nil_of_left_ne_nil more others,
    by rw [same, ← rest, List.append_assoc]⟩

theorem Consumes.suffix (consumes : cursor.Consumes next) : next.rest <:+ cursor.rest := by
  obtain ⟨taken, _, same⟩ := consumes
  exact ⟨taken, same.symm⟩

theorem Consumes.length_lt (consumes : cursor.Consumes next) :
    next.rest.length < cursor.rest.length := by
  obtain ⟨taken, more, same⟩ := consumes
  have positive := List.length_pos_iff.mpr more
  rw [same, List.length_append]
  omega

theorem consumes_of_take {expected : Part} {token : Token}
    (takes : cursor.take expected = .ok (token, next)) : cursor.Consumes next := by
  obtain ⟨namespaces, statements, rest⟩ := cursor
  cases rest with
  | nil => cases takes
  | cons first later =>
    cases takes
    exact ⟨[token], List.cons_ne_nil _ _, rfl⟩

theorem consumes_skip {mark : Char} (isAt : cursor.isAt mark = true) : cursor.Consumes cursor.skip := by
  obtain ⟨namespaces, statements, rest⟩ := cursor
  cases rest with
  | nil => cases isAt
  | cons first later => exact ⟨[first], List.cons_ne_nil _ _, rfl⟩

theorem skip_suffix (cursor : Cursor) : cursor.skip.rest <:+ cursor.rest :=
  List.tail_suffix cursor.rest

theorem consumes_of_point (takes : cursor.point = .ok next) : cursor.Consumes next := by
  obtain ⟨⟨token, behind⟩, first, takes⟩ := eq_ok_of_bind takes
  dsimp only at takes
  split at takes <;> cases takes
  exact consumes_of_take first

theorem consumes_of_declaration (takes : cursor.declaration = .ok next) : cursor.Consumes next := by
  obtain ⟨⟨token, behind⟩, first, takes⟩ := eq_ok_of_bind takes
  dsimp only at takes
  split at takes
  · obtain ⟨⟨iri, further⟩, second, takes⟩ := eq_ok_of_bind takes
    dsimp only at takes
    split at takes
    · obtain ⟨base, _, rfl⟩ := eq_ok_of_map takes
      exact (consumes_of_take first).append (consumes_of_take second).suffix
    · cases takes
  · cases takes

theorem consumes_of_subject {subject : String} (takes : cursor.subject = .ok (subject, next)) :
    cursor.Consumes next := by
  obtain ⟨⟨token, behind⟩, first, takes⟩ := eq_ok_of_bind takes
  obtain ⟨value, _, same⟩ := eq_ok_of_map takes
  cases same
  exact consumes_of_take first

theorem consumes_of_verb {predicate : String} (takes : cursor.verb = .ok (predicate, next)) :
    cursor.Consumes next := by
  obtain ⟨⟨token, behind⟩, first, takes⟩ := eq_ok_of_bind takes
  dsimp only at takes
  split at takes
  · cases takes
    exact consumes_of_take first
  · obtain ⟨value, _, same⟩ := eq_ok_of_map takes
    cases same
    exact consumes_of_take first

/-- What a string takes beyond itself may be nothing. -/
theorem suffix_of_literal {text : String} {object : Term}
    (takes : cursor.literal text = .ok (object, next)) : next.rest <:+ cursor.rest := by
  unfold literal at takes
  split at takes
  · cases takes
    exact List.suffix_refl _
  split at takes
  · cases takes
    exact cursor.skip_suffix
  split at takes
  · obtain ⟨⟨token, behind⟩, second, takes⟩ := eq_ok_of_bind takes
    obtain ⟨value, _, same⟩ := eq_ok_of_map takes
    cases same
    exact (consumes_of_take second).suffix.trans cursor.skip_suffix
  · cases takes
    exact List.suffix_refl _

theorem consumes_of_object {object : Term} (takes : cursor.object = .ok (object, next)) :
    cursor.Consumes next := by
  obtain ⟨⟨token, behind⟩, first, takes⟩ := eq_ok_of_bind takes
  have one := consumes_of_take first
  dsimp only at takes
  split at takes
  · obtain ⟨text, _, takes⟩ := eq_ok_of_bind takes
    exact one.append (suffix_of_literal takes)
  · obtain ⟨text, _, takes⟩ := eq_ok_of_bind takes
    exact one.append (suffix_of_literal takes)
  · cases takes
    exact one
  · split at takes <;> cases takes
    exact one
  · obtain ⟨value, _, same⟩ := eq_ok_of_map takes
    cases same
    exact one

end Cursor

/-! ### The objects of a predicate -/

section Objects

variable {subject predicate : String} {cursor next : Cursor} {outcome : Except Error Cursor}

/-- The place behind an object, with its statement. -/
def Cursor.statement (subject predicate : String) (cursor : Cursor) : Except Error Cursor :=
  cursor.object.map fun (object, behind) => behind.add ⟨subject, predicate, object⟩

theorem consumes_of_statement (takes : cursor.statement subject predicate = .ok next) :
    cursor.Consumes next := by
  obtain ⟨⟨object, behind⟩, taken, rfl⟩ := eq_ok_of_map takes
  have consumes : cursor.Consumes behind := Cursor.consumes_of_object taken
  exact consumes

/-- One turn over the objects: an object, and one more behind a comma. -/
def objectTurn (subject predicate : String) (cursor : Cursor) : Turn Cursor (Except Error Cursor) :=
  match cursor.statement subject predicate with
  | .error cause => .done (.error cause)
  | .ok behind => if behind.isAt ',' then .again behind.skip else .done (.ok behind)

theorem objectTurn_again (turn : objectTurn subject predicate cursor = .again next) :
    ∃ behind, cursor.statement subject predicate = .ok behind ∧ behind.isAt ',' ∧ next = behind.skip := by
  unfold objectTurn at turn
  split at turn
  · cases turn
  · split at turn <;> cases turn
    exact ⟨_, ‹_›, ‹_›, rfl⟩

theorem objectTurn_done (turn : objectTurn subject predicate cursor = .done outcome) :
    (∃ cause, cursor.statement subject predicate = .error cause ∧ outcome = .error cause) ∨
      ∃ behind, cursor.statement subject predicate = .ok behind ∧ ¬ behind.isAt ',' ∧
        outcome = .ok behind := by
  unfold objectTurn at turn
  split at turn
  · cases turn
    exact .inl ⟨_, ‹_›, rfl⟩
  · split at turn <;> cases turn
    exact .inr ⟨_, ‹_›, ‹_›, rfl⟩

/-- **Each turn over the objects takes a token**, whether or not one more follows. -/
theorem consumes_of_objectTurn (turn : objectTurn subject predicate cursor = .again next ∨
    objectTurn subject predicate cursor = .done (.ok next)) : cursor.Consumes next := by
  rcases turn with turn | turn
  · obtain ⟨behind, taken, _, rfl⟩ := objectTurn_again turn
    exact (consumes_of_statement taken).append behind.skip_suffix
  · rcases objectTurn_done turn with ⟨_, _, same⟩ | ⟨behind, taken, _, same⟩ <;> cases same
    exact consumes_of_statement taken

/-- **The objects of a predicate.** -/
def objects (subject predicate : String) : Loop Cursor (Except Error Cursor) where
  turn := objectTurn subject predicate
  size cursor := cursor.rest.length
  shrinks turn := (consumes_of_objectTurn (.inl turn)).length_lt

theorem consumes_of_objects (cursor : Cursor) :
    ∀ next, (objects subject predicate).run cursor = .ok next → cursor.Consumes next := by
  induction cursor using (objects subject predicate).run_induction with
  | done ends =>
    rintro next rfl
    exact consumes_of_objectTurn (.inr ends)
  | again goesOn later =>
    intro next ends
    exact (consumes_of_objectTurn (.inl goesOn)).append (later next ends).suffix

end Objects

/-! ### The predicates of a subject -/

section Predicates

variable {subject : String} {cursor next : Cursor} {outcome : Except Error Cursor}

/-- One turn over semicolons that stand together. -/
def semicolonTurn (cursor : Cursor) : Turn Cursor Cursor :=
  if cursor.isAt ';' then .again cursor.skip else .done cursor

theorem semicolonTurn_again (turn : semicolonTurn cursor = .again next) :
    cursor.isAt ';' ∧ next = cursor.skip := by
  unfold semicolonTurn at turn
  split at turn <;> cases turn
  exact ⟨‹_›, rfl⟩

theorem semicolonTurn_done (turn : semicolonTurn cursor = .done next) :
    ¬ cursor.isAt ';' ∧ next = cursor := by
  unfold semicolonTurn at turn
  split at turn <;> cases turn
  exact ⟨‹_›, rfl⟩

/-- **Each turn over semicolons that goes on takes one.** -/
theorem consumes_of_semicolonTurn (turn : semicolonTurn cursor = .again next) :
    cursor.Consumes next := by
  obtain ⟨here, rfl⟩ := semicolonTurn_again turn
  exact Cursor.consumes_skip here

/-- **The semicolons that stand together.** -/
def semicolons : Loop Cursor Cursor where
  turn := semicolonTurn
  size cursor := cursor.rest.length
  shrinks turn := (consumes_of_semicolonTurn turn).length_lt

theorem semicolons_suffix (cursor : Cursor) : (semicolons.run cursor).rest <:+ cursor.rest := by
  induction cursor using semicolons.run_induction with
  | done ends =>
    obtain ⟨_, rfl⟩ := semicolonTurn_done ends
    exact List.suffix_refl _
  | again goesOn later => exact later.trans (consumes_of_semicolonTurn goesOn).suffix

/-- The place behind a predicate and its objects. -/
def Cursor.predicate (subject : String) (cursor : Cursor) : Except Error Cursor :=
  cursor.verb.bind fun (predicate, behind) => (objects subject predicate).run behind

theorem consumes_of_predicate (takes : cursor.predicate subject = .ok next) : cursor.Consumes next := by
  obtain ⟨⟨predicate, behind⟩, first, takes⟩ := eq_ok_of_bind takes
  exact (Cursor.consumes_of_verb first).append (consumes_of_objects behind next takes).suffix

/-- One turn over the predicates: a predicate with its objects, and one more behind semicolons unless a
point follows them. -/
def predicateTurn (subject : String) (cursor : Cursor) : Turn Cursor (Except Error Cursor) :=
  match cursor.predicate subject with
  | .error cause => .done (.error cause)
  | .ok behind =>
    let further := semicolons.run behind
    if behind.isAt ';' then if further.isAt '.' then .done (.ok further) else .again further
    else .done (.ok behind)

theorem predicateTurn_again (turn : predicateTurn subject cursor = .again next) :
    ∃ behind, cursor.predicate subject = .ok behind ∧ behind.isAt ';' ∧
      ¬ (semicolons.run behind).isAt '.' ∧ next = semicolons.run behind := by
  unfold predicateTurn at turn
  split at turn
  · cases turn
  · dsimp only at turn
    split at turn
    · split at turn <;> cases turn
      exact ⟨_, ‹_›, ‹_›, ‹_›, rfl⟩
    · cases turn

theorem predicateTurn_done (turn : predicateTurn subject cursor = .done outcome) :
    (∃ cause, cursor.predicate subject = .error cause ∧ outcome = .error cause) ∨
      ∃ behind, cursor.predicate subject = .ok behind ∧
        (¬ behind.isAt ';' ∧ outcome = .ok behind ∨
          behind.isAt ';' ∧ (semicolons.run behind).isAt '.' ∧ outcome = .ok (semicolons.run behind)) := by
  unfold predicateTurn at turn
  split at turn
  · cases turn
    exact .inl ⟨_, ‹_›, rfl⟩
  · dsimp only at turn
    split at turn
    · split at turn <;> cases turn
      exact .inr ⟨_, ‹_›, .inr ⟨‹_›, ‹_›, rfl⟩⟩
    · cases turn
      exact .inr ⟨_, ‹_›, .inl ⟨‹_›, rfl⟩⟩

/-- **Each turn over the predicates takes a token**, whether or not one more follows. -/
theorem consumes_of_predicateTurn (turn : predicateTurn subject cursor = .again next ∨
    predicateTurn subject cursor = .done (.ok next)) : cursor.Consumes next := by
  rcases turn with turn | turn
  · obtain ⟨behind, taken, _, _, rfl⟩ := predicateTurn_again turn
    exact (consumes_of_predicate taken).append (semicolons_suffix behind)
  · rcases predicateTurn_done turn with ⟨_, _, same⟩ | ⟨behind, taken, ⟨_, same⟩ | ⟨_, _, same⟩⟩ <;>
      cases same
    · exact consumes_of_predicate taken
    · exact (consumes_of_predicate taken).append (semicolons_suffix behind)

/-- **The predicates of a subject.** -/
def predicates (subject : String) : Loop Cursor (Except Error Cursor) where
  turn := predicateTurn subject
  size cursor := cursor.rest.length
  shrinks turn := (consumes_of_predicateTurn (.inl turn)).length_lt

theorem consumes_of_predicates (cursor : Cursor) :
    ∀ next, (predicates subject).run cursor = .ok next → cursor.Consumes next := by
  induction cursor using (predicates subject).run_induction with
  | done ends =>
    rintro next rfl
    exact consumes_of_predicateTurn (.inr ends)
  | again goesOn later =>
    intro next ends
    exact (consumes_of_predicateTurn (.inl goesOn)).append (later next ends).suffix

end Predicates

/-! ### The declarations and statements of a document -/

section Sentences

variable {cursor next : Cursor} {outcome : Except Error Cursor}

/-- The place behind the statements of a subject and their point. -/
def Cursor.triples (cursor : Cursor) : Except Error Cursor :=
  cursor.subject.bind fun (subject, behind) => ((predicates subject).run behind).bind Cursor.point

/-- The place behind a declaration, or behind the statements of a subject. Its first token tells which of
them it is. -/
def Cursor.sentence (cursor : Cursor) (first : Token) : Except Error Cursor :=
  let word := String.ofList (Unicode.uppercase first.text)
  if first.kind = .directive then
    if first.text = "@base".toList then .error (.base "@base" first.line)
    else cursor.skip.declaration.bind Cursor.point
  else if first.kind = .word ∧ word = "BASE" then .error (.base "BASE" first.line)
  else if first.kind = .word ∧ word = "PREFIX" then cursor.skip.declaration
  else cursor.triples

theorem consumes_of_sentence {first : Token} (takes : cursor.sentence first = .ok next) :
    cursor.Consumes next := by
  have skips {mark : Cursor} (consumes : cursor.skip.Consumes mark) : cursor.Consumes mark := by
    obtain ⟨taken, more, same⟩ := consumes
    obtain ⟨before, whole⟩ := cursor.skip_suffix
    exact ⟨before ++ taken, List.append_ne_nil_of_right_ne_nil before more,
      by rw [← whole, same, List.append_assoc]⟩
  unfold Cursor.sentence at takes
  dsimp only at takes
  split at takes
  · split at takes
    · cases takes
    · obtain ⟨behind, declared, takes⟩ := eq_ok_of_bind takes
      exact (skips (Cursor.consumes_of_declaration declared)).append (Cursor.consumes_of_point takes).suffix
  split at takes
  · cases takes
  split at takes
  · exact skips (Cursor.consumes_of_declaration takes)
  · obtain ⟨⟨subject, behind⟩, first, takes⟩ := eq_ok_of_bind takes
    obtain ⟨further, goesOn, takes⟩ := eq_ok_of_bind takes
    have others := (consumes_of_predicates behind further goesOn).append
      (Cursor.consumes_of_point takes).suffix
    exact (Cursor.consumes_of_subject first).append others.suffix

/-- One turn over a document: a declaration or the statements of a subject, unless it ends. -/
def sentenceTurn (cursor : Cursor) : Turn Cursor (Except Error Cursor) :=
  match cursor.rest.head? with
  | none => .done (.ok cursor)
  | some first =>
    match cursor.sentence first with
    | .error cause => .done (.error cause)
    | .ok next => .again next

theorem sentenceTurn_again (turn : sentenceTurn cursor = .again next) :
    ∃ first, cursor.rest.head? = some first ∧ cursor.sentence first = .ok next := by
  unfold sentenceTurn at turn
  split at turn
  · cases turn
  · split at turn <;> cases turn
    exact ⟨_, ‹_›, ‹_›⟩

theorem sentenceTurn_done (turn : sentenceTurn cursor = .done outcome) :
    cursor.rest.head? = none ∧ outcome = .ok cursor ∨
      ∃ first cause, cursor.rest.head? = some first ∧ cursor.sentence first = .error cause ∧
        outcome = .error cause := by
  unfold sentenceTurn at turn
  split at turn
  · cases turn
    exact .inl ⟨‹_›, rfl⟩
  · split at turn <;> cases turn
    exact .inr ⟨_, _, ‹_›, ‹_›, rfl⟩

/-- **Each turn over a document that goes on takes a token.** -/
theorem consumes_of_sentenceTurn (turn : sentenceTurn cursor = .again next) : cursor.Consumes next := by
  obtain ⟨first, _, taken⟩ := sentenceTurn_again turn
  exact consumes_of_sentence taken

/-- **The declarations and statements of a document.** -/
def sentences : Loop Cursor (Except Error Cursor) where
  turn := sentenceTurn
  size cursor := cursor.rest.length
  shrinks turn := (consumes_of_sentenceTurn turn).length_lt

end Sentences

end HistoricalFigures.Turtle
