import HistoricalFigures.Proofs.Turtle.Descent
import HistoricalFigures.Proofs.Turtle.Scanning

/-!
**Scanning and reading always move on.** Reading a document token after token comes to what the loops over
its parts come to, and each turn of them takes at least one token, as each turn of a scan takes at least one
character. So both end on every text.

* `Cursor.result`: what a document comes to from a place on.
* `result_objects`, `result_predicates`, `result_sentences`: it is what the loops come to.
* `reading_moves_on`: pieces, tokens and turns.
-/
namespace HistoricalFigures.Turtle

open Rdf (Namespaces Statement Term)

/-! ### From a place on -/

/-- What a document comes to from a place on, where something may come next. -/
def Cursor.result (cursor : Cursor) (expecting : Expecting) : Except Error (Namespaces × List Statement) :=
  (cursor.rest.foldlM Reading.step ⟨cursor.namespaces, cursor.statements, expecting⟩).bind Reading.finish

section Parts

variable (subject predicate : String) (cursor : Cursor)

theorem bind_of_ok {ε α β : Type} (value : α) (next : α → Except ε β) :
    (Except.ok value).bind next = next value := rfl

theorem result_cons (namespaces : Namespaces) (statements : List Statement) (token : Token)
    (rest : List Token) (expecting : Expecting) :
    Cursor.result ⟨namespaces, statements, token :: rest⟩ expecting =
      (Reading.step ⟨namespaces, statements, expecting⟩ token).bind fun next =>
        Cursor.result ⟨next.namespaces, next.statements, rest⟩ next.expecting := by
  rw [Cursor.result, List.foldlM_cons]
  cases Reading.step ⟨namespaces, statements, expecting⟩ token <;> rfl

theorem result_point :
    cursor.result .declarationEnd = cursor.point.bind fun next => next.result .sentence := by
  obtain ⟨namespaces, statements, rest⟩ := cursor
  cases rest with
  | nil => rfl
  | cons token later =>
    rw [result_cons]
    simp only [Reading.step, Reading.takePoint, Cursor.point, Cursor.take, bind_of_ok]
    split <;> rfl

theorem result_declaration (pointed : Bool) :
    cursor.result (.namespaceName pointed) = cursor.declaration.bind fun next =>
      next.result (if pointed then .declarationEnd else .sentence) := by
  obtain ⟨namespaces, statements, rest⟩ := cursor
  cases rest with
  | nil => rfl
  | cons token later =>
    rw [result_cons]
    simp only [Reading.step, Reading.takeNamespaceName, Cursor.declaration, Cursor.take, bind_of_ok]
    split
    · cases later with
      | nil => rfl
      | cons iri later =>
        simp only [bind_of_ok, result_cons, Reading.step, Reading.takeNamespaceIri]
        split
        · cases Reading.iriValue iri <;> rfl
        · rfl
    · rfl

theorem result_verb :
    cursor.result (.predicate subject) = cursor.verb.bind fun (predicate, next) =>
      next.result (.object subject predicate) := by
  obtain ⟨namespaces, statements, rest⟩ := cursor
  cases rest with
  | nil => rfl
  | cons token later =>
    rw [result_cons]
    simp only [Reading.step, Reading.takePredicate, Cursor.verb, Cursor.take, bind_of_ok]
    split
    · rfl
    · cases Reading.resource namespaces .predicate token <;> rfl

/-- Behind an object comes a comma, semicolons or a point. -/
theorem result_separator : cursor.result (.separator subject predicate) =
    if cursor.isAt ',' then cursor.skip.result (.object subject predicate)
    else if cursor.isAt ';' then cursor.skip.result (.continuation subject)
    else cursor.result .declarationEnd := by
  obtain ⟨namespaces, statements, rest⟩ := cursor
  cases rest with
  | nil => rfl
  | cons token later =>
    simp only [result_cons, Reading.step, Reading.takeSeparator, Cursor.isAt, List.head?_cons,
      Option.any_some]
    split
    · rfl
    split <;> rfl

/-- What follows a string is a part of the literal, or it follows the object. -/
theorem result_literal (text : String) : cursor.result (.suffix subject predicate text) =
    (cursor.literal text).bind fun (object, next) =>
      (next.add ⟨subject, predicate, object⟩).result (.separator subject predicate) := by
  obtain ⟨namespaces, statements, rest⟩ := cursor
  cases rest with
  | nil => rfl
  | cons token later =>
    rw [result_cons]
    simp only [Reading.step, Reading.takeSuffix, Cursor.literal]
    split
    · rfl
    split
    · cases later with
      | nil => rfl
      | cons datatype later =>
        simp only [bind_of_ok, result_cons, Reading.step, Cursor.skip, List.tail_cons, Cursor.take]
        cases Reading.resource namespaces .datatype datatype <;> rfl
    · rw [bind_of_ok, Cursor.add, result_cons]
      rfl

theorem result_object : cursor.result (.object subject predicate) =
    cursor.object.bind fun (object, next) =>
      (next.add ⟨subject, predicate, object⟩).result (.separator subject predicate) := by
  obtain ⟨namespaces, statements, rest⟩ := cursor
  cases rest with
  | nil => rfl
  | cons token later =>
    obtain ⟨kind, written, line⟩ := token
    rw [result_cons]
    simp only [Reading.step, Reading.takeObject, Cursor.object, Cursor.take, bind_of_ok]
    cases kind with
    | string =>
      dsimp only [Reading.takeString]
      cases Reading.stringValue 1 ⟨.string, written, line⟩ with
      | error cause => rfl
      | ok text => exact result_literal subject predicate ⟨namespaces, statements, later⟩ text
    | longString =>
      dsimp only [Reading.takeString]
      cases Reading.stringValue 3 ⟨.longString, written, line⟩ with
      | error cause => rfl
      | ok text => exact result_literal subject predicate ⟨namespaces, statements, later⟩ text
    | number => rfl
    | word =>
      simp only [List.contains_iff_mem]
      split <;> rfl
    | _ =>
      dsimp only
      cases Reading.resource namespaces .object _ <;> rfl

/-- Behind semicolons comes a predicate, or the point. -/
theorem result_continuation : cursor.result (.continuation subject) =
    if cursor.isAt ';' then cursor.skip.result (.continuation subject)
    else if cursor.isAt '.' then cursor.result .declarationEnd
    else cursor.result (.predicate subject) := by
  obtain ⟨namespaces, statements, rest⟩ := cursor
  cases rest with
  | nil => rfl
  | cons token later =>
    simp only [result_cons, Reading.step, Reading.takeContinuation, Cursor.isAt, List.head?_cons,
      Option.any_some]
    split
    · rfl
    split <;> rfl

end Parts

/-! ### What the loops come to -/

section Loops

variable (subject predicate : String) (cursor : Cursor)

/-- What comes behind the objects of a predicate. -/
def Cursor.behindObjects (cursor : Cursor) : Except Error (Namespaces × List Statement) :=
  if cursor.isAt ';' then cursor.skip.result (.continuation subject) else cursor.result .declarationEnd

/-- **Objects are read as the loop over them takes them.** -/
theorem result_objects : cursor.result (.object subject predicate) =
    ((objects subject predicate).run cursor).bind (Cursor.behindObjects subject) := by
  have statement (cursor : Cursor) : cursor.result (.object subject predicate) =
      (cursor.statement subject predicate).bind fun next => next.result (.separator subject predicate) := by
    rw [result_object, Cursor.statement]
    cases cursor.object <;> rfl
  induction cursor using (objects subject predicate).run_induction with
  | done ends =>
    rw [statement]
    rcases objectTurn_done ends with ⟨cause, taken, rfl⟩ | ⟨behind, taken, noComma, rfl⟩
    · rw [taken]
      rfl
    · rw [taken, bind_of_ok, bind_of_ok, result_separator, if_neg noComma]
      rfl
  | again goesOn later =>
    obtain ⟨behind, taken, comma, rfl⟩ := objectTurn_again goesOn
    rw [statement, taken, bind_of_ok, result_separator, if_pos comma, later]

/-- **Semicolons that stand together are read as one.** -/
theorem result_semicolons : cursor.result (.continuation subject) =
    if (semicolons.run cursor).isAt '.' then (semicolons.run cursor).result .declarationEnd
    else (semicolons.run cursor).result (.predicate subject) := by
  induction cursor using semicolons.run_induction with
  | done ends =>
    obtain ⟨others, rfl⟩ := semicolonTurn_done ends
    rw [result_continuation, if_neg others]
  | again goesOn later =>
    obtain ⟨here, rfl⟩ := semicolonTurn_again goesOn
    rw [result_continuation, if_pos here, later]

theorem behindObjects_eq (here : cursor.isAt ';') : cursor.behindObjects subject =
    if (semicolons.run cursor).isAt '.' then (semicolons.run cursor).result .declarationEnd
    else (semicolons.run cursor).result (.predicate subject) := by
  have first : semicolons.run cursor = semicolons.run cursor.skip := Loop.run_again (if_pos here)
  rw [Cursor.behindObjects, if_pos here, result_semicolons, first]

/-- **Predicates are read as the loop over them takes them.** -/
theorem result_predicates : cursor.result (.predicate subject) =
    ((predicates subject).run cursor).bind fun next => next.result .declarationEnd := by
  have taken (cursor : Cursor) : cursor.result (.predicate subject) =
      (cursor.predicate subject).bind (Cursor.behindObjects subject) := by
    rw [result_verb, Cursor.predicate]
    cases cursor.verb with
    | error cause => rfl
    | ok found => exact result_objects subject found.1 found.2
  induction cursor using (predicates subject).run_induction with
  | done ends =>
    rw [taken]
    rcases predicateTurn_done ends with ⟨cause, here, rfl⟩ |
      ⟨behind, here, ⟨none_, rfl⟩ | ⟨semicolon, point, rfl⟩⟩ <;> rw [here]
    · rfl
    · exact if_neg none_
    · rw [bind_of_ok, bind_of_ok, behindObjects_eq subject behind semicolon, if_pos point]
  | again goesOn later =>
    obtain ⟨behind, here, semicolon, noPoint, rfl⟩ := predicateTurn_again goesOn
    rw [taken, here, bind_of_ok, behindObjects_eq subject behind semicolon, if_neg noPoint, later]

/-- A declaration or the statements of a subject are read as they are taken. -/
theorem result_sentence {first : Token} (more : cursor.rest.head? = some first) :
    cursor.result .sentence = (cursor.sentence first).bind fun next => next.result .sentence := by
  obtain ⟨namespaces, statements, rest⟩ := cursor
  obtain ⟨later, rfl⟩ := List.head?_eq_some_iff.mp more
  rw [result_cons]
  simp only [Reading.step, Reading.beginSentence, Cursor.sentence, Cursor.skip, List.tail_cons]
  split
  · split
    · rfl
    · refine (result_declaration ⟨namespaces, statements, later⟩ true).trans ?_
      cases Cursor.declaration ⟨namespaces, statements, later⟩ with
      | error cause => rfl
      | ok next => exact result_point next
  split
  · rfl
  split
  · exact result_declaration ⟨namespaces, statements, later⟩ false
  · simp only [Cursor.triples, Cursor.subject, Cursor.take, bind_of_ok]
    cases Reading.resource namespaces .subject first with
    | error cause => rfl
    | ok subject =>
      refine (result_predicates subject ⟨namespaces, statements, later⟩).trans ?_
      simp only [Except.map, bind_of_ok]
      cases (predicates subject).run ⟨namespaces, statements, later⟩ with
      | error cause => rfl
      | ok next => exact result_point next

/-- **A document is read as the loop over its declarations and statements takes them.** -/
theorem result_sentences : cursor.result .sentence =
    (sentences.run cursor).map fun last => (last.namespaces, last.statements.reverse) := by
  induction cursor using sentences.run_induction with
  | done ends =>
    rcases sentenceTurn_done ends with ⟨nothing, rfl⟩ | ⟨first, cause, more, taken, rfl⟩
    · rw [Cursor.result, List.head?_eq_none_iff.mp nothing]
      rfl
    · rw [result_sentence _ more, taken]
      rfl
  | again goesOn later =>
    obtain ⟨first, more, taken⟩ := sentenceTurn_again goesOn
    rw [result_sentence _ more, taken, bind_of_ok, later]

end Loops

/-- **The statements of a document are those that the loops take**, or the fault that ends them. -/
theorem parse_eq_sentences (known : Namespaces) (text : String) :
    parse known text = (tokens text.toList).bind fun found =>
      (sentences.run ⟨known, [], found⟩).map fun last => last.statements.reverse := by
  rw [parse, read]
  cases tokens text.toList with
  | error cause => rfl
  | ok found =>
    refine (congrArg (Except.map Prod.snd) (result_sentences ⟨known, [], found⟩)).trans ?_
    rw [bind_of_ok]
    cases sentences.run ⟨known, [], found⟩ <;> rfl

/-! ### Moving on -/

/-- **Scanning and reading always move on.** No piece is empty, so a scan ends on every text, and where it
succeeds its pieces together are the text; those that are neither blanks nor comments are the tokens. Each
turn over statements, predicates and objects takes a token, so all loops end, wherever they begin, and what
a document comes to is what they come to. -/
theorem reading_moves_on (known : Namespaces) (text : String) :
    ((∀ kind piece, IsMatch kind piece → piece ≠ []) ∧
      (∀ line rest piece, pieceAt? line rest = some piece →
        IsMatch piece.kind piece.text ∧ piece.text <+: rest) ∧
      (∃ count ≤ text.toList.length + 1,
        Runs Scan.turn (.start text.toList) count (scanning.run (.start text.toList))) ∧
      tokens text.toList = (scanning.run (.start text.toList)).map (List.filterMap Piece.token?)) ∧
    (∀ pieces, scanning.run (.start text.toList) = .ok pieces →
      (pieces.map Piece.text).flatten = text.toList ∧
        ∀ token ∈ pieces.filterMap Piece.token?, ¬ IsMatch none token.text) ∧
    (∀ cursor next subject predicate,
      (sentenceTurn cursor = .again next → cursor.Consumes next) ∧
      (predicateTurn subject cursor = .again next ∨ predicateTurn subject cursor = .done (.ok next) →
        cursor.Consumes next) ∧
      (semicolonTurn cursor = .again next → cursor.Consumes next) ∧
      (objectTurn subject predicate cursor = .again next ∨
        objectTurn subject predicate cursor = .done (.ok next) → cursor.Consumes next)) ∧
    (∀ cursor subject predicate,
      (∃ count ≤ cursor.rest.length + 1, Runs sentenceTurn cursor count (sentences.run cursor)) ∧
      (∃ count ≤ cursor.rest.length + 1,
        Runs (predicateTurn subject) cursor count ((predicates subject).run cursor)) ∧
      (∃ count ≤ cursor.rest.length + 1, Runs semicolonTurn cursor count (semicolons.run cursor)) ∧
      ∃ count ≤ cursor.rest.length + 1,
        Runs (objectTurn subject predicate) cursor count ((objects subject predicate).run cursor)) ∧
    parse known text = (tokens text.toList).bind fun found =>
      (sentences.run ⟨known, [], found⟩).map fun last => last.statements.reverse := by
  refine ⟨⟨fun kind piece => IsMatch.ne_nil, fun line rest piece found => ?_,
      scanning.exists_runs (.start text.toList), scanned_tokens text.toList⟩, fun pieces scanned => ?_,
    fun cursor next subject predicate => ⟨consumes_of_sentenceTurn, consumes_of_predicateTurn,
      consumes_of_semicolonTurn, consumes_of_objectTurn⟩,
    fun cursor subject predicate => ⟨sentences.exists_runs cursor, (predicates subject).exists_runs cursor,
      semicolons.exists_runs cursor, (objects subject predicate).exists_runs cursor⟩,
    parse_eq_sentences known text⟩
  · obtain ⟨wellFormed, within⟩ := pieceAt?_spec found
    exact ⟨wellFormed.isMatch, within⟩
  · have lexed : tokens text.toList = .ok (pieces.filterMap Piece.token?) := by
      rw [scanned_tokens, scanned]
      rfl
    exact ⟨(scanned_text scanned).1, fun token member => (isMatch_of_tokens lexed token member).2⟩

end HistoricalFigures.Turtle
