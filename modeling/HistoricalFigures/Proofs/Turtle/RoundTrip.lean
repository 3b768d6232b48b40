import HistoricalFigures.Proofs.Turtle.Objects

/-!
**What is written is read back.** Only a language that reads as the beginning of a declaration
cannot be written, and only an empty datatype is lost.

* `parse_serialize`: a document gives back the statements that it was written from.
* `parse_serialize_reserved`: a document with a reserved language does not fit the grammar.
* `formatTriple`, `parse_formatTriple`: a statement on its own is read back.
* `IsWritableTerm`: the objects that are given back as they were.
* `parse_serialize_eq_self`: statements with such objects are given back as they were.
-/
namespace HistoricalFigures.Turtle

open Rdf (Namespaces Statement Term)

theorem toList_serialize (namespaces : Namespaces) (statements : List Statement) :
    (serialize namespaces statements).toList =
      (namespaces.flatMap formatDeclaration ++ ['\n']) ++
        statements.flatMap (formatStatement namespaces) := by
  rw [serialize, String.toList_ofList, List.append_assoc, List.singleton_append]

section Written

variable (known : Namespaces) {namespaces : Namespaces} (once : namespaces.names.Nodup)
  (declarable : ∀ name ∈ namespaces, IsDeclarable name) {statements : List Statement}
  (readable : ∀ statement ∈ statements, IsReadTerm statement.object)
include declarable

/-- The declarations and the empty line of a document take a reading to its statements. -/
theorem reads_head (rest : List Char) :
    Reads ⟨known, [], .sentence⟩ (namespaces.flatMap formatDeclaration ++ ['\n']) rest
      ⟨known.putAll namespaces, [], .sentence⟩ :=
  (reads_declarations declarable known [] _).append (Reads.blank _ (by decide) rest)

include once readable

/-- **A document gives back the statements that it was written from**, without empty datatypes,
whatever namespaces are known before. -/
theorem parse_serialize
    (free : ∀ statement ∈ statements, ¬ HasReservedTag statement.object) :
    parse known (serialize namespaces statements) = .ok (statements.map reread) := by
  have declares := declares_putAll once known
  have written := (reads_head known declarable _).append
    (reads_statements declares declarable readable free [] [])
  rw [parse, read_eq_readOn, toList_serialize, written.readOn_eq, List.append_nil]
  simp only [Except.bind, Reading.finish, Reading.missing?, List.reverse_reverse, Except.map]

/-- **A document with a reserved language does not fit the grammar.** -/
theorem parse_serialize_reserved
    (reserved : ∃ statement ∈ statements, HasReservedTag statement.object) :
    ∃ cause, parse known (serialize namespaces statements) = .error cause ∧
      cause.isGrammar = true := by
  have declares := declares_putAll once known
  have refused := (reads_head known declarable _).refuses
    (refuses_statements declares declarable readable reserved [])
  obtain ⟨cause, fault, grammar⟩ := refused 1
  refine ⟨cause, ?_, grammar⟩
  rw [parse, read_eq_readOn, toList_serialize, fault]
  rfl

end Written

/-! ### A statement on its own -/

/-- A statement on its own with its point; its subject stands between angle brackets. -/
def formatTriple (namespaces : Namespaces) (statement : Statement) : List Char :=
  (formatIri [] statement.subject ++ [' ']) ++
    ((formatIri namespaces statement.predicate ++ [' ']) ++
      ((formatTerm namespaces statement.object ++ [' ']) ++ ['.']))

/-- **A statement on its own is read back** where its namespaces are known. -/
theorem parse_formatTriple {declared namespaces : Namespaces}
    (declares : Declares declared namespaces)
    (declarable : ∀ name ∈ namespaces, IsDeclarable name) {statement : Statement}
    (readable : IsReadTerm statement.object) (free : ¬ HasReservedTag statement.object) :
    parse declared (String.ofList (formatTriple namespaces statement)) = .ok [reread statement] := by
  have nothing : Declares declared [] := fun _ absent => nomatch absent
  have subject := reads_subject nothing (fun _ absent => nomatch absent) [] statement.subject
  have whole := (subject _).append
    ((reads_predicate declares declarable [] statement.subject statement.predicate _).append
      (reads_object declares declarable readable free [] _ _ []))
  rw [parse, read_eq_readOn, String.toList_ofList, formatTriple, whole.readOn_eq]
  rfl

/-! ### Statements that stay as they are -/

/-- The objects that are given back as they were: resources, and literals with a datatype, with a
language that is not reserved, or with neither. -/
inductive IsWritableTerm : Term → Prop where
  | uri (value : String) : IsWritableTerm (.uri value)
  | plain (value : String) : IsWritableTerm (.plain value)
  | typed (value datatype : String) : datatype ≠ "" → IsWritableTerm (.typed value datatype)
  | tagged (value language : String) : IsLanguageTag language.toList →
    ¬ IsReservedTag language.toList → IsWritableTerm (.tagged value language)

namespace IsWritableTerm

variable {term : Term}

/-- A document can hold the object. -/
theorem isReadTerm (writable : IsWritableTerm term) : IsReadTerm term := by
  cases writable with
  | uri value => exact .uri value
  | plain value => exact .plain value
  | typed value datatype _ => exact .typed value datatype
  | tagged value language grammar _ => exact .tagged value language grammar

theorem not_hasReservedTag (writable : IsWritableTerm term) : ¬ HasReservedTag term := by
  rintro ⟨language, member, reserved⟩
  cases writable with
  | uri value => cases member
  | plain value => cases member
  | typed value datatype _ => cases member
  | tagged value language' _ free =>
    cases member
    exact free reserved

theorem datatype_ne (writable : IsWritableTerm term) : term.datatype ≠ some "" := by
  cases writable with
  | uri value => simp [Term.uri]
  | plain value => simp [Term.plain]
  | typed value datatype nonempty => simpa [Term.typed] using nonempty
  | tagged value language _ _ => simp [Term.tagged]

end IsWritableTerm

/-- **Statements whose objects can be written are given back as they were**, in their order and as
often, whatever namespaces are known before. -/
theorem parse_serialize_eq_self (known : Namespaces) {namespaces : Namespaces}
    (once : namespaces.names.Nodup) (declarable : ∀ name ∈ namespaces, IsDeclarable name)
    {statements : List Statement}
    (writable : ∀ statement ∈ statements, IsWritableTerm statement.object) :
    parse known (serialize namespaces statements) = .ok statements := by
  have same : ∀ statement ∈ statements, reread statement = statement := fun statement member => by
    rw [reread, rereadTerm_eq_self (writable statement member).datatype_ne]
  rw [parse_serialize known once declarable
      (fun statement member => (writable statement member).isReadTerm)
      (fun statement member => (writable statement member).not_hasReservedTag),
    List.map_congr_left same, List.map_id']

/-- Quotes, line breaks and escapes that are no escapes, an empty text, names that begin like
numbers or that a namespace cuts, and a language with parts. -/
theorem parse_serialize_eq_self_of_mixed :
    let namespaces : Namespaces := [("", "http://e/"), ("a.b-1", "http://e/x#")]
    let statements : List Statement :=
      [⟨"", "http://e/true", .plain ""⟩,
        ⟨"http://e/x#1", "\\u0041 <\x22>", .plain "\x22\n\r\t\\u0041\x22"⟩,
        ⟨"http://e/x#_1-", "a b\n", .typed "\\" "http://e/x#prefix"⟩,
        ⟨"", "http://e/true", .plain ""⟩,
        ⟨"http://e/", "http://e/.", .tagged "@base" "es-419"⟩,
        ⟨"http://e/x", "\u2028", .uri "http://e/x#\u00e9"⟩]
    parse [("", "http://other/")] (serialize namespaces statements) = .ok statements := by
  have first : IsDeclarable ("", "http://e/") := ⟨.inl rfl, List.all_eq_true.mp (by decide +kernel)⟩
  have second : IsDeclarable ("a.b-1", "http://e/x#") := by
    have later : IsDotted '.' isNameChar ['b', '-', '1'] :=
      isDotted_of_forall (List.all_eq_true.mp (by decide +kernel))
    exact ⟨.inr ⟨'a', ['.', 'b', '-', '1'], rfl, by decide, .separator 'b' _ (by decide) later⟩,
      List.all_eq_true.mp (by decide +kernel)⟩
  have language : IsLanguageTag "es-419".toList :=
    ⟨['e', 's'], ['-', '4', '1', '9'], rfl, by decide, List.all_eq_true.mp (by decide), .inr rfl,
      .separator '4' _ (by decide) (isDotted_of_forall (List.all_eq_true.mp (by decide)))⟩
  refine parse_serialize_eq_self _ (by decide) ?_ ?_
  · simpa only [List.forall_mem_cons, List.not_mem_nil, false_imp_iff, implies_true, and_true]
      using ⟨first, second⟩
  · simp only [List.forall_mem_cons]
    exact ⟨.plain _, .plain _, .typed _ _ (by decide), .plain _,
      .tagged _ _ language (by decide), .uri _, fun _ member => absurd member List.not_mem_nil⟩

end HistoricalFigures.Turtle
