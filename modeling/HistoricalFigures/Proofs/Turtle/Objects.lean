import HistoricalFigures.Proofs.Turtle.Declarations

/-!
**Reading the objects and the statements of a written document.**

* `IsReadTerm`, `HasReservedTag`: the objects that documents hold, and those among them that cannot
  be written.
* `reread`: what a written statement is read back as.
* `reads_object`, `reads_statements`: objects and statements are read back.
* `refuses_object`, `refuses_statements`: a reserved language is refused.
-/
namespace HistoricalFigures.Turtle

open Rdf (Namespaces Statement Term)

/-! ### Objects -/

/-- The objects that documents hold: resources, and literals with a datatype, with a language, or
with neither. A datatype may be empty. -/
inductive IsReadTerm : Term → Prop where
  | uri (value : String) : IsReadTerm (.uri value)
  | plain (value : String) : IsReadTerm (.plain value)
  | typed (value datatype : String) : IsReadTerm (.typed value datatype)
  | tagged (value language : String) : IsLanguageTag language.toList →
    IsReadTerm (.tagged value language)

/-- Whether the language of a term reads as the beginning of a declaration. -/
def HasReservedTag (term : Term) : Prop :=
  ∃ language ∈ term.language, IsReservedTag language.toList

instance (term : Term) : Decidable (HasReservedTag term) :=
  match found : term.language with
  | none => .isFalse fun ⟨_, member, _⟩ => by rw [found] at member; cases member
  | some language =>
    decidable_of_iff (IsReservedTag language.toList) (by simp [HasReservedTag, found])

/-- The term that is read back where a term was written: an empty datatype is left out. -/
def rereadTerm (term : Term) : Term := { term with datatype := term.datatype.filter (· ≠ "") }

/-- An object without an empty datatype is read back as it was. -/
theorem rereadTerm_eq_self {term : Term} (nonempty : term.datatype ≠ some "") :
    rereadTerm term = term := by
  obtain ⟨value, kind, datatype, language⟩ := term
  cases datatype with
  | none => rfl
  | some name =>
    have different : name ≠ "" := fun empty => nonempty (congrArg some empty)
    simp [rereadTerm, Option.filter, different]

/-- The statement that is read back where a statement was written. -/
def reread (statement : Statement) : Statement :=
  { statement with object := rereadTerm statement.object }

/-- A language is not empty. -/
theorem ne_empty_of_isLanguageTag {language : String} (grammar : IsLanguageTag language.toList) :
    language ≠ "" := by
  rintro rfl
  obtain ⟨letters, parts, whole, nonempty, _⟩ := grammar
  exact nonempty (List.append_eq_nil_iff.mp whole.symm).1

theorem step_suffix_point (declared : Namespaces) (done : List Statement)
    (subject predicate text : String) (line : Nat) :
    Reading.step ⟨declared, done, .suffix subject predicate text⟩ ⟨.punctuation, ['.'], line⟩ =
      .ok ⟨declared, ⟨subject, predicate, .plain text⟩ :: done, .sentence⟩ := rfl

theorem step_separator_point (declared : Namespaces) (done : List Statement)
    (subject predicate : String) (line : Nat) :
    Reading.step ⟨declared, done, .separator subject predicate⟩ ⟨.punctuation, ['.'], line⟩ =
      .ok ⟨declared, done, .sentence⟩ := rfl

theorem step_string (declared : Namespaces) (done : List Statement)
    (subject predicate value : String) (line : Nat) :
    Reading.step ⟨declared, done, .object subject predicate⟩
        ⟨.string, '\x22' :: value.toList.flatMap formatStringChar ++ ['\x22'], line⟩ =
      .ok ⟨declared, done, .suffix subject predicate value⟩ := by
  unfold Reading.step Reading.takeObject Reading.takeString Reading.stringValue
  have inner : (('\x22' :: value.toList.flatMap formatStringChar ++ ['\x22']).drop 1).take
      (('\x22' :: value.toList.flatMap formatStringChar ++ ['\x22']).length - 2 * 1) =
        value.toList.flatMap formatStringChar := by
    rw [List.cons_append, List.drop_one, List.tail_cons, List.length_cons, List.length_append,
      List.length_singleton]
    exact List.take_left
  simp only [inner, unescape_formatStringChars, Except.map, String.ofList_toList]

theorem reads_string (declared : Namespaces) (done : List Statement)
    (subject predicate value : String) (rest : List Char) (next : rest.head? ≠ some '\x22') :
    Reads ⟨declared, done, .object subject predicate⟩ (formatString value) rest
      ⟨declared, done, .suffix subject predicate value⟩ :=
  Reads.lexeme (isLexeme_string value.toList next) (step_string declared done subject predicate value)

theorem formatTerm_uri (namespaces : Namespaces) (value : String) :
    formatTerm namespaces (.uri value) = formatIri namespaces value := if_pos rfl

theorem formatTerm_plain (namespaces : Namespaces) (value : String) :
    formatTerm namespaces (.plain value) = formatString value := by
  simp [formatTerm, Term.plain, formatLiteral]

theorem formatTerm_typed_empty (namespaces : Namespaces) (value : String) :
    formatTerm namespaces (.typed value "") = formatString value := by
  simp [formatTerm, Term.typed, formatLiteral]

theorem formatTerm_typed (namespaces : Namespaces) (value : String) {datatype : String}
    (nonempty : datatype ≠ "") :
    formatTerm namespaces (.typed value datatype) =
      formatString value ++ (['^', '^'] ++ formatIri namespaces datatype) := by
  simp [formatTerm, Term.typed, formatLiteral, nonempty]

theorem formatTerm_tagged (namespaces : Namespaces) (value : String) {language : String}
    (nonempty : language ≠ "") :
    formatTerm namespaces (.tagged value language) =
      formatString value ++ '@' :: language.toList := by
  simp [formatTerm, Term.tagged, formatLiteral, nonempty]

/-- A string alone, with the point behind it, is a literal without datatype and language. -/
theorem reads_plain (declared : Namespaces) (done : List Statement)
    (subject predicate value : String) (rest : List Char) :
    Reads ⟨declared, done, .object subject predicate⟩
      ((formatString value ++ [' ']) ++ ['.']) rest
      ⟨declared, ⟨subject, predicate, .plain value⟩ :: done, .sentence⟩ := by
  have string := reads_string declared done subject predicate value
    (' ' :: (['.'] ++ rest)) (by simp)
  exact (string.append (Reads.blank _ (by decide) _)).append
    (Reads.lexeme (isLexeme_point rest) (step_suffix_point declared done subject predicate value))

/-- A language in small letters is not changed by making its letters small. -/
theorem map_toLower_of_isLanguageTag {tag : List Char} (language : IsLanguageTag tag) :
    tag.map Char.toLower = tag := by
  refine (List.map_congr_left fun c member => ?_).trans (List.map_id tag)
  rcases language.forall_mem c member with rfl | belongs
  · rfl
  · exact toLower_of_isTagChar belongs

/-- A string with a language that is not reserved, with the point behind it. -/
theorem reads_tagged (declared : Namespaces) (done : List Statement)
    (subject predicate value : String) {language : String}
    (grammar : IsLanguageTag language.toList) (free : ¬ IsReservedTag language.toList)
    (rest : List Char) :
    Reads ⟨declared, done, .object subject predicate⟩
      ((formatString value ++ ('@' :: language.toList ++ [' '])) ++ ['.']) rest
      ⟨declared, ⟨subject, predicate, .tagged value language⟩ :: done, .sentence⟩ := by
  have takes : ∀ line, Reading.step ⟨declared, done, .suffix subject predicate value⟩
      ⟨.language, '@' :: language.toList, line⟩ =
        .ok ⟨declared, ⟨subject, predicate, .tagged value language⟩ :: done,
          .separator subject predicate⟩ := by
    intro line
    unfold Reading.step Reading.takeSuffix
    simp only [if_true, List.drop_one, List.tail_cons, map_toLower_of_isLanguageTag grammar,
      String.ofList_toList]
    rfl
  have string := reads_string declared done subject predicate value
    (('@' :: language.toList ++ [' ']) ++ (['.'] ++ rest)) (by simp)
  exact (string.append (Reads.spaced (isLexeme_language grammar free _) takes)).append
    (Reads.lexeme (isLexeme_point rest) (step_separator_point declared _ subject predicate))

/-- **An object in a reserved language is refused**: behind its string a declaration begins. -/
theorem refuses_object (declared namespaces : Namespaces) {object : Term} (readable : IsReadTerm object)
    (reserved : HasReservedTag object) (done : List Statement) (subject predicate : String)
    (rest : List Char) :
    Refuses ⟨declared, done, .object subject predicate⟩
      (formatTerm namespaces object ++ ' ' :: rest) := by
  obtain ⟨language, member, isReserved⟩ := reserved
  cases readable with
  | uri value => cases member
  | plain value => cases member
  | typed value datatype => cases member
  | tagged value language grammar =>
    cases member
    obtain ⟨word, more, whole, isLexeme⟩ := isLexeme_reserved isReserved rest
    have string := reads_string declared done subject predicate value
      (('@' :: word) ++ (more ++ ' ' :: rest)) (by simp)
    rw [formatTerm_tagged namespaces value (ne_empty_of_isLanguageTag grammar), whole,
      List.append_assoc, List.cons_append, List.append_assoc]
    exact string.refuses (Refuses.lexeme isLexeme fun line => ⟨_, rfl, rfl⟩)

theorem formatStatement_eq (namespaces : Namespaces) (statement : Statement) :
    formatStatement namespaces statement =
      (formatIri namespaces statement.subject ++ [' ']) ++
        ((formatIri namespaces statement.predicate ++ [' ']) ++
          ((formatTerm namespaces statement.object ++ [' ']) ++ ['.', '\n'])) := by
  simp only [formatStatement, List.append_assoc, List.cons_append, List.nil_append]

section Written

variable {declared namespaces : Namespaces} (declares : Declares declared namespaces)
  (declarable : ∀ name ∈ namespaces, IsDeclarable name)
include declares declarable

theorem reads_uri (done : List Statement) (subject predicate value : String) (rest : List Char) :
    Reads ⟨declared, done, .object subject predicate⟩
      ((formatIri namespaces value ++ [' ']) ++ ['.']) rest
      ⟨declared, ⟨subject, predicate, .uri value⟩ :: done, .sentence⟩ := by
  obtain ⟨kind, isResource, isLexeme, names⟩ :=
    resource_formatIri declares declarable value (['.'] ++ rest)
  have takes : ∀ line, Reading.step ⟨declared, done, .object subject predicate⟩
      ⟨kind, formatIri namespaces value, line⟩ =
        .ok ⟨declared, ⟨subject, predicate, .uri value⟩ :: done, .separator subject predicate⟩ := by
    intro line
    have named := names .object line
    unfold Reading.step Reading.takeObject
    rcases isResource with rfl | rfl <;> simp only [named, Except.map] <;> rfl
  exact (Reads.spaced isLexeme takes).append
    (Reads.lexeme (isLexeme_point rest) (step_separator_point declared _ subject predicate))

theorem reads_typed (done : List Statement) (subject predicate value datatype : String)
    (rest : List Char) :
    Reads ⟨declared, done, .object subject predicate⟩
      ((formatString value ++ (['^', '^'] ++ (formatIri namespaces datatype ++ [' ']))) ++ ['.'])
      rest
      ⟨declared, ⟨subject, predicate, .typed value datatype⟩ :: done, .sentence⟩ := by
  obtain ⟨kind, _, isLexeme, names⟩ :=
    resource_formatIri declares declarable datatype (['.'] ++ rest)
  have takesMark : ∀ line, Reading.step ⟨declared, done, .suffix subject predicate value⟩
      ⟨.datatypeMark, ['^', '^'], line⟩ =
        .ok ⟨declared, done, .datatype subject predicate value⟩ := fun line => rfl
  have takesDatatype : ∀ line, Reading.step ⟨declared, done, .datatype subject predicate value⟩
      ⟨kind, formatIri namespaces datatype, line⟩ =
        .ok ⟨declared, ⟨subject, predicate, .typed value datatype⟩ :: done,
          .separator subject predicate⟩ := by
    intro line
    unfold Reading.step
    simp only [names .datatype line, Except.map]
    rfl
  have string := reads_string declared done subject predicate value
    ((['^', '^'] ++ (formatIri namespaces datatype ++ [' '])) ++ (['.'] ++ rest)) (by simp)
  exact (string.append ((Reads.lexeme (isLexeme_datatypeMark _) takesMark).append
    (Reads.spaced isLexeme takesDatatype))).append
      (Reads.lexeme (isLexeme_point rest) (step_separator_point declared _ subject predicate))

/-- **A written object is read back**, with the point behind it, unless its language is reserved. -/
theorem reads_object {object : Term} (readable : IsReadTerm object)
    (free : ¬ HasReservedTag object) (done : List Statement) (subject predicate : String)
    (rest : List Char) :
    Reads ⟨declared, done, .object subject predicate⟩
      ((formatTerm namespaces object ++ [' ']) ++ ['.']) rest
      ⟨declared, ⟨subject, predicate, rereadTerm object⟩ :: done, .sentence⟩ := by
  cases readable with
  | uri value => exact reads_uri declares declarable done subject predicate value rest
  | plain value =>
    rw [formatTerm_plain]
    exact reads_plain declared done subject predicate value rest
  | typed value datatype =>
    by_cases empty : datatype = ""
    · subst empty
      rw [formatTerm_typed_empty]
      exact reads_plain declared done subject predicate value rest
    · have kept : rereadTerm (.typed value datatype) = .typed value datatype :=
        rereadTerm_eq_self (by simpa [Term.typed] using empty)
      have typed := reads_typed declares declarable done subject predicate value datatype rest
      simpa only [kept, formatTerm_typed namespaces value empty, List.append_assoc] using typed
  | tagged value language grammar =>
    have tagged := reads_tagged declared done subject predicate value grammar
      (fun reserved => free ⟨language, rfl, reserved⟩) rest
    have kept : rereadTerm (.tagged value language) = .tagged value language := rfl
    rw [kept, formatTerm_tagged namespaces value (ne_empty_of_isLanguageTag grammar)]
    simpa only [List.append_assoc, List.cons_append] using tagged

theorem reads_subject (done : List Statement) (subject : String) (rest : List Char) :
    Reads ⟨declared, done, .sentence⟩ (formatIri namespaces subject ++ [' ']) rest
      ⟨declared, done, .predicate subject⟩ := by
  obtain ⟨kind, isResource, isLexeme, names⟩ :=
    resource_formatIri declares declarable subject rest
  refine Reads.spaced isLexeme fun line => ?_
  have named := names .subject line
  unfold Reading.step Reading.beginSentence
  rcases isResource with rfl | rfl <;> simp only [reduceCtorEq, false_and, if_false, named] <;> rfl

theorem reads_predicate (done : List Statement) (subject predicate : String) (rest : List Char) :
    Reads ⟨declared, done, .predicate subject⟩ (formatIri namespaces predicate ++ [' ']) rest
      ⟨declared, done, .object subject predicate⟩ := by
  obtain ⟨kind, isResource, isLexeme, names⟩ :=
    resource_formatIri declares declarable predicate rest
  refine Reads.spaced isLexeme fun line => ?_
  have named := names .predicate line
  unfold Reading.step Reading.takePredicate
  rcases isResource with rfl | rfl <;> simp only [reduceCtorEq, false_and, if_false, named] <;> rfl

/-- **A written statement is read back**, unless the language of its object is reserved. -/
theorem reads_statement {statement : Statement} (readable : IsReadTerm statement.object)
    (free : ¬ HasReservedTag statement.object) (done : List Statement) (rest : List Char) :
    Reads ⟨declared, done, .sentence⟩ (formatStatement namespaces statement) rest
      ⟨declared, reread statement :: done, .sentence⟩ := by
  rw [formatStatement_eq, show ['.', '\n'] = ['.'] ++ ['\n'] from rfl,
    ← List.append_assoc (formatTerm namespaces statement.object ++ [' '])]
  exact (reads_subject declares declarable done statement.subject _).append
    ((reads_predicate declares declarable done statement.subject statement.predicate _).append
      ((reads_object declares declarable readable free done _ _ _).append
        (Reads.blank _ (by decide) rest)))

/-- **Written statements are read back** one after the other. -/
theorem reads_statements {statements : List Statement}
    (readable : ∀ statement ∈ statements, IsReadTerm statement.object)
    (free : ∀ statement ∈ statements, ¬ HasReservedTag statement.object)
    (done : List Statement) (rest : List Char) :
    Reads ⟨declared, done, .sentence⟩ (statements.flatMap (formatStatement namespaces)) rest
      ⟨declared, (statements.map reread).reverse ++ done, .sentence⟩ := by
  induction statements generalizing done with
  | nil => exact Reads.nil _ rest
  | cons first later found =>
    obtain ⟨readableFirst, readableLater⟩ := List.forall_mem_cons.mp readable
    obtain ⟨freeFirst, freeLater⟩ := List.forall_mem_cons.mp free
    rw [List.flatMap_cons, List.map_cons, List.reverse_cons, List.append_assoc,
      List.singleton_append]
    exact (reads_statement declares declarable readableFirst freeFirst done _).append
      (found readableLater freeLater (reread first :: done))

theorem refuses_statement {statement : Statement} (readable : IsReadTerm statement.object)
    (reserved : HasReservedTag statement.object) (done : List Statement) (rest : List Char) :
    Refuses ⟨declared, done, .sentence⟩ (formatStatement namespaces statement ++ rest) := by
  have refused := (reads_subject declares declarable done statement.subject _).refuses
    ((reads_predicate declares declarable done statement.subject statement.predicate _).refuses
      (refuses_object declared namespaces readable reserved done _ _ (['.', '\n'] ++ rest)))
  simpa only [formatStatement_eq, List.append_assoc, List.cons_append, List.nil_append] using refused

/-- **Statements are refused where the language of one of them is reserved.** -/
theorem refuses_statements {statements : List Statement}
    (readable : ∀ statement ∈ statements, IsReadTerm statement.object)
    (reserved : ∃ statement ∈ statements, HasReservedTag statement.object)
    (done : List Statement) :
    Refuses ⟨declared, done, .sentence⟩ (statements.flatMap (formatStatement namespaces)) := by
  induction statements generalizing done with
  | nil =>
    obtain ⟨statement, member, _⟩ := reserved
    exact absurd member List.not_mem_nil
  | cons first later found =>
    obtain ⟨readableFirst, readableLater⟩ := List.forall_mem_cons.mp readable
    rw [List.flatMap_cons]
    -- Up to the first statement with a reserved language all are read.
    by_cases here : HasReservedTag first.object
    · exact refuses_statement declares declarable readableFirst here done _
    · obtain ⟨statement, member, isReserved⟩ := reserved
      rcases List.mem_cons.mp member with rfl | behind
      · exact absurd isReserved here
      · exact (reads_statement declares declarable readableFirst here done _).refuses
          (found readableLater ⟨statement, behind, isReserved⟩ _)

end Written

end HistoricalFigures.Turtle
