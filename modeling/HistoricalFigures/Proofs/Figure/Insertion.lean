import HistoricalFigures.Proofs.Figure.Entity
import HistoricalFigures.Proofs.Figure.QueryText
import HistoricalFigures.Proofs.Query.Namespaces
import HistoricalFigures.Proofs.Query.Triples
import HistoricalFigures.Proofs.Text.Runs

/-!
**The query that inserts an entity adds exactly what the entity says.** Every text of it stays within
its quotes, whatever it holds.

* `toList_insertQuery`: the query around triples is an insertion of a block of lines.
* `parse_insertQuery`: it is read as those triples.
* `readTriple_formatTriple`: each of them is read as its statement.
* `insertTriples_of_entity`: what the query of an entity adds.
-/
namespace HistoricalFigures.Figure

open Query (Blanks Declaration Insertion IsTripleLine)
open Rdf (Namespaces Statement Store)
open Text (toList_of_eq)

/-! ### The query around triples -/

/-- The declaration of a namespace without escapes. -/
def declarationOf (name : String × String) (declarable : Turtle.IsDeclarable name)
    (behind : Blanks) : Declaration where
  word := ['P', 'R', 'E', 'F', 'I', 'X']
  gap := .of [' '] rfl
  name := name.1.toList
  space := .of [' '] rfl
  raw := name.2.toList
  iri := name.2.toList
  behind := behind
  isWord := by decide
  hasGap := List.cons_ne_nil _ _
  isName := declarable.1
  closes := by
    have reaches := Turtle.iriExtent?_formatIriChars name.2.toList []
    rwa [Turtle.formatIriChars_eq_self declarable.2] at reaches
  resolves := Turtle.unescape_eq_self .refused fun escaped =>
    absurd (declarable.2 '\\' escaped) (by decide)

/-- The insertion of lines, as the query is written. -/
def insertionOf (lines : List (List Char)) : Insertion where
  lead := .of [] rfl
  prologue := [
    declarationOf ("rdf", Rdf.rdfNamespace)
      (Turtle.isDeclarable_defaultNamespaces _ List.mem_cons_self) (.of ['\n'] rfl),
    declarationOf ("phb", Rdf.ontologyNamespace)
      (Turtle.isDeclarable_defaultNamespaces _ (List.mem_cons_of_mem _ List.mem_cons_self))
      (.of ['\n', '\n'] rfl)]
  phrase := ['I', 'N', 'S', 'E', 'R', 'T', ' ', 'D', 'A', 'T', 'A']
  space := .of [' '] rfl
  block := lines.flatMap (['\n', ' ', ' '] ++ ·) ++ ['\n']
  trail := .of [] rfl
  isPhrase := by decide

theorem block_insertionOf (lines : List (List Char)) :
    (insertionOf lines).block = lines.flatMap (['\n', ' ', ' '] ++ ·) ++ ['\n'] := rfl

theorem flatMap_append_eq_intercalate (gap : List Char) {lines : List (List Char)}
    (nonempty : lines ≠ []) : lines.flatMap (gap ++ ·) = gap ++ gap.intercalate lines := by
  obtain ⟨line, later, rfl⟩ := List.exists_cons_of_ne_nil nonempty
  rw [Text.intercalate_cons, List.flatMap_cons, List.append_assoc]

/-- **The query around triples is an insertion of a block of lines.** -/
theorem toList_insertQuery {triples : List String} (nonempty : triples ≠ []) :
    (insertQuery triples).toList = (insertionOf (triples.map String.toList)).text := by
  have someLine : triples.map String.toList ≠ [] := by simpa using nonempty
  have block := flatMap_append_eq_intercalate ['\n', ' ', ' '] someLine
  unfold insertQuery declarations
  simp only [Insertion.text, Insertion.core, Insertion.braced, insertionOf]
  rw [block]
  simp only [declarationOf, Declaration.text, Declaration.core, String.toList_append, toList_lines,
    String.toList_intercalate, List.flatMap_cons, List.flatMap_nil, Rdf.rdfNamespace,
    Rdf.ontologyNamespace, List.append_assoc, List.cons_append, List.nil_append, List.append_nil]
  rw [toList_of_eq rfl, toList_of_eq rfl, toList_of_eq rfl, toList_of_eq rfl, toList_of_eq rfl,
    toList_of_eq rfl, toList_of_eq rfl, toList_of_eq rfl, toList_of_eq rfl, toList_of_eq rfl,
    toList_of_eq rfl]
  rfl

/-- **The query around triples is read as those triples.** -/
theorem parse_insertQuery {triples : List String} (nonempty : triples ≠ [])
    (each : ∀ triple ∈ triples, IsTripleLine triple.toList) :
    ∃ query, Query.parse (insertQuery triples) = .ok query ∧
      query.namespaces =
        Query.declaredNamespaces (Unicode.trim (insertQuery triples).toList) ∧
      query.body = .insert triples := by
  have parsed := (insertionOf (triples.map String.toList)).parse_text
  have trimmed := (insertionOf (triples.map String.toList)).trim_text
  rw [← toList_insertQuery nonempty] at parsed trimmed
  rw [String.ofList_toList] at parsed
  let gap := Blanks.of ['\n', ' ', ' '] rfl
  let last := Blanks.of ['\n'] rfl
  have hasGap : gap.val ≠ [] := List.cons_ne_nil _ _
  have hasLast : last.val ≠ [] := List.cons_ne_nil _ _
  have block := Query.splitTriples_lines (List.forall_mem_map.mpr each) hasGap hasLast
  have lines : (triples.map String.toList).map String.ofList = triples := by
    rw [List.map_map]
    exact (List.map_congr_left fun triple _ => String.ofList_toList).trans (List.map_id triples)
  rw [block_insertionOf, block, lines] at parsed
  rw [trimmed]
  exact ⟨_, parsed, rfl, rfl⟩

/-- Where the triples do not seem to declare a namespace, every name stands for what it should. -/
theorem declares_of_findAll {triples : List String} (nonempty : triples ≠ [])
    (nothing : Text.findAll Query.declaration (insertionOf (triples.map String.toList)).braced = []) :
    Turtle.Declares (Query.declaredNamespaces (Unicode.trim (insertQuery triples).toList))
      Rdf.defaultNamespaces := by
  have standard : Turtle.Declares (Rdf.defaultNamespaces.putAll
      ((insertionOf []).prologue.map Declaration.written)) Rdf.defaultNamespaces := by
    unfold Turtle.Declares
    decide
  rw [toList_insertQuery nonempty, Insertion.trim_text, Query.declaredNamespaces_core, nothing]
  exact standard

/-! ### The triples of an entity -/

/-- The names of the predicates of facts. -/
def factNames : List String :=
  ["nombre", "resumen"] ++ optionalMembers ++ ["ocupacion", "imagenReferencia"]

theorem mem_factNames {entity : Assoc Json} : ∀ fact ∈ facts entity, fact.1 ∈ factNames := by
  have named : ∀ name, ∀ fact ∈ given entity name, fact.1 = name := by
    intro name fact member
    rw [List.mem_singleton.mp (List.mem_filter.mp member).1]
  intro fact member
  simp only [facts, List.mem_append, List.mem_cons, List.not_mem_nil, or_false, List.mem_flatMap,
    List.mem_map] at member
  rcases member with (((rfl | rfl) | ⟨name, among, inside⟩) | ⟨text, _, rfl⟩) | inside
  · exact (by decide : "nombre" ∈ factNames)
  · exact (by decide : "resumen" ∈ factNames)
  · rw [named name fact inside]
    simp [factNames, among]
  · exact (by decide : "ocupacion" ∈ factNames)
  · rw [named _ fact inside]
    decide

theorem ontologyNamespace_append_ne (text : String) : Rdf.ontologyNamespace ++ text ≠ "" := by
  intro empty
  have nothing := congrArg String.toList empty
  rw [String.toList_append] at nothing
  exact absurd (List.append_eq_nil_iff.mp nothing).1 (by decide)

/-- A name in the ontology is written behind its colon. -/
theorem formatIri_ontology {name : String} (safe : Turtle.isSafeLocal name.toList = true) :
    Turtle.formatIri Rdf.defaultNamespaces (Rdf.ontologyNamespace ++ name) =
      "phb:".toList ++ name.toList := by
  have apart : Rdf.rdfNamespace.toList.isPrefixOf (Rdf.ontologyNamespace.toList ++ name.toList) =
      false := by
    unfold Rdf.rdfNamespace Rdf.ontologyNamespace
    rw [toList_of_eq rfl, toList_of_eq rfl]
    rfl
  have front : Rdf.ontologyNamespace.toList.isPrefixOf
      (Rdf.ontologyNamespace.toList ++ name.toList) = true :=
    List.isPrefixOf_iff_prefix.mpr (List.prefix_append _ _)
  unfold Turtle.formatIri Rdf.defaultNamespaces
  simp only [List.findSome?_cons, Turtle.abbreviate?, String.toList_append, apart, front, safe,
    List.drop_left, Bool.false_and, Bool.and_self, Bool.false_eq_true, if_false, if_true]
  rfl

/-- The name of a fact, as its triple has it. -/
theorem formatIri_fact {name : String} (known : name ∈ factNames) :
    Turtle.formatIri Rdf.defaultNamespaces (Rdf.ontologyNamespace ++ name) =
      "phb:".toList ++ name.toList := by
  have each : ∀ name ∈ factNames, Turtle.isSafeLocal name.toList = true := by decide
  exact formatIri_ontology (each name known)

theorem formatIri_typePredicate :
    Turtle.formatIri Rdf.defaultNamespaces Rdf.typePredicate = "rdf:type".toList := by
  decide

theorem formatTerm_figureClass :
    Turtle.formatTerm Rdf.defaultNamespaces (.uri Rdf.figureClass) =
      "phb:".toList ++ Rdf.figureClassName.toList := by
  have safe : Turtle.isSafeLocal Rdf.figureClassName.toList = true := by
    rw [(toList_of_eq rfl : Rdf.figureClassName.toList = _)]
    decide
  rw [Turtle.formatTerm_uri, Rdf.figureClass, formatIri_ontology safe]

section Triples

variable {entity : Assoc Json} (textual : IsTextual entity)
include textual

/-- An address needs no escapes. -/
theorem isIriChar_address : ∀ c ∈ (address entity).toList, Turtle.isIriChar c = true := by
  obtain ⟨id, found, _, letters⟩ := textual.hasId
  have base : ∀ c ∈ Rdf.ontologyNamespace.toList, Turtle.isIriChar c = true := by
    rw [(toList_of_eq rfl : Rdf.ontologyNamespace.toList = _)]
    exact List.all_eq_true.mp (by decide)
  intro c member
  rw [address, memberText_eq found, entityUri, String.toList_append] at member
  rcases List.mem_append.mp member with first | last
  · exact base c first
  · rcases letters c last with plain | rfl
    · have here := Unicode.eq_true_of_isAlphanum (p := Turtle.isIriChar) (by decide) plain
      exact here
    · decide

theorem formatIri_address :
    Turtle.formatIri [] (address entity) = '<' :: (address entity).toList ++ ['>'] := by
  have plain := Turtle.formatIriChars_eq_self (isIriChar_address textual)
  change '<' :: (address entity).toList.flatMap Turtle.formatIriChar ++ ['>'] = _
  rw [plain]

/-- The triple of a fact writes its statement. -/
theorem factTriple_eq {fact : String × String} (known : fact.1 ∈ factNames) :
    factTriple (address entity) fact = String.ofList
      (Turtle.formatTriple Rdf.defaultNamespaces (factStatement (address entity) fact)) := by
  rw [← String.toList_inj, String.toList_ofList, Turtle.formatTriple, factStatement,
    formatIri_address textual, formatIri_fact known, Turtle.formatTerm_plain, Turtle.formatString,
    ← Literal.toList_escapeLiteral]
  unfold factTriple textTriple
  simp only [String.toList_append, String.reduceToList, List.append_assoc, List.cons_append,
    List.nil_append]

/-- **The triples of an entity write its statements.** -/
theorem triples_eq : triples entity = (statements entity).map fun statement =>
    String.ofList (Turtle.formatTriple Rdf.defaultNamespaces statement) := by
  have first : "<" ++ address entity ++ "> rdf:type phb:" ++ Rdf.figureClassName ++ " ." =
      String.ofList (Turtle.formatTriple Rdf.defaultNamespaces
        ⟨address entity, Rdf.typePredicate, .uri Rdf.figureClass⟩) := by
    have opens : "<".toList = ['<'] := toList_of_eq rfl
    have middle : "> rdf:type phb:".toList =
        '>' :: ' ' :: ("rdf:type".toList ++ ' ' :: "phb:".toList) := by
      rw [toList_of_eq rfl, toList_of_eq rfl, toList_of_eq rfl]
      rfl
    have ends : " .".toList = [' ', '.'] := toList_of_eq rfl
    rw [← String.toList_inj, String.toList_ofList, Turtle.formatTriple, formatIri_address textual,
      formatIri_typePredicate, formatTerm_figureClass]
    simp only [String.toList_append, opens, middle, ends, List.append_assoc, List.cons_append,
      List.nil_append]
  have others := List.map_congr_left fun fact (member : fact ∈ facts entity) =>
    factTriple_eq textual (mem_factNames fact member)
  rw [triples, statements, List.map_cons, List.map_map, first, others]
  rfl

/-- A statement of an entity is written on a line that is not cut before its point. -/
theorem isTripleLine_of_statement {statement : Statement} (subject : statement.subject = address entity)
    (predicate : Query.Passes .outside
      (Turtle.formatIri Rdf.defaultNamespaces statement.predicate) .outside)
    (object : Query.Passes .outside
      (Turtle.formatTerm Rdf.defaultNamespaces statement.object) .outside) :
    IsTripleLine (Turtle.formatTriple Rdf.defaultNamespaces statement) := by
  have close : '>' ∉ (address entity).toList := fun member =>
    absurd (isIriChar_address textual '>' member) (by decide)
  have space : Query.Passes .outside [' '] .outside :=
    Query.passes_blanks (.of [' '] rfl)
  refine ⟨(address entity).toList ++ '>' :: ' ' ::
    (Turtle.formatIri Rdf.defaultNamespaces statement.predicate ++ ' ' ::
      (Turtle.formatTerm Rdf.defaultNamespaces statement.object ++ [' '])), ?_, ?_⟩
  · rw [Turtle.formatTriple, subject, formatIri_address textual]
    simp only [List.append_assoc, List.cons_append, List.nil_append]
  · have whole := ((Query.Passes.bracketed close).append space).append
      ((predicate.append space).append (object.append space))
    simpa only [List.append_assoc, List.cons_append, List.nil_append] using whole

/-- What the statements of an entity are like: each is written on a line of its own, and can be
stored and read back. -/
theorem forall_statements : ∀ statement ∈ statements entity,
    IsTripleLine (Turtle.formatTriple Rdf.defaultNamespaces statement) ∧ statement.IsComplete ∧
      Turtle.IsReadTerm statement.object ∧ ¬ Turtle.HasReservedTag statement.object ∧
        Turtle.reread statement = statement := by
  have addressed : address entity ≠ "" := ontologyNamespace_append_ne _
  have plainPart : ∀ part : List Char, (∀ c ∈ part, c ≠ '.' ∧ Query.Place.next .outside c = .outside) →
      Query.Passes .outside part .outside := fun part each =>
    Query.Passes.of_forall fun c member => ⟨fun _ => (each c member).1, (each c member).2⟩
  intro statement member
  rcases List.mem_cons.mp member with rfl | later
  · have type : ∀ c ∈ Turtle.formatIri Rdf.defaultNamespaces Rdf.typePredicate,
        c ≠ '.' ∧ Query.Place.next .outside c = .outside := by
      rw [formatIri_typePredicate, toList_of_eq rfl]
      exact Unicode.forall_mem_of_all (by decide)
    have class_ : ∀ c ∈ Turtle.formatTerm Rdf.defaultNamespaces (.uri Rdf.figureClass),
        c ≠ '.' ∧ Query.Place.next .outside c = .outside := by
      rw [formatTerm_figureClass, toList_of_eq rfl,
        (toList_of_eq rfl : Rdf.figureClassName.toList = _)]
      exact Unicode.forall_mem_of_all (by decide)
    exact ⟨isTripleLine_of_statement textual rfl (plainPart _ type) (plainPart _ class_),
      ⟨addressed, (by decide : Rdf.typePredicate ≠ "")⟩, .uri _,
      (by decide : ¬ Turtle.HasReservedTag (.uri Rdf.figureClass)), rfl⟩
  · obtain ⟨fact, among, rfl⟩ := List.mem_map.mp later
    have known := mem_factNames fact among
    refine ⟨isTripleLine_of_statement textual rfl ?_ ?_, ⟨addressed, ?_⟩, .plain _, ?_, rfl⟩
    · rw [factStatement, formatIri_fact known]
      have each : ∀ name ∈ factNames, ("phb:".toList ++ name.toList).all
          (fun c => decide (c ≠ '.' ∧ Query.Place.next .outside c = .outside)) = true := by
        decide
      exact plainPart _ (Unicode.forall_mem_of_all (each _ known))
    · rw [factStatement, Turtle.formatTerm_plain]
      exact Query.Passes.formatString _
    · exact ontologyNamespace_append_ne _
    · rintro ⟨language, untagged, _⟩
      cases untagged

/-- Each triple of an entity is a line of its own. -/
theorem forall_triples : ∀ triple ∈ triples entity, IsTripleLine triple.toList := by
  intro triple member
  rw [triples_eq textual] at member
  obtain ⟨statement, among, rfl⟩ := List.mem_map.mp member
  rw [String.toList_ofList]
  exact (forall_statements textual statement among).1

end Triples

theorem readTriple_formatTriple {known : Namespaces}
    (declares : Turtle.Declares known Rdf.defaultNamespaces) {statement : Statement}
    (readable : Turtle.IsReadTerm statement.object) (free : ¬ Turtle.HasReservedTag statement.object)
    (same : Turtle.reread statement = statement)
    (plain : Literal.decodeQuotedSegments
      (String.ofList (Turtle.formatTriple Rdf.defaultNamespaces statement)) =
        String.ofList (Turtle.formatTriple Rdf.defaultNamespaces statement)) :
    Query.readTriple known (String.ofList (Turtle.formatTriple Rdf.defaultNamespaces statement)) =
      .ok [statement] := by
  have ends : Turtle.formatTriple Rdf.defaultNamespaces statement =
      ((Turtle.formatIri [] statement.subject ++ [' ']) ++
        ((Turtle.formatIri Rdf.defaultNamespaces statement.predicate ++ [' ']) ++
          (Turtle.formatTerm Rdf.defaultNamespaces statement.object ++ [' ']))) ++ ['.'] := by
    rw [Turtle.formatTriple]
    simp only [List.append_assoc]
  have parsed := Turtle.parse_formatTriple declares Turtle.isDeclarable_defaultNamespaces readable free
  rw [same] at parsed
  exact (Query.readTriple_eq (String.toList_ofList.trans ends) plain parsed).trans
    (if_neg (List.cons_ne_nil _ _))

theorem readTriples_map {known : Namespaces} {write : Statement → String}
    {statements : List Statement}
    (each : ∀ statement ∈ statements, Query.readTriple known (write statement) = .ok [statement]) :
    Query.readTriples known (statements.map write) = .ok statements := by
  unfold Query.readTriples
  rw [mapM_map_eq_ok each]
  change Except.ok (statements.map fun statement => [statement]).flatten = .ok statements
  rw [← List.flatMap_def, List.flatMap_singleton']

/-- **The query of an entity adds exactly what the entity says**: it is built, it is read as the
triples that it is built from, and these give the statements of the entity in order, where the names
stand for what they should and no text of it reads as an encoded one. -/
theorem insertTriples_of_entity {entity : Assoc Json} (textual : IsTextual entity)
    (standard : Turtle.Declares
      (Query.declaredNamespaces (Unicode.trim (insertQuery (triples entity)).toList))
      Rdf.defaultNamespaces)
    (plain : ∀ triple ∈ triples entity, Literal.decodeQuotedSegments triple = triple) :
    insertQuery? Rdf.figureClassName (.obj entity) = .ok (some (insertQuery (triples entity))) ∧
      ∃ query, Query.parse (insertQuery (triples entity)) = .ok query ∧
        query.body = .insert (triples entity) ∧
        ∀ store, (Query.insertTriples query.namespaces (triples entity) store).2 =
          .ok (statements entity) := by
  have like := forall_statements textual
  obtain ⟨query, parsed, namespaces, body⟩ :=
    parse_insertQuery (List.cons_ne_nil _ _) (forall_triples textual)
  refine ⟨insertQuery?_eq textual, query, parsed, body, fun store => ?_⟩
  have each : ∀ statement ∈ statements entity, Query.readTriple query.namespaces
      (String.ofList (Turtle.formatTriple Rdf.defaultNamespaces statement)) = .ok [statement] := by
    intro statement member
    obtain ⟨_, _, readable, free, same⟩ := like statement member
    refine readTriple_formatTriple (namespaces ▸ standard) readable free same (plain _ ?_)
    rw [triples_eq textual]
    exact List.mem_map_of_mem member
  have reads : Query.readTriples query.namespaces (triples entity) = .ok (statements entity) := by
    rw [triples_eq textual]
    exact readTriples_map each
  obtain ⟨count, added⟩ := Store.exists_addAll (fun statement member => (like statement member).2.1) store
  unfold Query.insertTriples
  simp only [reads]
  rcases grows : store.addAll ((statements entity).map some) with ⟨grown, _ | _⟩
  · rw [grows] at added
    cases added
  · rfl

/-- An entity with marks, line breaks and words of queries in its texts. -/
def awkwardEntity : Assoc Json :=
  [("id", .str "simon_1"), ("label", .str "\x22el\\ Libertador\x22"),
    ("description", .str "INSERT DATA \x7b <a> \x7d . PREFIX\r\n\ny\t'z'. <b"),
    ("lugarNacimiento", .str ""), ("ocupacion", Json.ofTexts ["militar. "])]

theorem isTextual_awkwardEntity : IsTextual awkwardEntity where
  hasId := ⟨"simon_1", rfl, by decide, Unicode.forall_mem_of_all (by decide)⟩
  hasLabel := ⟨"\x22el\\ Libertador\x22", rfl, by decide⟩
  texts name member := by
    simp only [optionalMembers, List.mem_cons, List.not_mem_nil, or_false] at member
    rcases member with rfl | rfl | rfl | rfl | rfl | rfl | rfl
    · exact .inr ⟨_, rfl⟩
    · exact .inl rfl
    · exact .inl rfl
    · exact .inl rfl
    · exact .inr ⟨_, rfl⟩
    · exact .inl rfl
    · exact .inl rfl
  occupations := .inr (.inr ⟨_, rfl⟩)

theorem triples_awkwardEntity : triples awkwardEntity = [
    "<http://example.org/personasHistoricasBolivianas#simon_1> rdf:type " ++
      "phb:PersonaHistoricaBoliviana .",
    "<http://example.org/personasHistoricasBolivianas#simon_1> phb:nombre " ++
      "\x22\\\x22el\\\\ Libertador\\\x22\x22 .",
    "<http://example.org/personasHistoricasBolivianas#simon_1> phb:resumen " ++
      "\x22INSERT DATA \x7b <a> \x7d . PREFIX y 'z'. <b\x22 .",
    "<http://example.org/personasHistoricasBolivianas#simon_1> phb:ocupacion \x22militar. \x22 ."] := by
  decide

theorem insertTriples_of_awkwardEntity :
    insertQuery? Rdf.figureClassName (.obj awkwardEntity) =
        .ok (some (insertQuery (triples awkwardEntity))) ∧
      ∃ query, Query.parse (insertQuery (triples awkwardEntity)) = .ok query ∧
        query.body = .insert (triples awkwardEntity) ∧
        ∀ store, (Query.insertTriples query.namespaces (triples awkwardEntity) store).2 =
          .ok (statements awkwardEntity) := by
  have scans : Text.findAll Query.declaration
        (insertionOf ((triples awkwardEntity).map String.toList)).braced = [] ∧
      ∀ line ∈ (triples awkwardEntity).map String.toList,
        Text.replaceAll Literal.quotedSegment line = line := by
    rw [triples_awkwardEntity]
    simp only [List.map_cons, List.map_nil, String.toList_append, String.reduceToList]
    decide +kernel
  refine insertTriples_of_entity isTextual_awkwardEntity
    (declares_of_findAll (List.cons_ne_nil _ _) scans.1) fun triple member => ?_
  rw [Literal.decodeQuotedSegments, scans.2 _ (List.mem_map_of_mem member), String.ofList_toList]

end HistoricalFigures.Figure
