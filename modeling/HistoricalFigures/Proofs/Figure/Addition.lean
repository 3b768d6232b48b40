import HistoricalFigures.Proofs.Figure.Insertion
import HistoricalFigures.Proofs.Literal.DecodedForm
import HistoricalFigures.Proofs.Rdf.Instances

/-!
**The query of an entity adds one figure, whatever its texts hold.** A text that reads as an encoded one
is stored as another text, but the statement that has it stays about the same address and under the same
name, and so does the statement that tells the class.

* `exists_readTriple_plain`: a triple with a text, its segments decoded.
* `MakesFigure`: statements that make one figure, and `MakesFigure.instances_eq`.
* `exists_readTriples`: the triples of an entity make one figure.
* `IsStandard`: the names in a query stand for what they should.
* `exists_parse_insertQuery`: what the query of an entity adds to statements in memory.
-/
namespace HistoricalFigures

open Rdf (Namespaces Statement Store Term)

/-! ### Triples with texts -/

/-- What has the form of a statement with a text is a statement with a text. -/
theorem Rdf.exists_plain_of_form {statement : Statement} {subject predicate : String}
    (same : statement.form = ⟨subject, predicate, .plain ""⟩) :
    ∃ value, statement = ⟨subject, predicate, .plain value⟩ := by
  obtain ⟨_, _, value, kind, datatype, language⟩ := statement
  obtain ⟨rfl, rfl, object⟩ := Statement.mk.inj same
  refine ⟨value, ?_⟩
  unfold Term.form at object
  split at object
  · cases object
    rfl
  · rename_i other
    cases object
    exact absurd rfl other

namespace Turtle

/-- A triple ends with its point. -/
theorem exists_formatTriple_eq (namespaces : Namespaces) (statement : Statement) :
    ∃ before, formatTriple namespaces statement = before ++ ['.'] := by
  rw [formatTriple, ← List.append_assoc, ← List.append_assoc]
  exact ⟨_, rfl⟩

/-- **The tokens of a triple with a text**: no string of it stands in single quotes. -/
theorem exists_lexes_formatTriple {known namespaces : Namespaces} (declares : Declares known namespaces)
    (declarable : ∀ name ∈ namespaces, IsDeclarable name) (subject predicate text : String) :
    ∃ found, Lexes (formatTriple namespaces ⟨subject, predicate, .plain text⟩) found ∧
      ∀ token ∈ found, Literal.StaysWhole token.1 token.2 := by
  have space : Unicode.isBlank ' ' = true := by decide
  have nothing : Declares known [] := fun _ absent => absurd absent List.not_mem_nil
  obtain ⟨first, isFirst, isSubject, _⟩ := resource_formatIri nothing
    (fun _ absent => absurd absent List.not_mem_nil) subject
    (formatIri namespaces predicate ++ ' ' :: (formatString text ++ ' ' :: ['.']))
  obtain ⟨second, isSecond, isPredicate, _⟩ := resource_formatIri declares declarable predicate
    (formatString text ++ ' ' :: ['.'])
  have isText : IsLexeme .string (formatString text) (' ' :: ['.']) :=
    isLexeme_string text.toList (by decide)
  have plain : ∀ kind, kind = .iri ∨ kind = .name → TokenKind.isString kind = false := by
    rintro kind (rfl | rfl) <;> rfl
  have lexes := Lexes.token isSubject (.blank space (.token isPredicate (.blank space
    (.token isText (.blank space (.token (isLexeme_point []) .nil))))))
  have same : formatTriple namespaces ⟨subject, predicate, .plain text⟩ =
      formatIri [] subject ++ ' ' :: (formatIri namespaces predicate ++ ' ' ::
        (formatString text ++ ' ' :: ['.'])) := by
    rw [formatTriple, formatTerm_plain]
    simp only [List.append_assoc, List.cons_append, List.nil_append]
  rw [same]
  refine ⟨_, lexes, ?_⟩
  simp only [List.forall_mem_cons, List.not_mem_nil, false_imp_iff, implies_true, and_true]
  exact ⟨Literal.staysWhole_of_noString isSubject (plain _ isFirst),
    Literal.staysWhole_of_noString isPredicate (plain _ isSecond),
    fun single => absurd (Option.some.inj single) (by decide),
    Literal.staysWhole_of_noString (isLexeme_point []) rfl⟩

end Turtle

namespace Query

/-- **A triple with a text is read as a statement with a text**, of the same subject and predicate. -/
theorem exists_readTriple_plain {known : Namespaces}
    (declares : Turtle.Declares known Rdf.defaultNamespaces) (subject predicate text : String) :
    ∃ value, readTriple known (String.ofList
      (Turtle.formatTriple Rdf.defaultNamespaces ⟨subject, predicate, .plain text⟩)) =
        .ok [⟨subject, predicate, .plain value⟩] := by
  obtain ⟨found, lexes, whole⟩ := Turtle.exists_lexes_formatTriple declares
    Turtle.isDeclarable_defaultNamespaces subject predicate text
  have parsed : Turtle.parse known (String.ofList
      (Turtle.formatTriple Rdf.defaultNamespaces ⟨subject, predicate, .plain text⟩)) =
        .ok [⟨subject, predicate, .plain text⟩] :=
    Turtle.parse_formatTriple declares Turtle.isDeclarable_defaultNamespaces (.plain text)
      (fun ⟨_, untagged, _⟩ => nomatch untagged)
  obtain ⟨others, parsed', same⟩ := Literal.exists_parse_of_lexes (by rwa [String.toList_ofList])
    whole parsed
  obtain ⟨other, rfl, sameForm⟩ := List.map_eq_singleton_iff.mp same
  obtain ⟨value, rfl⟩ := Rdf.exists_plain_of_form sameForm
  obtain ⟨before, ends⟩ := Turtle.exists_formatTriple_eq Rdf.defaultNamespaces
    ⟨subject, predicate, .plain text⟩
  have parted : Literal.IsParted before ['.'] := .inr fun c first => by
    obtain rfl : '.' = c := by simpa using first
    exact Literal.isApart_of_mayFollow (by decide)
  have ends' : (Literal.decodeQuotedSegments (String.ofList
      (Turtle.formatTriple Rdf.defaultNamespaces ⟨subject, predicate, .plain text⟩))).toList =
        Text.replaceAll Literal.quotedSegment before ++ ['.'] := by
    rw [Literal.decodeQuotedSegments, String.toList_ofList, String.toList_ofList, ends,
      Literal.replaceAll_append parted]
    rfl
  exact ⟨value, (readTriple_of_decoded ends' parsed').trans (if_neg (List.cons_ne_nil _ _))⟩

end Query

namespace Figure

open Text (lacksWord lacksWord_append toList_of_eq)

/-! ### Statements that make a figure -/

/-- Statements that make one figure: one that tells that it is one, and then others that tell texts of
it. -/
def MakesFigure (uri : String) (told : List Statement) : Prop :=
  ∃ details, told = ⟨uri, Rdf.typePredicate, .uri Rdf.figureClass⟩ :: details ∧
    ∀ statement ∈ details, ∃ name ∈ factNames, ∃ text,
      statement = ⟨uri, Rdf.ontologyNamespace ++ name, .plain text⟩

/-- The names of facts tell no class. -/
theorem ontologyNamespace_append_ne_typePredicate :
    ∀ name ∈ factNames, Rdf.ontologyNamespace ++ name ≠ Rdf.typePredicate := by
  decide

namespace MakesFigure

variable {uri : String} {told : List Statement} (makes : MakesFigure uri told)
include makes

theorem isComplete (given : uri ≠ "") : ∀ statement ∈ told, statement.IsComplete := by
  obtain ⟨details, rfl, each⟩ := makes
  refine List.forall_mem_cons.mpr ⟨⟨given, (by decide : Rdf.typePredicate ≠ "")⟩, ?_⟩
  intro statement member
  obtain ⟨name, _, text, rfl⟩ := each statement member
  exact ⟨given, ontologyNamespace_append_ne name⟩

/-- The texts of a figure have no language, so none that reads as the beginning of a declaration. -/
theorem not_hasReservedTag : ∀ statement ∈ told, ¬ Turtle.HasReservedTag statement.object := by
  obtain ⟨details, rfl, each⟩ := makes
  have untagged : ∀ text, ¬ Turtle.HasReservedTag (.uri text) ∧ ¬ Turtle.HasReservedTag (.plain text) :=
    fun text => ⟨fun ⟨_, absent, _⟩ => (nomatch absent), fun ⟨_, absent, _⟩ => (nomatch absent)⟩
  refine List.forall_mem_cons.mpr ⟨(untagged _).1, fun statement member => ?_⟩
  obtain ⟨name, _, text, rfl⟩ := each statement member
  exact (untagged text).2

/-- **Statements that make one figure tell of one instance.** -/
theorem instances_eq (other : uri ≠ Rdf.figureClass) : Rdf.instances told = [uri] := by
  obtain ⟨details, rfl, each⟩ := makes
  have untyped : details.filter Rdf.namesFigureClass = [] := by
    refine List.filter_eq_nil_iff.mpr fun statement member names => ?_
    obtain ⟨name, known, text, rfl⟩ := each statement member
    simp only [Rdf.namesFigureClass, Bool.and_eq_true, decide_eq_true_eq] at names
    exact ontologyNamespace_append_ne_typePredicate name known names.1
  have typed : Rdf.namesFigureClass ⟨uri, Rdf.typePredicate, .uri Rdf.figureClass⟩ = true := by
    simp [Rdf.namesFigureClass, Term.uri]
  have kept : [uri].filter (· ≠ Rdf.figureClass) = [uri] :=
    List.filter_cons_of_pos (decide_eq_true other)
  rw [Rdf.instances, List.filter_cons_of_pos typed, untyped, List.map_singleton, kept]
  rfl

end MakesFigure

/-! ### What an entity adds -/

/-- The names in a query stand for what they should, whatever its texts hold. -/
def IsStandard (query : String) : Prop :=
  Turtle.Declares (Query.declaredNamespaces (Unicode.trim query.toList)) Rdf.defaultNamespaces

/-- The triples of an entity have no word that neither their own marks and names nor the identifier and
the texts have. -/
theorem lacksWord_triples {word : List Char} {entity : Assoc Json}
    (marks : ∀ text ∈ ["<", "> rdf:type phb:", " .", "> phb:", " \x22", "\x22 .",
      Rdf.ontologyNamespace, Rdf.figureClassName] ++ factNames, lacksWord word text.toList = true)
    (id : lacksWord word (memberText entity "id").toList = true)
    (texts : ∀ fact ∈ facts entity, lacksWord word (Literal.escapeLiteral fact.2).toList = true) :
    ∀ triple ∈ triples entity, lacksWord word triple.toList = true := by
  simp only [List.forall_mem_append, List.forall_mem_cons] at marks
  obtain ⟨⟨opens, typed, point, named, quote, closes, namespace_, className, _⟩, names⟩ := marks
  have uri : lacksWord word (address entity).toList = true := by
    rw [address, entityUri, String.toList_append]
    exact lacksWord_append namespace_ id
  refine List.forall_mem_cons.mpr ⟨?_, List.forall_mem_map.mpr fun fact member => ?_⟩
  · simp only [String.toList_append]
    exact lacksWord_append (lacksWord_append (lacksWord_append (lacksWord_append opens uri) typed)
      className) point
  · have name := names fact.1 (mem_factNames fact member)
    simp only [factTriple, textTriple, String.toList_append]
    exact lacksWord_append (lacksWord_append (lacksWord_append (lacksWord_append (lacksWord_append
      (lacksWord_append opens uri) named) name) quote) (texts fact member)) closes

/-- **The names stand for what they should where neither the identifier nor a text has the word of a
declaration.** -/
theorem isStandard_of_lacksWord {entity : Assoc Json}
    (id : lacksWord "prefix".toList (memberText entity "id").toList = true)
    (texts : ∀ fact ∈ facts entity,
      lacksWord "prefix".toList (Literal.escapeLiteral fact.2).toList = true) :
    IsStandard (insertQuery (triples entity)) := by
  have needs : Text.NeedsWord Query.declaration "prefix".toList := by
    intro before text absent
    rw [Query.declaration, absent]
    rfl
  have each := lacksWord_triples (by
    rw [toList_of_eq (show "prefix" = String.ofList ['p', 'r', 'e', 'f', 'i', 'x'] from rfl)]
    decide) id texts
  have lines : lacksWord "prefix".toList
      (((triples entity).map String.toList).flatMap (['\n', ' ', ' '] ++ ·)) = true :=
    Text.lacksWord_flatMap (List.forall_mem_map.mpr fun triple member =>
      lacksWord_append (by decide) (each triple member))
  have marks : lacksWord "prefix".toList ['\x7b'] = true ∧ lacksWord "prefix".toList ['\n'] = true ∧
      lacksWord "prefix".toList ['\x7d'] = true := by decide
  have whole := Text.lacksWord_cons marks.1 (lacksWord_append (lacksWord_append lines marks.2.1) marks.2.2)
  rw [← List.cons_append] at whole
  exact declares_of_findAll (List.cons_ne_nil _ _)
    (Text.findAllFrom_append_of_lacksWord needs whole none [])

section Entities

variable {entity : Assoc Json} (textual : IsTextual entity)
include textual

/-- The triple of the class is read as its statement. -/
theorem readTriple_class {known : Namespaces}
    (declares : Turtle.Declares known Rdf.defaultNamespaces) :
    Query.readTriple known
      ("<" ++ address entity ++ "> rdf:type phb:" ++ Rdf.figureClassName ++ " .") =
        .ok [⟨address entity, Rdf.typePredicate, .uri Rdf.figureClass⟩] := by
  obtain ⟨_, _, readable, free, same⟩ := forall_statements textual _ List.mem_cons_self
  rw [(List.cons.inj (triples_eq textual)).1]
  refine readTriple_formatTriple declares readable free same ?_
  have iri : '\x22' ∉ (address entity).toList := fun member =>
    absurd (isIriChar_address textual _ member) (by decide)
  have names : '\x22' ∉ "rdf:type".toList ∧ '\x22' ∉ "phb:".toList ∧
      '\x22' ∉ Rdf.figureClassName.toList := by
    unfold Rdf.figureClassName
    rw [toList_of_eq rfl, toList_of_eq rfl, toList_of_eq rfl]
    decide
  refine Literal.decodeQuotedSegments_of_notMem ?_
  rw [Turtle.formatTriple, formatIri_address textual, formatIri_typePredicate, formatTerm_figureClass]
  simp [iri, names]

/-- **The triples of an entity make one figure**, at its address. -/
theorem exists_readTriples {known : Namespaces}
    (declares : Turtle.Declares known Rdf.defaultNamespaces) :
    ∃ told, Query.readTriples known (triples entity) = .ok told ∧ MakesFigure (address entity) told := by
  have each : ∀ fact : String × String, fact.1 ∈ factNames → ∃ text,
      Query.readTriple known (factTriple (address entity) fact) =
        .ok [⟨address entity, Rdf.ontologyNamespace ++ fact.1, .plain text⟩] := by
    intro fact among
    rw [factTriple_eq textual among]
    exact Query.exists_readTriple_plain declares _ _ _
  choose! textOf reads using each
  have details := mapM_map_eq_ok fun fact (member : fact ∈ facts entity) =>
    reads fact (mem_factNames fact member)
  refine ⟨⟨address entity, Rdf.typePredicate, .uri Rdf.figureClass⟩ :: (facts entity).map fun fact =>
    ⟨address entity, Rdf.ontologyNamespace ++ fact.1, .plain (textOf fact)⟩, ?_, _, rfl, ?_⟩
  · rw [Query.readTriples, triples, List.mapM_cons, readTriple_class textual declares, ok_bind, details,
      ok_bind]
    refine congrArg Except.ok ?_
    rw [List.flatten_cons, ← List.flatMap_def, ← List.map_eq_flatMap]
    rfl
  · intro statement member
    obtain ⟨fact, among, rfl⟩ := List.mem_map.mp member
    exact ⟨fact.1, mem_factNames fact among, textOf fact, rfl⟩

/-- **The query of an entity is an insertion that succeeds**, and what it adds to statements in memory is
one figure at its address. -/
theorem exists_parse_insertQuery (standard : IsStandard (insertQuery (triples entity))) :
    ∃ query told, Query.parse (insertQuery (triples entity)) = .ok query ∧
      query.body.kind ≠ .select ∧ MakesFigure (address entity) told ∧
      ∀ store, ∃ changed, query.answer store = .ok (.obj [("success", .bool true)], changed) ∧
        changed.statements = Rdf.joined store.statements told := by
  have nonempty : triples entity ≠ [] := List.cons_ne_nil _ _
  obtain ⟨query, parsed, namespaces, body⟩ := parse_insertQuery nonempty (forall_triples textual)
  obtain ⟨told, reads, makes⟩ := exists_readTriples textual (namespaces ▸ standard :
    Turtle.Declares query.namespaces Rdf.defaultNamespaces)
  refine ⟨query, told, parsed, by rw [body]; exact nofun, makes, fun store => ?_⟩
  have complete := makes.isComplete (ontologyNamespace_append_ne _)
  have whole : told.takeWhile (fun statement => statement.IsComplete) = told :=
    List.takeWhile_eq_self_iff.mpr fun statement member => decide_eq_true (complete statement member)
  obtain ⟨count, added⟩ := Store.exists_addAll complete store
  refine ⟨(store.addAll (told.map some)).1, ?_, by rw [Rdf.statements_addAll_eq_joined, whole]⟩
  rw [Query.answer, body]
  dsimp only
  rw [Query.insertTriples_of_read reads, added]
  rfl

end Entities

end Figure

end HistoricalFigures
