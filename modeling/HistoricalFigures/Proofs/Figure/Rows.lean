import HistoricalFigures.Figure.Service
import HistoricalFigures.Proofs.Outcome
import HistoricalFigures.Proofs.Query.Kind
import HistoricalFigures.Query.Evaluation

/-!
**What the rows of a selection tell of figures.**

* `firstText`, `Figure.ofSubject`: what a store tells of a subject.
* `ofRow_namedRow`: the row of a subject gives the figure of that subject.
* `IsMentioned`, `fitsTerm_iff`: a term occurs in what is searched of a subject.
* `IsFirstOfEach`, `exists_distinct`: figures without those whose identifier came before.
-/
namespace HistoricalFigures.Figure

open Rdf (Statement Store Term)

/-! ### What a store tells of a subject -/

/-- The first statement of a subject with a property of the ontology. -/
def firstStatement? (store : Store) (subject property : String) : Option Statement :=
  store.statements.find? fun statement =>
    statement.subject = subject ∧ statement.predicate = Rdf.ontologyNamespace ++ property

/-- The value of the first statement of a subject with a property of the ontology, or the empty
text. -/
def firstText (store : Store) (subject property : String) : String :=
  ((firstStatement? store subject property).map fun statement => statement.object.value).getD ""

/-- The figure that a subject is, as a store tells it. -/
def ofSubject (store : Store) (subject : String) : Figure where
  id := localId subject
  uri := .str subject
  name := .str (firstText store subject "nombre")
  description := .str (firstText store subject "resumen")
  thumbnail := .str (firstText store subject "imagenReferencia")
  birthDate := .str (firstText store subject "fechaNacimiento")
  deathDate := .str (firstText store subject "fechaFallecimiento")
  birthPlace := .str (firstText store subject "lugarNacimiento")
  deathPlace := .str (firstText store subject "lugarFallecimiento")
  nationality := .str (firstText store subject "nacionalidad")
  occupation := .str (firstText store subject "ocupacion")
  source := "ontology"

/-- A term is empty or occurs in the search form of the first name or the first summary of a
subject. -/
def IsMentioned (store : Store) (term subject : String) : Prop :=
  term = "" ∨ ∃ property ∈ ["nombre", "resumen"], ∃ statement,
    firstStatement? store subject property = some statement ∧
      term.toList <:+: (Literal.searchForm statement.object.value).toList

/-- The first value for a property is that of the first statement. -/
theorem firstValue?_eq (store : Store) (subject property : String) :
    Query.firstValue? store subject (Rdf.ontologyNamespace ++ property) =
      (firstStatement? store subject property).map Statement.object := by
  have same : ((store.matching ⟨some subject, some (Rdf.ontologyNamespace ++ property), .any⟩).head?) =
      firstStatement? store subject property := by
    rw [Store.matching, List.head?_filter, firstStatement?]
    congr 1
    funext statement
    simp [Rdf.Pattern.fits, Rdf.ObjectPattern.fits]
  rw [Query.firstValue?, same]

/-- What a search looks at is the first name and the first summary. -/
theorem fitsTerm_iff {store : Store} {term subject : String} :
    Query.fitsTerm store term subject = true ↔ IsMentioned store term subject := by
  have one : ∀ property : String,
      (Query.firstValue? store subject (Rdf.ontologyNamespace ++ property)).any (fun value =>
          Text.contains term.toList (Literal.searchChars value.value.toList)) = true ↔
        ∃ statement, firstStatement? store subject property = some statement ∧
          term.toList <:+: (Literal.searchForm statement.object.value).toList := by
    intro property
    simp only [firstValue?_eq, Option.any_map, Option.any_eq_true,
      Literal.searchForm, String.toList_ofList]
    constructor
    · rintro ⟨statement, found, occurs⟩
      exact ⟨statement, found, Text.infix_of_contains occurs⟩
    · rintro ⟨statement, found, stretch⟩
      exact ⟨statement, found, Text.contains_of_infix stretch⟩
  simp only [Query.fitsTerm, Query.searchedPredicates, IsMentioned, Bool.or_eq_true,
    decide_eq_true_eq, List.any_cons, List.any_nil, Bool.or_false, one, List.mem_cons,
    List.not_mem_nil, or_false, exists_eq_or_imp, exists_eq_left]

/-! ### Rows -/

/-- What a name has in a row of the names that have a value. -/
theorem get?_filterMap {α : Type} (value? : String → Option α) (names : List String)
    (name : String) :
    Assoc.get? (names.filterMap fun name => (value? name).map fun value => (name, value)) name =
      if name ∈ names then value? name else none := by
  induction names with
  | nil => rfl
  | cons first later found =>
    rw [Assoc.get?] at found ⊢
    by_cases same : name = first
    · subst same
      rw [if_pos List.mem_cons_self]
      cases given : value? name with
      | none =>
        rw [List.filterMap_cons_none (by rw [given]; rfl), found]
        exact ite_eq_right_iff.mpr fun _ => given
      | some value =>
        rw [List.filterMap_cons_some (by rw [given]; rfl)]
        exact List.lookup_cons_self
    · have others : (name ∈ first :: later) ↔ name ∈ later := by simp [same]
      rw [if_congr others rfl rfl, ← found]
      cases given : value? first with
      | none => rw [List.filterMap_cons_none (by rw [given]; rfl)]
      | some value =>
        rw [List.filterMap_cons_some (by rw [given]; rfl), List.lookup_cons,
          beq_false_of_ne same]

theorem get?_map {α β : Type} (f : α → β) (row : Assoc α) (name : String) :
    Assoc.get? (row.map fun (name, value) => (name, f value)) name = (row.get? name).map f := by
  induction row with
  | nil => rfl
  | cons entry rest found =>
    rw [Assoc.get?] at found ⊢
    rw [Assoc.get?, List.map_cons, List.lookup_cons, List.lookup_cons]
    cases name == entry.1 with
    | true => rfl
    | false => exact found

/-- The value of a variable in a row, or the empty text. -/
theorem boundValue_rowJson (row : Assoc Term) (name : String) :
    boundValue name (Query.rowJson row) = .ok (.str (((row.get? name).map Term.value).getD "")) := by
  have found := get?_map Term.toJson row name
  unfold boundValue Query.rowJson
  rw [Json.member, found]
  cases row.get? name <;> rfl

theorem localIdOf_str (uri : String) : localIdOf (.str uri) = .ok (localId uri) := by
  unfold localIdOf
  split
  · rfl
  · rename_i empty
    have none_ : uri = "" := by
      by_contra given
      exact empty (decide_eq_true given)
    rw [none_]
    rfl

/-- The variables of a figure that a selection asks for. -/
def figureVariables : List String :=
  ["persona", "nombre", "descripcion", "fechaNacimiento", "fechaFallecimiento", "lugarNacimiento",
    "lugarFallecimiento", "nacionalidad", "ocupacion", "imagenReferencia"]

/-- A variable of a row is the value of the first statement for its property. -/
theorem boundValue_namedRow {store : Store} {subject name property : String}
    (asked : name ∈ figureVariables) (other : name ≠ "persona")
    (means : (if name = "descripcion" then "resumen" else name) = property) :
    boundValue name (Query.rowJson (Query.namedRow store figureVariables subject)) =
      .ok (.str (firstText store subject property)) := by
  rw [boundValue_rowJson, Query.namedRow, get?_filterMap, if_pos asked, Query.variableValue?,
    if_neg other, Query.variablePredicate, means, firstValue?_eq, Option.map_map]
  rfl

theorem boundValue_persona (store : Store) (subject : String) :
    boundValue "persona" (Query.rowJson (Query.namedRow store figureVariables subject)) =
      .ok (.str subject) := by
  rw [boundValue_rowJson, Query.namedRow, get?_filterMap, if_pos (by decide), Query.variableValue?,
    if_pos rfl]
  rfl

theorem rowValue_asTheyAre (name : String) (row : Json) :
    rowValue .asTheyAre name row = boundValue name row := by
  unfold rowValue
  cases boundValue name row <;> rfl

/-- The summary of a row goes by the name of a description. -/
theorem summaryOf_namedRow (store : Store) (subject : String) :
    summaryOf .asTheyAre (Query.rowJson (Query.namedRow store figureVariables subject)) =
      .ok (.str (firstText store subject "resumen")) := by
  have absent : boundValue "resumen"
      (Query.rowJson (Query.namedRow store figureVariables subject)) = .ok (.str "") := by
    rw [boundValue_rowJson, Query.namedRow, get?_filterMap, if_neg (by decide)]
    rfl
  rw [summaryOf, rowValue_asTheyAre, rowValue_asTheyAre, absent,
    boundValue_namedRow (by decide) (by decide) (if_pos rfl), ok_bind]
  split
  · rfl
  · rename_i empty
    by_cases given : firstText store subject "resumen" = ""
    · rw [given]
    · exact absurd (decide_eq_true given) empty

/-- **The row of a subject gives the figure that it is.** -/
theorem ofRow_namedRow (store : Store) (subject : String) :
    ofRow .asTheyAre (Query.rowJson (Query.namedRow store figureVariables subject)) =
      .ok (ofSubject store subject) := by
  have value : ∀ name ∈ figureVariables, name ≠ "persona" → name ≠ "descripcion" →
      boundValue name (Query.rowJson (Query.namedRow store figureVariables subject)) =
        .ok (.str (firstText store subject name)) := fun name asked other plain =>
    boundValue_namedRow asked other (if_neg plain)
  simp only [ofRow, rowValue_asTheyAre, boundValue_persona, summaryOf_namedRow, localIdOf_str,
    ok_bind]
  rw [value "nombre" (by decide) (by decide) (by decide),
    value "imagenReferencia" (by decide) (by decide) (by decide),
    value "fechaNacimiento" (by decide) (by decide) (by decide),
    value "fechaFallecimiento" (by decide) (by decide) (by decide),
    value "lugarNacimiento" (by decide) (by decide) (by decide),
    value "lugarFallecimiento" (by decide) (by decide) (by decide),
    value "nacionalidad" (by decide) (by decide) (by decide),
    value "ocupacion" (by decide) (by decide) (by decide)]
  rfl

/-- The rows of the results of a selection. -/
theorem rowsOf_toJson (results : Query.Results) :
    rowsOf results.toJson = .ok (results.rows.map Query.rowJson) := by
  obtain ⟨projection, rows⟩ := results
  cases rows <;> rfl

/-! ### Figures without repetition -/

/-- Subjects are some of others in the same order: those that are wanted and whose identifier is not
that of a wanted one before them. -/
def IsFirstOfEach (wanted : String → Prop) (all kept : List String) : Prop :=
  kept.Sublist all ∧ ∀ before subject after, all = before ++ subject :: after →
    (subject ∈ kept ↔ wanted subject ∧
      ∀ earlier ∈ before, wanted earlier → localId earlier ≠ localId subject)

section Distinct

variable {figureOf : String → Figure} (ids : ∀ subject, (figureOf subject).id = localId subject)
include ids

theorem exists_distinctFrom {subjects : List String} (once : subjects.Nodup) (seen : List String) :
    ∃ kept : List String, distinctFrom seen (subjects.map figureOf) = kept.map figureOf ∧
      kept.Sublist subjects ∧ ∀ before subject after, subjects = before ++ subject :: after →
        (subject ∈ kept ↔ localId subject ∉ seen ∧
          ∀ earlier ∈ before, localId earlier ≠ localId subject) := by
  induction subjects generalizing seen with
  | nil =>
    refine ⟨[], rfl, List.Sublist.refl [], fun before subject after split => ?_⟩
    cases before <;> cases split
  | cons first later found =>
    obtain ⟨new, others⟩ := List.nodup_cons.mp once
    rw [List.map_cons, distinctFrom, ids]
    by_cases known : localId first ∈ seen
    · obtain ⟨kept, same, part, told⟩ := found others seen
      refine ⟨kept, (if_pos known).trans same, part.cons first, fun before subject after split => ?_⟩
      cases before with
      | nil =>
        cases split
        exact iff_of_false (fun member => new (part.subset member)) fun wanted => wanted.1 known
      | cons earlier before =>
        cases split
        rw [told before subject after rfl, List.forall_mem_cons]
        refine and_congr_right fun unknown => (and_iff_right ?_).symm
        exact ne_of_mem_of_not_mem known unknown
    · obtain ⟨kept, same, part, told⟩ := found others (localId first :: seen)
      refine ⟨first :: kept, (if_neg known).trans (congrArg (figureOf first :: ·) same),
        part.cons_cons first, fun before subject after split => ?_⟩
      cases before with
      | nil =>
        cases split
        exact iff_of_true List.mem_cons_self
          ⟨known, fun earlier member => absurd member List.not_mem_nil⟩
      | cons earlier before =>
        cases split
        have different : subject ≠ first := by
          rintro rfl
          exact new (List.mem_append_right before List.mem_cons_self)
        rw [List.mem_cons, or_iff_right different, told before subject after rfl, List.mem_cons,
          not_or, List.forall_mem_cons, and_assoc, and_left_comm, ne_comm, Ne]

/-- **Of figures whose identifiers are the same only the first one is kept.** -/
theorem exists_distinct {wanted : String → Bool} {all : List String} (once : all.Nodup) :
    ∃ kept : List String, distinct ((all.filter wanted).map figureOf) = kept.map figureOf ∧
      IsFirstOfEach (fun subject => wanted subject = true) all kept := by
  obtain ⟨kept, same, part, told⟩ := exists_distinctFrom ids (once.filter wanted) []
  refine ⟨kept, same, part.trans List.filter_sublist, fun before subject after split => ?_⟩
  by_cases here : wanted subject = true
  · have filtered : all.filter wanted = before.filter wanted ++ subject :: after.filter wanted := by
      rw [split, List.filter_append, List.filter_cons_of_pos here]
    rw [told _ subject _ filtered]
    simp [here]
  · refine iff_of_false (fun member => here ?_) fun both => here both.1
    exact (List.mem_filter.mp (part.subset member)).2

end Distinct

end HistoricalFigures.Figure
