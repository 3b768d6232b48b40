import HistoricalFigures.Proofs.Query.Contributions
import HistoricalFigures.Proofs.Rdf.Store

/-!
**Which subjects a selection lists.** A selection takes whatever a statement with the class predicate
connects with the text of the class: a resource of that name and a literal of that text alike.

* `typesFigure`, `namesFigureClass`: statements that make their subject a figure, and statements that
  a selection takes for them.
* `ListsByFirst`: subjects listed in the order of the first statement of such a kind about each.
* `pairwise_eraseDups`: texts without repetition stand in the order of their first statements.
* `TellsByFirst`: every selection tells the wanted subjects in that order.
* `tellsByFirst_select_iff`: which stores tell their figures so.
-/
namespace HistoricalFigures

namespace Rdf

/-! ### First statements -/

/-- The statement says of its subject that it is a historical figure. -/
def typesFigure (statement : Statement) : Bool :=
  statement.predicate = typePredicate && statement.object = .uri figureClass

/-- The statement connects its subject with the text of the class of historical figures. -/
def namesFigureClass (statement : Statement) : Bool :=
  statement.predicate = typePredicate && statement.object.value = figureClass

/-- What makes a subject a figure connects it with the text of the class. -/
theorem namesFigureClass_of_typesFigure {statement : Statement}
    (types : typesFigure statement = true) : namesFigureClass statement = true := by
  simp only [typesFigure, Bool.and_eq_true, decide_eq_true_eq] at types
  simp only [namesFigureClass, Bool.and_eq_true, decide_eq_true_eq]
  exact ⟨types.1, by rw [types.2]; rfl⟩

/-- The number of statements before the first one of a kind about a subject. -/
def firstAbout (typed : Statement → Bool) (statements : List Statement) (subject : String) : Nat :=
  statements.findIdx fun statement => typed statement && statement.subject = subject

/-- Subjects are those that are wanted and that a statement of a kind is about, in the order of the
first such statement about each. -/
structure ListsByFirst (typed : Statement → Bool) (wanted : String → Prop)
    (statements : List Statement) (subjects : List String) : Prop where
  mem_iff : ∀ subject, subject ∈ subjects ↔
    wanted subject ∧ ∃ statement ∈ statements, typed statement = true ∧ statement.subject = subject
  ordered : subjects.Pairwise fun first second =>
    firstAbout typed statements first < firstAbout typed statements second

section First

variable {typed : Statement → Bool} {statement : Statement} {later : List Statement}

theorem firstAbout_cons (subject : String) : firstAbout typed (statement :: later) subject =
    if typed statement = true ∧ statement.subject = subject then 0
    else firstAbout typed later subject + 1 := by
  rw [firstAbout, List.findIdx_cons]
  by_cases about : typed statement = true ∧ statement.subject = subject
  · rw [if_pos about, about.1, about.2]
    simp
  · have other : (typed statement && decide (statement.subject = subject)) = false := by
      simpa using about
    rw [if_neg about, other]
    rfl

/-- **Subjects without repetition stand in the order of their first statements.** -/
theorem pairwise_eraseDups (typed : Statement → Bool) (statements : List Statement) :
    ((statements.filter typed).map Statement.subject).eraseDups.Pairwise fun first second =>
      firstAbout typed statements first < firstAbout typed statements second := by
  induction statements with
  | nil => exact .nil
  | cons statement later found =>
    by_cases counts : typed statement = true
    · rw [List.filter_cons_of_pos counts, List.map_cons, List.eraseDups_cons, ← filter_eraseDups]
      refine List.pairwise_cons.mpr ⟨fun other member => ?_, ?_⟩
      · have different : other ≠ statement.subject := by simpa using (List.mem_filter.mp member).2
        rw [firstAbout_cons, firstAbout_cons, if_pos ⟨counts, rfl⟩,
          if_neg fun about => different about.2.symm]
        exact Nat.succ_pos _
      · refine (found.filter _).imp_of_mem fun {first second} isFirst isSecond before => ?_
        have notFirst : first ≠ statement.subject := by simpa using (List.mem_filter.mp isFirst).2
        have notSecond : second ≠ statement.subject := by simpa using (List.mem_filter.mp isSecond).2
        rw [firstAbout_cons, firstAbout_cons, if_neg fun about => notFirst about.2.symm,
          if_neg fun about => notSecond about.2.symm]
        exact Nat.succ_lt_succ before
    · rw [List.filter_cons_of_neg counts]
      refine found.imp fun {first second} before => ?_
      rw [firstAbout_cons, firstAbout_cons, if_neg fun about => counts about.1,
        if_neg fun about => counts about.1]
      exact Nat.succ_lt_succ before

/-- Subjects that are listed one before the other have their first statements in that order. -/
theorem ListsByFirst.lt_of_lists {wanted : String → Prop} {statements : List Statement}
    {subjects : List String} (lists : ListsByFirst typed wanted statements subjects)
    {other : Statement → Bool} {wanted' : String → Prop}
    (lists' : ListsByFirst other wanted' statements subjects) {first second : String}
    (isFirst : first ∈ subjects) (isSecond : second ∈ subjects)
    (before : firstAbout typed statements first < firstAbout typed statements second) :
    firstAbout other statements first < firstAbout other statements second := by
  have pairs := lists.ordered.and lists'.ordered
  have told := List.pairwise_iff_getElem.mp pairs
  obtain ⟨i, inFirst, rfl⟩ := List.mem_iff_getElem.mp isFirst
  obtain ⟨j, inSecond, rfl⟩ := List.mem_iff_getElem.mp isSecond
  rcases Nat.lt_trichotomy i j with earlier | same | later
  · exact (told i j inFirst inSecond earlier).2
  · subst same
    exact absurd before (Nat.lt_irrefl _)
  · exact absurd before (Nat.lt_asymm (told j i inSecond inFirst later).1)

end First

/-- What connects something with the text of the class. -/
theorem matching_figureClass (store : Store) :
    store.matching ⟨none, some typePredicate, .value figureClass⟩ =
      store.statements.filter namesFigureClass := by
  refine List.filter_congr fun statement _ => ?_
  simp [Pattern.fits, ObjectPattern.fits, namesFigureClass]

/-- The instances of the class of figures are listed by the statements that connect them with its
text. -/
theorem listsByFirst_subjectsOfType (store : Store) (p : String → Bool) :
    ListsByFirst namesFigureClass (fun subject => subject ≠ figureClass ∧ p subject = true)
      store.statements ((store.subjectsOfType figureClass typePredicate).filter p) := by
  have listed : (store.subjectsOfType figureClass typePredicate).filter p =
      (((store.statements.filter namesFigureClass).map Statement.subject).eraseDups.filter
        (· ≠ figureClass)).filter p := by
    rw [Store.subjectsOfType, matching_figureClass, ← filter_eraseDups]
  rw [listed]
  refine ⟨fun subject => ?_, ((pairwise_eraseDups _ _).filter _).filter _⟩
  simp only [List.mem_filter, List.mem_eraseDups, List.mem_map, decide_eq_true_eq]
  constructor
  · rintro ⟨⟨⟨statement, ⟨member, names⟩, about⟩, different⟩, wanted⟩
    exact ⟨⟨different, wanted⟩, statement, member, names, about⟩
  · rintro ⟨⟨different, wanted⟩, statement, member, names, about⟩
    exact ⟨⟨⟨statement, ⟨member, names⟩, about⟩, different⟩, wanted⟩

end Rdf

namespace Query

open Rdf (ListsByFirst Store Term firstAbout namesFigureClass typesFigure)

/-! ### What a selection lists -/

/-- A subject is wanted by a selection: it is not the class itself, it is the subject that is asked
for, if any, and it fits the search term. -/
def IsWanted (store : Store) (searchTerm : String) (asked : Option String) (subject : String) : Prop :=
  subject ≠ Rdf.figureClass ∧ (∀ given, asked = some given → subject = given) ∧
    fitsTerm store searchTerm subject = true

/-- Every selection tells the wanted subjects of statements of a kind, in the order of the first such
statement about each. -/
def TellsByFirst (typed : Rdf.Statement → Bool) (store : Store) : Prop :=
  ∀ projection searchTerm asked, ∃ subjects,
    ListsByFirst typed (IsWanted store searchTerm asked) store.statements subjects ∧
      (select projection searchTerm asked store).rows =
        subjects.flatMap (rowsFor projection searchTerm asked store)

/-- Every subject that the text of the class is written about is said to be a figure, and the first
statements that say so stand in the order of the first ones that have the text. -/
structure IsTypedAlike (store : Store) : Prop where
  typed : ∀ statement ∈ store.statements, namesFigureClass statement = true →
    statement.subject ≠ Rdf.figureClass →
      ∃ other ∈ store.statements, typesFigure other = true ∧ other.subject = statement.subject
  ordered : ∀ first ∈ store.subjectsOfType Rdf.figureClass Rdf.typePredicate,
    ∀ second ∈ store.subjectsOfType Rdf.figureClass Rdf.typePredicate,
      firstAbout namesFigureClass store.statements first <
          firstAbout namesFigureClass store.statements second →
        firstAbout typesFigure store.statements first < firstAbout typesFigure store.statements second

variable (store : Store)

/-- The subjects that a selection tells. -/
def toldSubjects (searchTerm : String) (asked : Option String) : List String :=
  (candidates store asked).filter (fitsTerm store searchTerm)

theorem listsByFirst_toldSubjects (searchTerm : String) (asked : Option String) :
    ListsByFirst namesFigureClass (IsWanted store searchTerm asked) store.statements
      (toldSubjects store searchTerm asked) := by
  have lists := Rdf.listsByFirst_subjectsOfType store fun candidate =>
    fitsTerm store searchTerm candidate && asked.all (candidate = ·)
  have same : toldSubjects store searchTerm asked =
      (store.subjectsOfType Rdf.figureClass Rdf.typePredicate).filter fun candidate =>
        fitsTerm store searchTerm candidate && asked.all (candidate = ·) := by
    rw [toldSubjects, candidates, List.filter_filter]
  rw [same]
  refine ⟨fun subject => ?_, lists.ordered⟩
  rw [lists.mem_iff, IsWanted]
  cases asked <;> simp [and_comm]

/-- **A selection tells whatever the text of the class is written about.** -/
theorem tellsByFirst_namesFigureClass : TellsByFirst namesFigureClass store := fun _ _ _ =>
  ⟨_, listsByFirst_toldSubjects store _ _, rows_select_eq _ _ _ _⟩

/-- The rows of a selection of subjects tell them. -/
theorem eq_of_flatMap_rowsFor {first second : List String}
    (same : first.flatMap (rowsFor ["persona"] "" none store) =
      second.flatMap (rowsFor ["persona"] "" none store)) : first = second := by
  have row : ∀ subjects : List String, subjects.flatMap (rowsFor ["persona"] "" none store) =
      subjects.map fun subject => [("persona", Term.uri subject)] :=
    fun subjects => List.map_eq_flatMap.symm
  rw [row, row] at same
  refine List.map_injective_iff.mpr (fun left right rows => ?_) same
  exact congrArg Term.value (Prod.mk.inj (List.cons.inj rows).1).2

variable {store}

/-- Where the text of the class is written about figures alone, a selection tells the figures. -/
theorem IsTypedAlike.tellsByFirst (alike : IsTypedAlike store) : TellsByFirst typesFigure store := by
  intro projection searchTerm asked
  have lists := listsByFirst_toldSubjects store searchTerm asked
  have isInstance : ∀ subject ∈ toldSubjects store searchTerm asked,
      subject ∈ store.subjectsOfType Rdf.figureClass Rdf.typePredicate := fun subject member =>
    (List.mem_filter.mp (List.mem_filter.mp member).1).1
  refine ⟨_, ⟨fun subject => ?_, ?_⟩, rows_select_eq _ _ _ _⟩
  · refine (lists.mem_iff subject).trans (and_congr_right fun wanted => ⟨?_, ?_⟩)
    · rintro ⟨statement, member, names, rfl⟩
      exact alike.typed statement member names wanted.1
    · rintro ⟨statement, member, types, about⟩
      exact ⟨statement, member, Rdf.namesFigureClass_of_typesFigure types, about⟩
  · exact lists.ordered.imp_of_mem fun isFirst isSecond before =>
      alike.ordered _ (isInstance _ isFirst) _ (isInstance _ isSecond) before

/-- Where a selection of all subjects tells the figures, the text of the class is written about them
alone. -/
theorem isTypedAlike_of_tellsByFirst (tells : TellsByFirst typesFigure store) :
    IsTypedAlike store := by
  obtain ⟨subjects, lists, rows⟩ := tells ["persona"] "" none
  obtain rfl : toldSubjects store "" none = subjects := by
    rw [rows_select_eq] at rows
    exact eq_of_flatMap_rowsFor store rows
  have byText := listsByFirst_toldSubjects store "" none
  have everything : toldSubjects store "" none =
      store.subjectsOfType Rdf.figureClass Rdf.typePredicate := by
    rw [toldSubjects, candidates, List.filter_filter]
    exact List.filter_eq_self.mpr fun _ _ => rfl
  constructor
  · intro statement member names different
    have wanted : IsWanted store "" none statement.subject := by
      refine ⟨different, fun given asked => ?_, rfl⟩
      cases asked
    have told := (byText.mem_iff _).mpr ⟨wanted, statement, member, names, rfl⟩
    exact ((lists.mem_iff _).mp told).2
  · intro first isFirst second isSecond before
    rw [← everything] at isFirst isSecond
    exact byText.lt_of_lists lists isFirst isSecond before

/-- **Which subjects a selection tells**: those that the text of the class is written about, whether
as a resource or as a literal, in the order of the first such statements. They are the figures, in
the order of the statements that make them figures, exactly if every one of them is also said to be
a figure, and first so in that order. -/
theorem tellsByFirst_select_iff (store : Store) :
    TellsByFirst namesFigureClass store ∧
      (TellsByFirst typesFigure store ↔ IsTypedAlike store) :=
  ⟨tellsByFirst_namesFigureClass store, isTypedAlike_of_tellsByFirst, IsTypedAlike.tellsByFirst⟩

/-- A subject whose class is a literal. -/
def literalClass : Store where
  statements := [⟨"http://a/x", Rdf.typePredicate, .plain Rdf.figureClass⟩]
  nodup := by decide
  complete := by decide

/-- A literal of the text of the class makes its subject an instance. -/
theorem not_tellsByFirst_of_literalClass : ¬ TellsByFirst typesFigure literalClass ∧
    (select ["persona"] "" none literalClass).rows = [[("persona", .uri "http://a/x")]] := by
  refine ⟨fun tells => ?_, by decide⟩
  obtain ⟨statement, member, types, _⟩ := (isTypedAlike_of_tellsByFirst tells).typed _
    List.mem_cons_self (by decide) (by decide)
  rw [literalClass, List.mem_singleton] at member
  subst member
  exact absurd types (by decide)

end Query

end HistoricalFigures
