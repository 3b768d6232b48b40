import HistoricalFigures.Proofs.Rdf.History
import HistoricalFigures.Query.Evaluation
import Mathlib.Data.List.Nodup

/-!
**What is written about one subject does not disturb what a selection tells of the others.**

* `Change.IsAbout`: all that a change adds or removes has one subject.
* `others`, `others_run`: the statements of all other subjects, which such changes leave as they are.
* `rowsOf`, `contributions`: what each candidate contributes to the rows of a selection.
* `rows_select`: the rows of a selection are what its candidates contribute, one after the other.
* `contributions_run`: what the other candidates contribute stays the same, in the same order.
-/
namespace HistoricalFigures

namespace Rdf

/-! ### The statements of other subjects -/

/-- All that an event adds or removes has a subject. -/
def Event.IsAbout (subject : String) : Event → Prop
  | added statement => statement.subject = subject
  | removed pattern => pattern.subject = some subject

/-- All that a change adds or removes has a subject. What is refused need not have it. -/
def Change.IsAbout (subject : String) : Change → Prop
  | add statement => ∀ given, statement = some given → given.subject = subject
  | addAll statements => ∀ given, some given ∈ statements → given.subject = subject
  | removeAll pattern => pattern.subject = some subject

/-- The statements that do not have a subject. -/
def others (subject : String) (statements : List Statement) : List Statement :=
  statements.filter fun statement => statement.subject ≠ subject

variable {subject : String}

/-- What fits a pattern has the subject that it asks for. -/
theorem Pattern.subject_of_fits {pattern : Pattern} {statement : Statement}
    (asks : pattern.subject = some subject) (fits : pattern.fits statement = true) :
    statement.subject = subject :=
  (fits_eq_true.mp fits).1 subject asks

/-- An event about a subject leaves the statements of all others as they are. -/
theorem others_apply {event : Event} (about : event.IsAbout subject) (statements : List Statement) :
    others subject (event.apply statements) = others subject statements := by
  cases event with
  | added statement =>
    have same : statement.subject = subject := about
    rw [Event.apply]
    split
    · rfl
    · rw [others, List.filter_append, List.filter_cons_of_neg (by simp [same]), List.filter_nil,
        List.append_nil, others]
  | removed pattern =>
    rw [Event.apply, others, List.filter_filter, others]
    refine List.filter_congr fun statement _ => ?_
    by_cases fits : pattern.fits statement = true
    · have same := Pattern.subject_of_fits about fits
      simp [same]
    · simp [fits]

theorem mem_of_mem_accepted {statements : List (Option Statement)} {statement : Statement}
    (member : statement ∈ accepted statements) : some statement ∈ statements := by
  induction statements with
  | nil => exact absurd member List.not_mem_nil
  | cons first later found =>
    cases first with
    | none => exact absurd member List.not_mem_nil
    | some given =>
      rw [accepted] at member
      split at member
      · exact (List.mem_cons.mp member).elim (fun same => same ▸ List.mem_cons_self) fun behind =>
          List.mem_cons_of_mem _ (found behind)
      · exact absurd member List.not_mem_nil

/-- What happens in a change about a subject is about it. -/
theorem Change.isAbout_of_mem_events {change : Change} (about : change.IsAbout subject) :
    ∀ event ∈ change.events, event.IsAbout subject := by
  have additions : ∀ statements : List (Option Statement),
      (∀ given, some given ∈ statements → given.subject = subject) →
        ∀ event ∈ (accepted statements).map Event.added, event.IsAbout subject := by
    intro statements each event member
    obtain ⟨statement, inside, rfl⟩ := List.mem_map.mp member
    exact each statement (mem_of_mem_accepted inside)
  cases change with
  | add statement =>
    exact additions [statement] fun given member => about given (List.mem_singleton.mp member).symm
  | addAll statements => exact additions statements about
  | removeAll pattern =>
    intro event member
    rw [List.mem_singleton.mp member]
    exact about

/-- Events about a subject leave the statements of all others as they are. -/
theorem others_foldl {events : List Event} (about : ∀ event ∈ events, event.IsAbout subject)
    (statements : List Statement) :
    others subject (events.foldl Event.apply statements) = others subject statements := by
  induction events generalizing statements with
  | nil => rfl
  | cons event later found =>
    obtain ⟨here, behind⟩ := List.forall_mem_cons.mp about
    rw [List.foldl_cons, found behind, others_apply here]

/-- **Changes about a subject leave the statements of all others as they are.** -/
theorem others_run {changes : List Change} (about : ∀ change ∈ changes, change.IsAbout subject)
    (store : Store) :
    others subject (changes.foldl Change.apply store).statements = others subject store.statements := by
  induction changes generalizing store with
  | nil => rfl
  | cons change later found =>
    obtain ⟨here, behind⟩ := List.forall_mem_cons.mp about
    rw [List.foldl_cons, found behind, statements_apply,
      others_foldl (change.isAbout_of_mem_events here)]

/-! ### What is told of another subject -/

/-- Texts that are left out may be left out before or behind the repetitions. -/
theorem filter_eraseDups (p : String → Bool) (texts : List String) :
    texts.eraseDups.filter p = (texts.filter p).eraseDups := by
  induction size : texts.length using Nat.strongRecOn generalizing texts with
  | ind number found =>
    cases texts with
    | nil => rfl
    | cons first later =>
      subst size
      have shorter := Nat.lt_succ_of_le (List.length_filter_le (fun text => !text == first) later)
      rw [List.eraseDups_cons]
      by_cases kept : p first = true
      · rw [List.filter_cons_of_pos kept, List.filter_cons_of_pos kept, List.eraseDups_cons,
          found _ shorter _ rfl, List.filter_filter, List.filter_filter]
        simp only [Bool.and_comm]
      · rw [List.filter_cons_of_neg kept, List.filter_cons_of_neg kept, found _ shorter _ rfl,
          List.filter_filter]
        congr 1
        refine List.filter_congr fun text _ => ?_
        by_cases again : text = first
        · simp [again, kept]
        · simp [again]

section Told

variable {first second : Store} (same : others subject first.statements = others subject second.statements)
include same

/-- What is found for another subject is the same. -/
theorem matching_eq_of_others {other : String} (different : other ≠ subject) {pattern : Pattern}
    (asks : pattern.subject = some other) : first.matching pattern = second.matching pattern := by
  have within : ∀ store : Store,
      store.matching pattern = (others subject store.statements).filter pattern.fits := by
    intro store
    rw [Store.matching, others, List.filter_filter]
    refine List.filter_congr fun statement _ => ?_
    by_cases fits : pattern.fits statement = true
    · simp [fits, Pattern.subject_of_fits asks fits, different]
    · simp [fits]
  rw [within, within, same]

/-- The other instances of a class are the same, in the same order. -/
theorem subjectsOfType_eq_of_others (className predicate : String) :
    (first.subjectsOfType className predicate).filter (· ≠ subject) =
      (second.subjectsOfType className predicate).filter (· ≠ subject) := by
  have within : ∀ store : Store, (store.subjectsOfType className predicate).filter (· ≠ subject) =
      ((((others subject store.statements).filter
        (Pattern.fits ⟨none, some predicate, .value className⟩)).map Statement.subject).filter
          (· ≠ className)).eraseDups := by
    intro store
    rw [Store.subjectsOfType, filter_eraseDups, Store.matching, others, List.filter_filter,
      List.filter_filter, List.filter_map, List.filter_map, List.filter_filter, List.filter_filter]
    congr 3
    funext statement
    simp only [Function.comp_apply, Bool.and_assoc, Bool.and_comm, Bool.and_left_comm]
  rw [within, within, same]

end Told

end Rdf

theorem flatMap_filter {α β : Type} (p : α → Bool) (f : α → List β) (inputs : List α) :
    (inputs.filter p).flatMap f = inputs.flatMap fun input => if p input then f input else [] := by
  induction inputs with
  | nil => rfl
  | cons first later found =>
    rw [List.flatMap_cons, ← found]
    by_cases kept : p first = true
    · rw [List.filter_cons_of_pos kept, List.flatMap_cons, if_pos kept]
    · rw [List.filter_cons_of_neg kept, if_neg kept, List.nil_append]

namespace Query

open Rdf (Change Store Term)

/-! ### Contributions -/

/-- The rows that a candidate contributes: those of the same selection for this subject alone. -/
def rowsOf (projection : List String) (searchTerm : String) (store : Store) (candidate : String) :
    List (Assoc Term) :=
  (select projection searchTerm (some candidate) store).rows

/-- The candidates of a selection, one after the other, each with the rows that it contributes. -/
def contributions (projection : List String) (searchTerm : String) (subject : Option String)
    (store : Store) : List (String × List (Assoc Term)) :=
  (candidates store subject).map fun candidate =>
    (candidate, rowsOf projection searchTerm store candidate)

section Rows

variable (projection : List String) (searchTerm : String) (subject : Option String) (store : Store)

/-- The rows of a subject that fits the search term. -/
def rowsFor (candidate : String) : List (Assoc Term) :=
  if (Body.select projection searchTerm subject).describes then describedRows store candidate
  else [namedRow store projection candidate]

theorem rows_select_eq : (select projection searchTerm subject store).rows =
    ((candidates store subject).filter (fitsTerm store searchTerm)).flatMap
      (rowsFor projection searchTerm subject store) := by
  unfold select rowsFor
  split
  · rfl
  · exact List.map_eq_flatMap

/-- Each candidate is told once. -/
theorem nodup_candidates : (candidates store subject).Nodup :=
  (Store.nodup_subjectsOfType store _ _).filter _

variable {subject store} {candidate : String}

/-- A candidate is the only one of the same selection for it alone. -/
theorem candidates_some (member : candidate ∈ candidates store subject) :
    candidates store (some candidate) = [candidate] := by
  have instance_ := (List.mem_filter.mp member).1
  have once := List.count_eq_one_of_mem (Store.nodup_subjectsOfType store _ _) instance_
  have alike := List.filter_beq candidate (l := store.subjectsOfType Rdf.figureClass Rdf.typePredicate)
  rw [once, List.replicate_one] at alike
  rw [← alike, candidates]
  exact List.filter_congr fun other _ => rfl

/-- The same selection for one subject alone has no other candidate. -/
theorem eq_of_mem_candidates_some {other : String} (member : candidate ∈ candidates store (some other)) :
    candidate = other := by
  simpa using (List.mem_filter.mp member).2

theorem rowsOf_of_mem (member : candidate ∈ candidates store subject) :
    rowsOf projection searchTerm store candidate =
      if fitsTerm store searchTerm candidate then
        rowsFor projection searchTerm subject store candidate else [] := by
  rw [rowsOf, rows_select_eq, candidates_some member, flatMap_filter, List.flatMap_singleton]
  rfl

/-- **The rows of a selection are what its candidates contribute**, one after the other. -/
theorem rows_select : (select projection searchTerm subject store).rows =
    (contributions projection searchTerm subject store).flatMap Prod.snd := by
  rw [rows_select_eq, flatMap_filter, contributions, List.flatMap_map]
  refine List.flatMap_congr fun candidate member => ?_
  exact (rowsOf_of_mem projection searchTerm member).symm

variable {projection searchTerm}

/-- In a selection of values each candidate contributes one row at most. -/
theorem length_rowsOf_le (names : (Body.select projection searchTerm subject).describes = false)
    (member : candidate ∈ candidates store subject) :
    (rowsOf projection searchTerm store candidate).length ≤ 1 := by
  rw [rowsOf_of_mem projection searchTerm member]
  split
  · rw [rowsFor, if_neg (by rw [names]; exact Bool.false_ne_true)]
    exact Nat.le_refl 1
  · exact Nat.zero_le 1

end Rows

/-! ### What other candidates contribute -/

section Told

variable {subject : String} {first second : Store}
  (same : Rdf.others subject first.statements = Rdf.others subject second.statements)
include same

/-- The other candidates are the same, in the same order. -/
theorem candidates_eq_of_others (asked : Option String) :
    (candidates first asked).filter (· ≠ subject) = (candidates second asked).filter (· ≠ subject) := by
  have instances := Rdf.subjectsOfType_eq_of_others same Rdf.figureClass Rdf.typePredicate
  have swap : ∀ store : Store, (candidates store asked).filter (· ≠ subject) =
      ((store.subjectsOfType Rdf.figureClass Rdf.typePredicate).filter (· ≠ subject)).filter
        fun candidate => asked.all (candidate = ·) := by
    intro store
    rw [candidates, List.filter_filter, List.filter_filter]
    simp only [Bool.and_comm]
  rw [swap, swap, instances]

variable {other : String} (different : other ≠ subject)
include different

theorem firstValue?_eq_of_others (predicate : String) :
    firstValue? first other predicate = firstValue? second other predicate := by
  rw [firstValue?, Rdf.matching_eq_of_others same different rfl, firstValue?]

theorem fitsTerm_eq_of_others (searchTerm : String) :
    fitsTerm first searchTerm other = fitsTerm second searchTerm other := by
  simp only [fitsTerm, firstValue?_eq_of_others same different]

theorem rowsFor_eq_of_others (projection : List String) (searchTerm : String) (asked : Option String) :
    rowsFor projection searchTerm asked first other =
      rowsFor projection searchTerm asked second other := by
  have values : namedRow first projection other = namedRow second projection other := by
    simp only [namedRow, variableValue?, firstValue?_eq_of_others same different]
  have described : describedRows first other = describedRows second other := by
    rw [describedRows, Rdf.matching_eq_of_others same different rfl, describedRows]
  rw [rowsFor, values, described, rowsFor]

/-- Another candidate contributes the same rows. -/
theorem rowsOf_eq_of_others (projection : List String) (searchTerm : String) :
    rowsOf projection searchTerm first other = rowsOf projection searchTerm second other := by
  have alone : ∀ store : Store, candidates store (some other) =
      (candidates store (some other)).filter (· ≠ subject) := by
    intro store
    refine (List.filter_eq_self.mpr fun candidate member => ?_).symm
    simpa [eq_of_mem_candidates_some member] using different
  have sameCandidates : candidates first (some other) = candidates second (some other) := by
    rw [alone first, alone second, candidates_eq_of_others same]
  rw [rowsOf, rowsOf, rows_select_eq, rows_select_eq, flatMap_filter, flatMap_filter, sameCandidates]
  refine List.flatMap_congr fun candidate member => ?_
  rw [eq_of_mem_candidates_some member, fitsTerm_eq_of_others same different, rowsFor_eq_of_others same different]

end Told

/-- **What is written about one subject does not disturb what a selection tells of the others.** The
rows are what the candidates contribute, each candidate once, and before and behind changes about a
subject all other candidates contribute the same rows in the same order. In a selection of values a
candidate contributes one row at most. -/
theorem contributions_run {changes : List Change} {subject : String}
    (about : ∀ change ∈ changes, change.IsAbout subject) (store : Store) (projection : List String)
    (searchTerm : String) (asked : Option String) :
    let changed := changes.foldl Change.apply store
    let told := contributions projection searchTerm asked
    ((told changed).filter fun candidate => candidate.1 ≠ subject) =
        ((told store).filter fun candidate => candidate.1 ≠ subject) ∧
      ∀ either ∈ [store, changed],
        (select projection searchTerm asked either).rows = (told either).flatMap Prod.snd ∧
        ((told either).map Prod.fst).Nodup ∧
        ((Body.select projection searchTerm asked).describes = false →
          ∀ candidate ∈ told either, candidate.2.length ≤ 1) := by
  intro changed told
  have same : Rdf.others subject changed.statements = Rdf.others subject store.statements :=
    Rdf.others_run about store
  refine ⟨?_, fun either _ => ⟨rows_select projection searchTerm, ?_, fun names => ?_⟩⟩
  · have kept : ∀ either : Store, ((told either).filter fun candidate => candidate.1 ≠ subject) =
        ((candidates either asked).filter (· ≠ subject)).map fun candidate =>
          (candidate, rowsOf projection searchTerm either candidate) :=
      fun either => List.filter_map
    rw [kept, kept, candidates_eq_of_others same]
    refine List.map_congr_left fun candidate member => ?_
    have different : candidate ≠ subject := by simpa using (List.mem_filter.mp member).2
    rw [rowsOf_eq_of_others same different]
  · have names : (told either).map Prod.fst = candidates either asked := by
      simp only [told, contributions, List.map_map, Function.comp_def, List.map_id']
    rw [names]
    exact nodup_candidates asked either
  · rintro ⟨candidate, rows⟩ member
    obtain ⟨_, inside, same⟩ := List.mem_map.mp member
    cases same
    exact length_rowsOf_le names inside

/-- Two historical figures of one name. -/
def twoFigures : Store :=
  (Store.empty.addAll (["x:ana", "x:luis"].flatMap fun figure =>
    [some ⟨figure, Rdf.typePredicate, .uri Rdf.figureClass⟩,
      some ⟨figure, Rdf.ontologyNamespace ++ "nombre", .plain "Murillo"⟩])).1

/-- The first of two figures is given another name and then removed, between statements that are
refused. -/
def renamedThenRemoved : List Change :=
  [.addAll [some ⟨"x:ana", Rdf.ontologyNamespace ++ "nombre", .plain "Ana"⟩, none],
    .removeAll ⟨some "x:ana", none, .any⟩, .add (some ⟨"x:ana", "", .plain "Ana"⟩)]

/-- The other figure is told as before, and the changes are about the first. -/
theorem contributions_run_of_renaming :
    (∀ change ∈ renamedThenRemoved, change.IsAbout "x:ana") ∧
      let changed := renamedThenRemoved.foldl Change.apply twoFigures
      let told := contributions ["persona", "nombre"] "murillo" none
      (((told changed).filter fun candidate => candidate.1 ≠ "x:ana") =
          ((told twoFigures).filter fun candidate => candidate.1 ≠ "x:ana") ∧
        ∀ either ∈ [twoFigures, changed],
          (select ["persona", "nombre"] "murillo" none either).rows =
              (told either).flatMap Prod.snd ∧
            ((told either).map Prod.fst).Nodup ∧
            ((Body.select ["persona", "nombre"] "murillo" none).describes = false →
              ∀ candidate ∈ told either, candidate.2.length ≤ 1)) ∧
        (told twoFigures).map Prod.fst = ["x:ana", "x:luis"] ∧
          told changed = [("x:luis", [[("persona", .uri "x:luis"), ("nombre", .plain "Murillo")]])] := by
  have about : ∀ change ∈ renamedThenRemoved, change.IsAbout "x:ana" := by
    simp [renamedThenRemoved, Change.IsAbout]
  exact ⟨about, contributions_run about _ _ _ _, by decide +kernel, by decide +kernel⟩

end Query

end HistoricalFigures
