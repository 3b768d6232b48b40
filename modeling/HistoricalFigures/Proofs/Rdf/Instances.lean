import HistoricalFigures.Proofs.Query.Atomicity
import HistoricalFigures.Proofs.Query.Candidates
import Mathlib.Data.List.Dedup

/-!
**Statements that are added to others add their instances**, each once and behind those that were there.

* `eraseDups_append_left`, `eraseDups_append_right`, `eraseDups_append_of_subset`,
  `eraseDups_append_of_disjoint`: texts without repetition, one list behind another.
* `length_eraseDups_eq_iff`: how many different texts there are.
* `instances`: the instances of the class of figures that statements tell.
* `instances_apply_added`: one more statement.
* `instances_joined`: any number of them.
* `instances_eraseDups`: statements of which repetitions are left out.
-/
namespace HistoricalFigures.Rdf

/-! ### Texts without repetition -/

section Texts

variable {first second : List String}

theorem eraseDups_of_nodup (once : first.Nodup) : first.eraseDups = first := by
  induction first with
  | nil => rfl
  | cons text later found =>
    obtain ⟨new, others⟩ := List.nodup_cons.mp once
    have kept : later.filter (fun other => !other == text) = later := by
      refine List.filter_eq_self.mpr fun other member => ?_
      simp [ne_of_mem_of_not_mem member new]
    rw [List.eraseDups_cons, kept, found others]

/-- Of the first texts repetitions may be left out before or after others are put behind them. -/
theorem eraseDups_append_left : (first.eraseDups ++ second).eraseDups = (first ++ second).eraseDups := by
  have rest : second.removeAll first.eraseDups = second.removeAll first := by
    refine List.filter_congr fun text _ => ?_
    simp [List.mem_eraseDups]
  rw [List.eraseDups_append, List.eraseDups_append, rest,
    eraseDups_of_nodup (Store.nodup_eraseDups first)]

theorem eraseDups_append_right :
    (first ++ second.eraseDups).eraseDups = (first ++ second).eraseDups := by
  have rest : second.eraseDups.removeAll first = (second.removeAll first).eraseDups :=
    filter_eraseDups _ second
  rw [List.eraseDups_append, List.eraseDups_append, rest, eraseDups_of_nodup (Store.nodup_eraseDups _)]

/-- Texts that are there already add nothing. -/
theorem eraseDups_append_of_subset (known : second ⊆ first) :
    (first ++ second).eraseDups = first.eraseDups := by
  have nothing : second.removeAll first = [] := by
    refine List.filter_eq_nil_iff.mpr fun text member => ?_
    simp [known member]
  rw [List.eraseDups_append, nothing, List.eraseDups_nil, List.append_nil]

theorem length_eraseDups (texts : List String) : texts.eraseDups.length = texts.dedup.length := by
  have same : texts.eraseDups.Perm texts.dedup := by
    refine (List.perm_ext_iff_of_nodup (Store.nodup_eraseDups texts) texts.nodup_dedup).mpr fun text => ?_
    rw [List.mem_eraseDups, List.mem_dedup]
  exact same.length_eq

/-- **There are as many different texts as there are texts exactly if none is repeated.** -/
theorem length_eraseDups_eq_iff (texts : List String) :
    texts.eraseDups.length = texts.length ↔ texts.Nodup := by
  rw [length_eraseDups, ← List.dedup_eq_self]
  exact ⟨(List.dedup_sublist texts).eq_of_length, congrArg List.length⟩

/-- Texts of which none is there stand behind those that are. -/
theorem eraseDups_append_of_disjoint (once : first.Nodup) (new : ∀ text ∈ second, text ∉ first) :
    (first ++ second).eraseDups = first ++ second.eraseDups := by
  have all : second.removeAll first = second := by
    refine List.filter_eq_self.mpr fun text member => ?_
    simp [new text member]
  rw [List.eraseDups_append, all, eraseDups_of_nodup once]

end Texts

/-! ### Instances -/

/-- What is there after statements are added was there before or was added. -/
theorem mem_joined {statements added : List Statement} {statement : Statement} :
    statement ∈ joined statements added ↔ statement ∈ statements ∨ statement ∈ added := by
  rw [joined, List.mem_append, List.mem_eraseDups, List.mem_filter]
  by_cases known : statement ∈ statements <;> simp [known]

/-- The instances of the class of figures that statements tell. -/
def instances (statements : List Statement) : List String :=
  (((statements.filter namesFigureClass).map Statement.subject).filter (· ≠ figureClass)).eraseDups

theorem subjectsOfType_figureClass (store : Store) :
    store.subjectsOfType figureClass typePredicate = instances store.statements := by
  rw [Store.subjectsOfType, matching_figureClass]
  rfl

theorem instances_append (statements later : List Statement) :
    instances (statements ++ later) = (instances statements ++ instances later).eraseDups := by
  rw [instances, List.filter_append, List.map_append, List.filter_append, instances, instances,
    eraseDups_append_left, eraseDups_append_right]

/-- What statements tell of instances is told by more statements as well. -/
theorem instances_subset {statements others : List Statement} (among : statements ⊆ others) :
    instances statements ⊆ instances others := by
  intro subject member
  rw [instances, List.mem_eraseDups, List.mem_filter, List.mem_map] at member ⊢
  obtain ⟨⟨statement, named, same⟩, other⟩ := member
  obtain ⟨inside, names⟩ := List.mem_filter.mp named
  exact ⟨⟨statement, List.mem_filter.mpr ⟨among inside, names⟩, same⟩, other⟩

/-- One more statement adds its instance, unless it is there. -/
theorem instances_apply_added (statements : List Statement) (statement : Statement) :
    instances ((Event.added statement).apply statements) =
      (instances statements ++ instances [statement]).eraseDups := by
  rw [Event.apply]
  split
  · rename_i known
    have among : instances [statement] ⊆ instances statements :=
      instances_subset fun other member => List.mem_singleton.mp member ▸ known
    rw [eraseDups_append_of_subset among]
    exact (eraseDups_of_nodup (Store.nodup_eraseDups _)).symm
  · exact instances_append statements [statement]

/-- **Statements that are added add their instances**, each once and behind those that were there. -/
theorem instances_joined (statements added : List Statement) :
    instances (joined statements added) = (instances statements ++ instances added).eraseDups := by
  rw [← foldl_added]
  induction added generalizing statements with
  | nil =>
    change instances statements = (instances statements ++ []).eraseDups
    rw [List.append_nil]
    exact (eraseDups_of_nodup (Store.nodup_eraseDups _)).symm
  | cons statement later found =>
    have whole := instances_append [statement] later
    rw [List.singleton_append] at whole
    rw [List.map_cons, List.foldl_cons, found, instances_apply_added, eraseDups_append_left, whole,
      eraseDups_append_right, List.append_assoc]

/-- Statements that are told again tell of no other instances. -/
theorem instances_eraseDups (statements : List Statement) :
    instances statements.eraseDups = instances statements := by
  have joins : joined [] statements = statements.eraseDups := by simp [joined]
  have whole := instances_joined [] statements
  rw [joins] at whole
  exact whole.trans (eraseDups_of_nodup (Store.nodup_eraseDups _))

end HistoricalFigures.Rdf
