import HistoricalFigures.Rdf.Store

/-!
**What adding statements gives.**

* `mem_addAll`: what is in a store afterwards was there before or was added.
* `mem_of_addAll`: what was there before or was added is in the store afterwards.
* `addAll_eq_append`: new statements stand at the end, in the order in which they were added.
* `ofStatements_statements`: the statements of a store make that store.
* `ofStatements_eq`: complete statements make a store.
* `nodup_subjectsOfType`: the instances of a class are told once each.
-/
namespace HistoricalFigures.Rdf.Store

theorem ext_statements {first second : Store} (same : first.statements = second.statements) :
    first = second := by
  cases first
  cases second
  obtain rfl : _ = _ := same
  rfl

/-- What is in a store after adding a statement was there before or was added. -/
theorem mem_add {store grown : Store} {statement : Statement} {new : Bool}
    (adds : store.add (some statement) = .ok (grown, new)) {other : Statement}
    (member : other ∈ grown.statements) : other ∈ store.statements ∨ other = statement := by
  rw [add] at adds
  split at adds
  · split at adds
    · cases adds
      rcases List.mem_append.mp member with old | last
      · exact .inl old
      · exact .inr (List.mem_singleton.mp last)
    · cases adds
      exact .inl member
  · cases adds

/-- **What is in a store after adding statements was there before or was added.** -/
theorem mem_addAll {store : Store} {statements : List Statement} {other : Statement}
    (member : other ∈ (store.addAll (statements.map some)).1.statements) :
    other ∈ store.statements ∨ other ∈ statements := by
  induction statements generalizing store with
  | nil => exact .inl member
  | cons first later found =>
    rw [List.map_cons, addAll] at member
    split at member
    · exact .inl member
    · rename_i grown new adds
      rcases found member with old | added
      · rcases mem_add adds old with before | rfl
        · exact .inl before
        · exact .inr List.mem_cons_self
      · exact .inr (List.mem_cons_of_mem first added)

theorem mem_of_add {store grown : Store} {statement : Statement} {new : Bool}
    (adds : store.add (some statement) = .ok (grown, new)) {other : Statement}
    (given : other ∈ store.statements ∨ other = statement) : other ∈ grown.statements := by
  rw [add] at adds
  split at adds
  · split at adds
    · cases adds
      exact List.mem_append.mpr (given.imp_right List.mem_singleton.mpr)
    · rename_i there
      cases adds
      rcases given with old | rfl
      · exact old
      · exact Decidable.not_not.mp there
  · cases adds

/-- **What was there before or was added is in the store after adding statements**, if none is
refused. -/
theorem mem_of_addAll {store grown : Store} {statements : List Statement} {count : Nat}
    (adds : store.addAll (statements.map some) = (grown, .ok count)) {other : Statement}
    (given : other ∈ store.statements ∨ other ∈ statements) : other ∈ grown.statements := by
  induction statements generalizing store count with
  | nil =>
    cases adds
    exact given.resolve_right List.not_mem_nil
  | cons first later found =>
    rw [List.map_cons, addAll] at adds
    split at adds
    · cases adds
    · rename_i middle new addsFirst
      rcases rest : middle.addAll (later.map some) with ⟨full, _ | more⟩
      · rw [rest] at adds
        cases adds
      · rw [rest] at adds
        cases adds
        refine found rest ?_
        rcases given with old | added
        · exact .inl (mem_of_add addsFirst (.inl old))
        · exact (List.mem_cons.mp added).imp_left fun same => mem_of_add addsFirst (.inr same)

theorem exists_addAll {statements : List Statement}
    (complete : ∀ statement ∈ statements, statement.IsComplete) (store : Store) :
    ∃ count, (store.addAll (statements.map some)).2 = .ok count := by
  induction statements generalizing store with
  | nil => exact ⟨0, rfl⟩
  | cons first later found =>
    obtain ⟨completeFirst, completeLater⟩ := List.forall_mem_cons.mp complete
    rw [List.map_cons, addAll, add, dif_pos completeFirst]
    split
    · rename_i refused
      split at refused <;> cases refused
    · rename_i grown new _
      obtain ⟨count, counted⟩ := found completeLater grown
      refine ⟨if new then count + 1 else count, ?_⟩
      dsimp only
      rw [counted]
      rfl

/-- **New statements stand at the end**, in the order in which they were added. -/
theorem addAll_eq_append {store : Store} {statements : List Statement}
    (complete : ∀ statement ∈ statements, statement.IsComplete)
    (once : (store.statements ++ statements).Nodup) :
    (store.addAll (statements.map some)).1.statements = store.statements ++ statements := by
  induction statements generalizing store with
  | nil => exact (List.append_nil _).symm
  | cons first later found =>
    obtain ⟨completeFirst, completeLater⟩ := List.forall_mem_cons.mp complete
    have new : first ∉ store.statements := by
      intro member
      exact (List.nodup_append.mp once).2.2 first member first List.mem_cons_self rfl
    have rest : ((store.append first new completeFirst).statements ++ later).Nodup := by
      rw [append, List.append_assoc, List.singleton_append]
      exact once
    have added : store.add (some first) = .ok (store.append first new completeFirst, true) := by
      rw [add, dif_pos completeFirst, dif_pos new]
    rw [List.map_cons, addAll, added]
    have whole := found completeLater rest
    rw [append, List.append_assoc, List.singleton_append] at whole
    exact whole

theorem ofStatements_eq {statements : List Statement}
    (complete : ∀ statement ∈ statements, statement.IsComplete) :
    ofStatements statements = .ok (empty.addAll (statements.map some)).1 := by
  obtain ⟨count, counted⟩ := exists_addAll complete empty
  rw [ofStatements]
  split
  · rename_i refusal refused
    rw [refused] at counted
    cases counted
  · rename_i store _ made
    rw [made]

/-- **The statements of a store make that store.** -/
theorem ofStatements_statements (store : Store) : ofStatements store.statements = .ok store := by
  rw [ofStatements_eq store.complete]
  exact congrArg Except.ok (ext_statements (addAll_eq_append store.complete store.nodup))

theorem mem_ofStatements {statements : List Statement} {store : Store}
    (made : ofStatements statements = .ok store) {statement : Statement}
    (member : statement ∈ store.statements) : statement ∈ statements := by
  unfold ofStatements at made
  split at made
  · cases made
  · rename_i grown _ adds
    cases made
    have inside : statement ∈ (empty.addAll (statements.map some)).1.statements := by
      rw [adds]
      exact member
    exact (mem_addAll inside).resolve_left List.not_mem_nil

theorem nodup_eraseDups (texts : List String) : texts.eraseDups.Nodup := by
  induction size : texts.length using Nat.strongRecOn generalizing texts with
  | ind number found =>
    cases texts with
    | nil => exact List.nodup_nil
    | cons first later =>
      subst size
      rw [List.eraseDups_cons, List.nodup_cons, List.mem_eraseDups]
      refine ⟨by simp, found _ ?_ _ rfl⟩
      exact Nat.lt_succ_of_le (List.length_filter_le _ later)

/-- The instances of a class are told once each. -/
theorem nodup_subjectsOfType (store : Store) (className predicate : String) :
    (store.subjectsOfType className predicate).Nodup := nodup_eraseDups _

end HistoricalFigures.Rdf.Store
