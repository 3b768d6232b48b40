import HistoricalFigures.Proofs.Rdf.Store
import Mathlib.Data.List.Induction

/-!
**Stores over whole runs of additions and removals.** A store holds what was added and not removed
since, in the order of the first additions after the last removals.

* `Change`, `Store.after`: additions, which may be refused, and removals.
* `Event`, `history`: what a run adds and removes, one after the other.
* `Arrives`: the event from which on a statement is there for good.
* `arrives_append_added`, `arrives_append_removed`: what one more event does to it.
* `isRecord_after`: every run leaves the store that its history tells.
-/
namespace HistoricalFigures.Rdf

/-! ### Changes and what happens in them -/

/-- A change of a store. What is added may be no statement at all, or lack a part. -/
inductive Change where
  | add (statement : Option Statement)
  | addAll (statements : List (Option Statement))
  | removeAll (pattern : Pattern)

/-- The store behind a change, whether the change is refused or not. -/
def Change.apply (store : Store) : Change → Store
  | add statement =>
    match store.add statement with
    | .ok (grown, _) => grown
    | .error _ => store
  | addAll statements => (store.addAll statements).1
  | removeAll pattern => (store.removeAll pattern).1

/-- The store behind changes of the empty one. -/
def Store.after (changes : List Change) : Store := changes.foldl Change.apply Store.empty

/-- What happens to a store: a statement is added, new or not, or what fits a pattern is removed. -/
inductive Event where
  | added (statement : Statement)
  | removed (pattern : Pattern)

/-- The statements before the first one that lacks a part. -/
def accepted : List (Option Statement) → List Statement
  | [] => []
  | none :: _ => []
  | some statement :: rest => if statement.IsComplete then statement :: accepted rest else []

/-- What happens in a change: up to the first statement that is refused all are added. -/
def Change.events : Change → List Event
  | add statement => (accepted [statement]).map .added
  | addAll statements => (accepted statements).map .added
  | removeAll pattern => [.removed pattern]

/-- What happens in changes, one after the other. -/
def history (changes : List Change) : List Event := changes.flatMap Change.events

/-! ### What a history tells -/

/-- A statement has the parts that a pattern asks for. -/
def Pattern.Describes (pattern : Pattern) (statement : Statement) : Prop :=
  (∀ subject, pattern.subject = some subject → statement.subject = subject) ∧
    (∀ predicate, pattern.predicate = some predicate → statement.predicate = predicate) ∧
      (∀ value, pattern.object = .value value → statement.object.value = value) ∧
        ∀ term, pattern.object = .term term → statement.object = term

/-- A statement is added by the event with a number, and no later event removes it. -/
def Stays (events : List Event) (number : Nat) (statement : Statement) : Prop :=
  events[number]? = some (.added statement) ∧
    ∀ later pattern, number < later → events[later]? = some (.removed pattern) →
      ¬ pattern.Describes statement

/-- The event with a number is the first one that adds a statement for good: the first addition
behind the last removal. -/
def Arrives (events : List Event) (number : Nat) (statement : Statement) : Prop :=
  Stays events number statement ∧ ∀ earlier < number, ¬ Stays events earlier statement

/-- Statements are what a history tells. -/
structure Tells (events : List Event) (statements : List Statement) : Prop where
  /-- No statement is there twice. -/
  nodup : statements.Nodup
  /-- What is there was added for good. -/
  mem_iff : ∀ statement, statement ∈ statements ↔ ∃ number, Arrives events number statement
  /-- The statements stand in the order in which they arrived. -/
  ordered : statements.Pairwise fun first second =>
    ∃ before behind, Arrives events before first ∧ Arrives events behind second ∧ before < behind

/-- A store holds what a history tells, and its views and counts agree with that. -/
structure IsRecord (events : List Event) (store : Store) : Prop extends
    Tells events store.statements where
  /-- No part of a statement is missing. -/
  complete : ∀ statement ∈ store.statements, statement.subject ≠ "" ∧ statement.predicate ≠ ""
  size : store.size = store.statements.length
  /-- A statement is taken exactly if no part of it is missing. -/
  accepts : ∀ statement, (∃ answer, store.add statement = .ok answer) ↔
    ∃ given, statement = some given ∧ given.subject ≠ "" ∧ given.predicate ≠ ""
  contains : ∀ statement, store.contains statement = true ↔ statement ∈ store.statements
  /-- What fits a pattern stands in the same order. -/
  matching : ∀ pattern, (store.matching pattern).Sublist store.statements ∧
    ∀ statement, statement ∈ store.matching pattern ↔
      statement ∈ store.statements ∧ pattern.Describes statement
  /-- One more addition makes the store larger by one exactly if it is new. -/
  size_add : ∀ statement grown new, store.add statement = .ok (grown, new) →
    grown.size = store.size + if new then 1 else 0
  /-- The number that further additions give is that of the statements that are new. -/
  size_addAll : ∀ statements grown count, store.addAll statements = (grown, .ok count) →
    grown.size = store.size + count
  /-- The number that a removal gives is that of the statements that are gone. -/
  size_removeAll : ∀ pattern left count, store.removeAll pattern = (left, count) →
    left.size + count = store.size

/-! ### One more event -/

section Events

variable {events : List Event} {number : Nat} {statement other : Statement} {pattern : Pattern}

theorem Stays.lt_length (stays : Stays events number statement) : number < events.length :=
  (List.getElem?_eq_some_iff.mp stays.1).1

/-- One more addition stays for good, and changes nothing else. -/
theorem stays_append_added :
    Stays (events ++ [.added other]) number statement ↔
      Stays events number statement ∨ number = events.length ∧ statement = other := by
  constructor
  · rintro ⟨here, later⟩
    rcases Nat.lt_trichotomy number events.length with inside | last | beyond
    · rw [List.getElem?_append_left inside] at here
      refine .inl ⟨here, fun place pattern behind there => later place pattern behind ?_⟩
      rw [List.getElem?_append_left (List.getElem?_eq_some_iff.mp there).1]
      exact there
    · subst last
      rw [List.getElem?_concat_length] at here
      exact .inr ⟨rfl, by cases here; rfl⟩
    · rw [List.getElem?_eq_none (by simp; omega)] at here
      cases here
  · rintro (stays | ⟨rfl, rfl⟩)
    · refine ⟨by rw [List.getElem?_append_left stays.lt_length]; exact stays.1, ?_⟩
      intro place pattern behind there
      rcases Nat.lt_trichotomy place events.length with inside | last | beyond
      · rw [List.getElem?_append_left inside] at there
        exact stays.2 place pattern behind there
      · subst last
        rw [List.getElem?_concat_length] at there
        cases there
      · rw [List.getElem?_eq_none (by simp; omega)] at there
        cases there
    · refine ⟨List.getElem?_concat_length, fun place pattern behind there => ?_⟩
      rw [List.getElem?_eq_none (by simp; omega)] at there
      cases there

/-- Behind one more removal what does not fit its pattern stays. -/
theorem stays_append_removed :
    Stays (events ++ [.removed pattern]) number statement ↔
      Stays events number statement ∧ ¬ pattern.Describes statement := by
  constructor
  · rintro ⟨here, later⟩
    have inside : number < events.length := by
      rcases Nat.lt_trichotomy number events.length with inside | last | beyond
      · exact inside
      · subst last
        rw [List.getElem?_concat_length] at here
        cases here
      · rw [List.getElem?_eq_none (by simp; omega)] at here
        cases here
    refine ⟨⟨by rwa [List.getElem?_append_left inside] at here, ?_⟩, ?_⟩
    · intro place pattern' behind there
      refine later place pattern' behind ?_
      rw [List.getElem?_append_left (List.getElem?_eq_some_iff.mp there).1]
      exact there
    · exact later events.length pattern inside List.getElem?_concat_length
  · rintro ⟨stays, unlike⟩
    refine ⟨by rw [List.getElem?_append_left stays.lt_length]; exact stays.1, ?_⟩
    intro place pattern' behind there
    rcases Nat.lt_trichotomy place events.length with inside | last | beyond
    · rw [List.getElem?_append_left inside] at there
      exact stays.2 place pattern' behind there
    · subst last
      rw [List.getElem?_concat_length] at there
      cases there
      exact unlike
    · rw [List.getElem?_eq_none (by simp; omega)] at there
      cases there

/-- One more addition arrives unless what it adds is there already, and changes nothing else. -/
theorem arrives_append_added :
    Arrives (events ++ [.added other]) number statement ↔
      Arrives events number statement ∨
        number = events.length ∧ statement = other ∧ ∀ place, ¬ Stays events place other := by
  simp only [Arrives, stays_append_added]
  constructor
  · rintro ⟨stays | ⟨rfl, rfl⟩, first⟩
    · exact .inl ⟨stays, fun place before there => first place before (.inl there)⟩
    · exact .inr ⟨rfl, rfl, fun place there => first place there.lt_length (.inl there)⟩
  · rintro (⟨stays, first⟩ | ⟨rfl, rfl, new⟩)
    · refine ⟨.inl stays, fun place before => ?_⟩
      rintro (there | ⟨rfl, -⟩)
      · exact first place before there
      · exact absurd stays.lt_length (Nat.lt_asymm before)
    · refine ⟨.inr ⟨rfl, rfl⟩, fun place before => ?_⟩
      rintro (there | ⟨rfl, -⟩)
      · exact new place there
      · exact Nat.lt_irrefl _ before

/-- Behind one more removal what does not fit its pattern has arrived where it had before. -/
theorem arrives_append_removed :
    Arrives (events ++ [.removed pattern]) number statement ↔
      Arrives events number statement ∧ ¬ pattern.Describes statement := by
  simp only [Arrives, stays_append_removed]
  constructor
  · rintro ⟨⟨stays, unlike⟩, first⟩
    exact ⟨⟨stays, fun place before there => first place before ⟨there, unlike⟩⟩, unlike⟩
  · rintro ⟨⟨stays, first⟩, unlike⟩
    exact ⟨⟨stays, unlike⟩, fun place before there => first place before there.1⟩

/-- What stays somewhere arrives somewhere. -/
theorem exists_arrives (stays : Stays events number statement) :
    ∃ place, Arrives events place statement := by
  induction number using Nat.strongRecOn with
  | ind number found =>
    by_cases first : ∃ earlier < number, Stays events earlier statement
    · obtain ⟨earlier, before, there⟩ := first
      exact found earlier before there
    · exact ⟨number, stays, fun earlier before there => first ⟨earlier, before, there⟩⟩

end Events

/-! ### What a run leaves -/

/-- The statements behind an event. -/
def Event.apply (statements : List Statement) : Event → List Statement
  | added statement => if statement ∈ statements then statements else statements ++ [statement]
  | removed pattern => statements.filter fun statement => !pattern.fits statement

theorem statements_add {store grown : Store} {statement : Statement} {new : Bool}
    (adds : store.add (some statement) = .ok (grown, new)) :
    grown.statements = Event.apply store.statements (.added statement) := by
  rw [Store.add] at adds
  split at adds
  · split at adds
    · rename_i unknown
      cases adds
      exact (if_neg unknown).symm
    · rename_i known
      cases adds
      exact (if_pos (Decidable.not_not.mp known)).symm
  · cases adds

theorem add_of_complete {statement : Statement} (complete : statement.IsComplete) (store : Store) :
    ∃ grown new, store.add (some statement) = .ok (grown, new) := by
  rw [Store.add, dif_pos complete]
  split
  · exact ⟨_, _, rfl⟩
  · exact ⟨_, _, rfl⟩

/-- Adding statements adds those before the first that is refused. -/
theorem statements_addAll (statements : List (Option Statement)) (store : Store) :
    (store.addAll statements).1.statements =
      ((accepted statements).map .added).foldl Event.apply store.statements := by
  induction statements generalizing store with
  | nil => rfl
  | cons first rest found =>
    cases first with
    | none => rfl
    | some statement =>
      by_cases complete : statement.IsComplete
      · obtain ⟨grown, new, adds⟩ := add_of_complete complete store
        rw [accepted, if_pos complete, List.map_cons, List.foldl_cons, ← statements_add adds,
          ← found grown, Store.addAll, adds]
      · rw [accepted, if_neg complete, Store.addAll, Store.add, dif_neg complete]
        rfl

/-- A change does to the statements what happens in it. -/
theorem statements_apply (store : Store) (change : Change) :
    (change.apply store).statements = change.events.foldl Event.apply store.statements := by
  cases change with
  | add statement =>
    rw [Change.events, ← statements_addAll, Change.apply, Store.addAll]
    split <;> rename_i answer <;> rw [answer]
    rfl
  | addAll statements => exact statements_addAll statements store
  | removeAll pattern => rfl

/-- **A run of changes does to the statements what its history tells**, event by event. -/
theorem statements_after (changes : List Change) :
    (Store.after changes).statements = (history changes).foldl Event.apply [] := by
  induction changes using List.reverseRecOn with
  | nil => rfl
  | append_singleton before last found =>
    have split : history (before ++ [last]) = history before ++ last.events := by
      rw [history, List.flatMap_append, List.flatMap_singleton, history]
    rw [split, List.foldl_append, ← found, ← statements_apply, Store.after, List.foldl_append]
    rfl

/-! ### The record -/

theorem fits_eq_true {pattern : Pattern} {statement : Statement} :
    pattern.fits statement = true ↔ pattern.Describes statement := by
  obtain ⟨subject, predicate, object⟩ := pattern
  cases object <;>
    simp [Pattern.fits, Pattern.Describes, ObjectPattern.fits, Option.all_eq_true, and_assoc]

theorem not_fits_eq_true {pattern : Pattern} {statement : Statement} :
    (!pattern.fits statement) = true ↔ ¬ pattern.Describes statement := by
  rw [Bool.not_eq_true', ← fits_eq_true, Bool.not_eq_true]

theorem tells_nil : Tells [] [] where
  nodup := List.nodup_nil
  mem_iff := by
    intro statement
    refine iff_of_false List.not_mem_nil ?_
    rintro ⟨number, ⟨here, -⟩, -⟩
    cases here
  ordered := List.Pairwise.nil

variable {events : List Event} {statements : List Statement}

theorem Tells.mem_iff_stays (tells : Tells events statements) (statement : Statement) :
    statement ∈ statements ↔ ∃ number, Stays events number statement := by
  rw [tells.mem_iff]
  exact ⟨fun ⟨number, arrives⟩ => ⟨number, arrives.1⟩, fun ⟨_, stays⟩ => exists_arrives stays⟩

/-- What arrived stays where it is, whatever is added later. -/
theorem Tells.ordered_append_added (tells : Tells events statements) (other : Statement) :
    statements.Pairwise fun first second =>
      ∃ before behind, Arrives (events ++ [.added other]) before first ∧
        Arrives (events ++ [.added other]) behind second ∧ before < behind := by
  refine tells.ordered.imp ?_
  rintro first second ⟨before, behind, early, late, order⟩
  exact ⟨before, behind, arrives_append_added.mpr (.inl early),
    arrives_append_added.mpr (.inl late), order⟩

/-- What is there stays what is told when it is added again. -/
theorem Tells.append_known (tells : Tells events statements) {other : Statement}
    (known : other ∈ statements) : Tells (events ++ [.added other]) statements where
  nodup := tells.nodup
  mem_iff := by
    obtain ⟨place, there⟩ := (tells.mem_iff_stays other).mp known
    intro statement
    simp only [tells.mem_iff, arrives_append_added]
    constructor
    · exact fun ⟨number, arrives⟩ => ⟨number, .inl arrives⟩
    · rintro ⟨number, arrives | ⟨-, -, new⟩⟩
      · exact ⟨number, arrives⟩
      · exact absurd there (new place)
  ordered := tells.ordered_append_added other

/-- What is new arrives at the end. -/
theorem Tells.append_new (tells : Tells events statements) {other : Statement}
    (new : other ∉ statements) : Tells (events ++ [.added other]) (statements ++ [other]) := by
  have nowhere : ∀ place, ¬ Stays events place other :=
    fun place there => new ((tells.mem_iff_stays other).mpr ⟨place, there⟩)
  have last : Arrives (events ++ [.added other]) events.length other :=
    arrives_append_added.mpr (.inr ⟨rfl, rfl, nowhere⟩)
  refine ⟨?_, ?_, ?_⟩
  · rw [List.nodup_append]
    refine ⟨tells.nodup, List.nodup_cons.mpr ⟨List.not_mem_nil, List.nodup_nil⟩, ?_⟩
    rintro first inside second member rfl
    exact new (List.mem_singleton.mp member ▸ inside)
  · intro statement
    rw [List.mem_append, List.mem_singleton, tells.mem_iff]
    constructor
    · rintro (⟨number, arrives⟩ | rfl)
      · exact ⟨number, arrives_append_added.mpr (.inl arrives)⟩
      · exact ⟨events.length, last⟩
    · rintro ⟨number, arrives⟩
      rcases arrives_append_added.mp arrives with before | ⟨-, same, -⟩
      · exact .inl ⟨number, before⟩
      · exact .inr same
  · refine List.pairwise_append.mpr
      ⟨tells.ordered_append_added other, List.pairwise_singleton _ _, ?_⟩
    intro first inside second member
    obtain ⟨number, arrives⟩ := (tells.mem_iff first).mp inside
    cases List.mem_singleton.mp member
    exact ⟨number, events.length, arrives_append_added.mpr (.inl arrives), last,
      arrives.1.lt_length⟩

/-- A removal takes away what fits and leaves the order. -/
theorem Tells.append_removed (tells : Tells events statements) (pattern : Pattern) :
    Tells (events ++ [.removed pattern])
      (statements.filter fun statement => !pattern.fits statement) where
  nodup := tells.nodup.filter _
  mem_iff := by
    intro statement
    rw [List.mem_filter, not_fits_eq_true, tells.mem_iff]
    constructor
    · rintro ⟨⟨number, arrives⟩, unlike⟩
      exact ⟨number, arrives_append_removed.mpr ⟨arrives, unlike⟩⟩
    · rintro ⟨number, arrives⟩
      obtain ⟨before, unlike⟩ := arrives_append_removed.mp arrives
      exact ⟨⟨number, before⟩, unlike⟩
  ordered := by
    refine (tells.ordered.sublist List.filter_sublist).imp_of_mem ?_
    rintro first second inside within ⟨before, behind, early, late, order⟩
    have unlike : ∀ {statement}, statement ∈ statements.filter (!pattern.fits ·) →
        ¬ pattern.Describes statement := by
      intro statement member
      exact not_fits_eq_true.mp (List.mem_filter.mp member).2
    exact ⟨before, behind, arrives_append_removed.mpr ⟨early, unlike inside⟩,
      arrives_append_removed.mpr ⟨late, unlike within⟩, order⟩

/-- One more event leaves what is told up to it. -/
theorem Tells.append (tells : Tells events statements) (event : Event) :
    Tells (events ++ [event]) (event.apply statements) := by
  cases event with
  | added statement =>
    rw [Event.apply]
    split
    · rename_i known
      exact tells.append_known known
    · rename_i new
      exact tells.append_new new
  | removed pattern => exact tells.append_removed pattern

/-- **Whatever happens to no statements leaves what it tells.** -/
theorem tells_foldl (events : List Event) : Tells events (events.foldl Event.apply []) := by
  induction events using List.reverseRecOn with
  | nil => exact tells_nil
  | append_singleton before last tells =>
    rw [List.foldl_append]
    exact tells.append last

theorem size_add {store grown : Store} {statement : Option Statement} {new : Bool}
    (adds : store.add statement = .ok (grown, new)) :
    grown.size = store.size + if new then 1 else 0 := by
  cases statement with
  | none => cases adds
  | some statement =>
    rw [Store.add] at adds
    split at adds
    · split at adds
      · cases adds
        exact List.length_append
      · cases adds
        rfl
    · cases adds

/-- The number that additions give is that of the statements that are new. -/
theorem size_addAll {statements : List (Option Statement)} {store grown : Store} {count : Nat}
    (adds : store.addAll statements = (grown, .ok count)) : grown.size = store.size + count := by
  induction statements generalizing store count with
  | nil =>
    cases adds
    rfl
  | cons first rest found =>
    rw [Store.addAll] at adds
    split at adds
    · cases adds
    · rename_i middle new addsFirst
      rcases addsRest : middle.addAll rest with ⟨full, _ | more⟩
      · rw [addsRest] at adds
        cases adds
      · rw [addsRest] at adds
        cases adds
        rw [found addsRest, size_add addsFirst]
        cases new
        · rfl
        · exact Nat.add_right_comm _ _ _

/-- **A store behind changes is a record of them.** It holds what was added and not removed since,
once each, in the order of the first additions behind the last removals; its size, its test for
membership, its selections and the numbers that further changes give agree with that. -/
theorem isRecord_after (changes : List Change) :
    IsRecord (history changes) (Store.after changes) where
  toTells := statements_after changes ▸ tells_foldl (history changes)
  complete := (Store.after changes).complete
  size := rfl
  accepts := by
    intro statement
    constructor
    · rintro ⟨answer, adds⟩
      cases statement with
      | none => cases adds
      | some given =>
        by_cases complete : given.IsComplete
        · exact ⟨given, rfl, complete⟩
        · rw [Store.add, dif_neg complete] at adds
          cases adds
    · rintro ⟨given, rfl, complete⟩
      obtain ⟨grown, new, adds⟩ := add_of_complete complete (Store.after changes)
      exact ⟨(grown, new), adds⟩
  contains := fun _ => decide_eq_true_iff
  matching := by
    refine fun pattern => ⟨List.filter_sublist, fun statement => ?_⟩
    rw [Store.mem_matching, fits_eq_true]
  size_add := fun _ _ _ adds => size_add adds
  size_addAll := fun _ _ _ adds => size_addAll adds
  size_removeAll := by
    intro pattern left count removes
    have counted := (Store.after changes).size_removeAll pattern
    rw [removes] at counted
    exact (Nat.add_comm _ _).trans counted

/-- What is removed and added again stands behind what was added before that. -/
example :
    let first : Statement := ⟨"a", "p", .plain "x"⟩
    let second : Statement := ⟨"b", "p", .plain "x"⟩
    (Store.after [.addAll [some first, some second, none, some ⟨"c", "p", .plain "x"⟩],
      .removeAll ⟨some "a", none, .any⟩, .add (some second), .add (some first)]).statements =
      [second, first] := by
  decide

end HistoricalFigures.Rdf
