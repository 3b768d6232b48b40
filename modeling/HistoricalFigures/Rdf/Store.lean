import HistoricalFigures.Rdf.Term
import HistoricalFigures.Rdf.Vocabulary
import HistoricalFigures.Text.Shown

/-!
Ordered sets of statements.

* `Store`: complete statements without repetition, in the order in which they were added.
* `Store.add`, `Store.addAll`: statements are added at the end; one that is there already stays
  where it is, and one that lacks a part is refused.
* `Store.matching`, `Store.removeAll`: the statements that fit a pattern.
* `Store.subjectsOfType`: the instances of a class.
* `Store.mem_matching`, `Store.size_removeAll`: what fits a pattern, and how many statements a removal
  leaves.
-/
namespace HistoricalFigures.Rdf

/-- Complete statements without repetition, in the order in which they were added. -/
structure Store where
  statements : List Statement
  nodup : statements.Nodup
  complete : ∀ statement ∈ statements, statement.IsComplete

/-- The refusal of a statement that lacks a part; it may be no statement at all. -/
structure Incomplete where
  statement : Option Statement

/-- A text, or the word for nothing, as messages show it. -/
def shownOption (text : Option String) : String := (text.map Text.shown).getD "None"

/-- A statement as messages show it. -/
def Statement.shown (statement : Statement) : String :=
  let term := statement.object
  "Statement(subject=" ++ Text.shown statement.subject ++
    ", predicate=" ++ Text.shown statement.predicate ++
    ", object=Term(value=" ++ Text.shown term.value ++ ", type=" ++ Text.shown term.kind.name ++
    ", datatype=" ++ shownOption term.datatype ++
    ", language=" ++ shownOption term.language ++ "))"

/-- The words for a refusal. -/
def Incomplete.message (refusal : Incomplete) : String :=
  "Incomplete statement: " ++ (refusal.statement.map Statement.shown).getD "None"

/-- What an object is compared with: nothing, a text that its value equals, or a whole term. -/
inductive ObjectPattern where
  | any
  | value (text : String)
  | term (term : Term)

/-- Whether a term fits a pattern. -/
def ObjectPattern.fits : ObjectPattern → Term → Bool
  | .any, _ => true
  | .value text, found => found.value = text
  | .term expected, found => found = expected

/-- What a statement is compared with. A part that is none fits everything. -/
structure Pattern where
  subject : Option String
  predicate : Option String
  object : ObjectPattern

/-- Whether a statement fits a pattern. -/
def Pattern.fits (pattern : Pattern) (statement : Statement) : Bool :=
  pattern.subject.all (statement.subject = ·) && pattern.predicate.all (statement.predicate = ·) &&
    pattern.object.fits statement.object

namespace Store

/-- The store without statements. -/
def empty : Store := ⟨[], List.nodup_nil, by simp⟩

instance : Inhabited Store := ⟨empty⟩

/-- The number of statements. -/
def size (store : Store) : Nat := store.statements.length

/-- Whether a statement is in the store. -/
def contains (store : Store) (statement : Statement) : Bool := statement ∈ store.statements

/-- The store with a complete statement that is new to it at its end. -/
def append (store : Store) (statement : Statement) (new : statement ∉ store.statements)
    (complete : statement.IsComplete) : Store where
  statements := store.statements ++ [statement]
  nodup := by
    rw [List.nodup_append]
    refine ⟨store.nodup, by simp, ?_⟩
    intro first member second other equal
    rw [List.mem_singleton] at other
    exact new (other ▸ equal ▸ member)
  complete := by
    intro other member
    rcases List.mem_append.mp member with old | last
    · exact store.complete other old
    · exact List.mem_singleton.mp last ▸ complete

/-- The store after adding a statement, and whether it was new. -/
def add (store : Store) : Option Statement → Except Incomplete (Store × Bool)
  | none => .error ⟨none⟩
  | some statement =>
    if complete : statement.IsComplete then
      if new : statement ∉ store.statements then .ok (store.append statement new complete, true)
      else .ok (store, false)
    else .error ⟨some statement⟩

/-- The store after adding statements up to the first that is refused, and either that refusal or
the number of those that were new. -/
def addAll (store : Store) : List (Option Statement) → Store × Except Incomplete Nat
  | [] => (store, .ok 0)
  | statement :: rest =>
    match store.add statement with
    | .error refusal => (store, .error refusal)
    | .ok (grown, new) =>
      let (full, count) := grown.addAll rest
      (full, count.map fun added => if new then added + 1 else added)

/-- The store of statements. -/
def ofStatements (statements : List Statement) : Except Incomplete Store :=
  match empty.addAll (statements.map some) with
  | (_, .error refusal) => .error refusal
  | (store, .ok _) => .ok store

/-- The statements that fit a pattern. -/
def matching (store : Store) (pattern : Pattern) : List Statement :=
  store.statements.filter pattern.fits

/-- The store without the statements that fit a pattern. -/
def without (store : Store) (pattern : Pattern) : Store where
  statements := store.statements.filter fun statement => !pattern.fits statement
  nodup := store.nodup.sublist List.filter_sublist
  complete := fun statement member => store.complete statement (List.mem_filter.mp member).1

/-- The store without the statements that fit a pattern, and how many they were. -/
def removeAll (store : Store) (pattern : Pattern) : Store × Nat :=
  (store.without pattern, (store.matching pattern).length)

/-- The statements that fit a pattern are those of the store that do. -/
theorem mem_matching {store : Store} {pattern : Pattern} {statement : Statement} :
    statement ∈ store.matching pattern ↔
      statement ∈ store.statements ∧ pattern.fits statement = true :=
  List.mem_filter

/-- The statements that are left are those that do not fit. -/
theorem mem_without {store : Store} {pattern : Pattern} {statement : Statement} :
    statement ∈ (store.without pattern).statements ↔
      statement ∈ store.statements ∧ pattern.fits statement = false := by
  simp [without]

/-- Every statement is either removed or left. -/
theorem size_removeAll (store : Store) (pattern : Pattern) :
    (store.removeAll pattern).2 + (store.removeAll pattern).1.size = store.size := by
  simp only [removeAll, matching, without, size]
  induction store.statements with
  | nil => rfl
  | cons statement rest found =>
    by_cases fit : pattern.fits statement = true
    · simp only [List.filter_cons, fit, if_true, Bool.not_true, List.length_cons]
      simp only [Bool.false_eq_true, if_false]
      omega
    · have unfit : pattern.fits statement = false := Bool.not_eq_true _ ▸ fit
      simp only [List.filter_cons, unfit, Bool.not_false, if_true, List.length_cons]
      simp only [Bool.false_eq_true, if_false]
      omega

/-- The subjects that a predicate connects with a text, other than that text itself. -/
def subjectsOfType (store : Store) (className predicate : String) : List String :=
  (((store.matching ⟨none, some predicate, .value className⟩).map Statement.subject).filter
    (· ≠ className)).eraseDups

end Store

end HistoricalFigures.Rdf
