import HistoricalFigures.Proofs.Query.Answer

/-!
**Running several queries in memory one after the other.**

* `isChange`: a text is a query that may change something.
* `Replays`: the queries of calls have their answers where they are run one after the other.
* `Replays.mem`: what is inserted stays there unless a later query removes it.
-/
namespace HistoricalFigures.Query

open Rdf (Statement Store)

/-- Whether a text is a query that may change something. -/
def isChange (text : String) : Bool :=
  match parse text with
  | .ok query => query.body.kind ≠ .select
  | .error _ => false

/-- Whether the query that a text writes removes a statement where it finds it. -/
def removedBy (text : String) (statement : Statement) : Bool :=
  match parse text with
  | .ok query => query.removes statement
  | .error _ => false

section Texts

variable {text : String} {store changed : Store} {payload : Json} {statement : Statement}

theorem exists_of_answerText (answers : answerText text store = .ok (payload, changed)) :
    ∃ query, parse text = .ok query ∧ query.answer store = .ok (payload, changed) := by
  unfold answerText at answers
  split at answers
  · exact ⟨_, ‹_›, answers⟩
  · cases answers

/-- What is there after the query of a text was there before or was inserted by it. -/
theorem mem_answerText (answers : answerText text store = .ok (payload, changed))
    (member : statement ∈ changed.statements) :
    statement ∈ store.statements ∨ statement ∈ insertionsOf text := by
  obtain ⟨query, parsed, answers⟩ := exists_of_answerText answers
  rw [insertionsOf, parsed]
  exact mem_answer answers member

/-- What the query of a text inserts is there after it, and so is what was there before, unless the
query removes it. -/
theorem mem_answerText_of (answers : answerText text store = .ok (payload, changed))
    (given : statement ∈ insertionsOf text ∨
      statement ∈ store.statements ∧ removedBy text statement = false) :
    statement ∈ changed.statements := by
  obtain ⟨query, parsed, answers⟩ := exists_of_answerText answers
  rw [insertionsOf, removedBy, parsed] at given
  exact mem_answer_of answers given

end Texts

/-! ### Several queries -/

section Replays

variable {ι : Type} {texts : ι → String}

/-- The queries of calls are run one after the other, each on what the one before it has left, and
have their answers. -/
def Replays (texts : ι → String) (answers : ι → Option Json) : List ι → Store → Store → Prop
  | [], first, last => first = last
  | call :: later, first, last => ∃ payload middle, answers call = some payload ∧
      answerText (texts call) first = .ok (payload, middle) ∧
        Replays texts answers later middle last

/-- Only the answers of the calls that are run matter. -/
theorem Replays.congr {answers others : ι → Option Json} {calls : List ι} {first last : Store}
    (replays : Replays texts answers calls first last)
    (same : ∀ call ∈ calls, others call = answers call) : Replays texts others calls first last := by
  induction calls generalizing first with
  | nil => exact replays
  | cons call later found =>
    obtain ⟨payload, middle, answered, answers, rest⟩ := replays
    obtain ⟨sameHere, sameLater⟩ := List.forall_mem_cons.mp same
    exact ⟨payload, middle, sameHere.trans answered, answers, found rest sameLater⟩

variable {answers : ι → Option Json}

theorem Replays.append {before later : List ι} {first last : Store} :
    Replays texts answers (before ++ later) first last ↔
      ∃ middle, Replays texts answers before first middle ∧
        Replays texts answers later middle last := by
  induction before generalizing first with
  | nil =>
    refine ⟨fun replays => ⟨first, rfl, replays⟩, ?_⟩
    rintro ⟨middle, same, replays⟩
    exact (show first = middle from same) ▸ replays
  | cons call before found =>
    constructor
    · rintro ⟨payload, next, answered, answers, rest⟩
      obtain ⟨middle, front, behind⟩ := found.mp rest
      exact ⟨middle, ⟨payload, next, answered, answers, front⟩, behind⟩
    · rintro ⟨middle, ⟨payload, next, answered, answers, front⟩, behind⟩
      exact ⟨payload, next, answered, answers, found.mpr ⟨middle, front, behind⟩⟩

/-- What was there stays there unless a query removes it. -/
theorem Replays.mem_of_mem {calls : List ι} {first last : Store}
    (replays : Replays texts answers calls first last) {statement : Statement}
    (there : statement ∈ first.statements)
    (stays : ∀ call ∈ calls, removedBy (texts call) statement = false) :
    statement ∈ last.statements := by
  induction calls generalizing first with
  | nil => exact (show first = last from replays) ▸ there
  | cons call later found =>
    obtain ⟨payload, middle, _, answers, rest⟩ := replays
    obtain ⟨staysHere, staysLater⟩ := List.forall_mem_cons.mp stays
    exact found rest (mem_answerText_of answers (.inr ⟨there, staysHere⟩)) staysLater

/-- **What a query inserts is there in the end unless a later one removes it.** -/
theorem Replays.mem {before later : List ι} {call : ι} {first last : Store}
    (replays : Replays texts answers (before ++ call :: later) first last) {statement : Statement}
    (inserted : statement ∈ insertionsOf (texts call))
    (stays : ∀ other ∈ later, removedBy (texts other) statement = false) :
    statement ∈ last.statements := by
  obtain ⟨middle, _, behind⟩ := Replays.append.mp replays
  obtain ⟨payload, next, _, answers, rest⟩ := behind
  exact rest.mem_of_mem (mem_answerText_of answers (.inl inserted)) stays

end Replays

end HistoricalFigures.Query
