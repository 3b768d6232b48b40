/-!
**Loops that end.** A loop takes turns. A turn either hands a state on to the next one or ends the loop,
and what it hands on is smaller than what it was given.

* `Turn`, `Loop`: the turns and the loops.
* `Loop.run`: the outcome of a loop.
* `Runs`: how many turns a loop takes to its outcome.
* `Loop.run_induction`: what a loop keeps from its outcome back to its first state.
* `Loop.exists_runs`: it takes at most one more than the size of its first state.
-/
namespace HistoricalFigures

variable {σ ρ : Type}

/-- What comes of a turn. -/
inductive Turn (σ ρ : Type) where
  | again (state : σ)
  | done (outcome : ρ)

/-- The turns of a loop, and the size that each of them takes away from. -/
structure Loop (σ ρ : Type) where
  turn : σ → Turn σ ρ
  size : σ → Nat
  shrinks : ∀ {state next}, turn state = .again next → size next < size state

/-- A loop comes to an outcome after a number of turns. -/
inductive Runs (turn : σ → Turn σ ρ) : σ → Nat → ρ → Prop where
  | done {state : σ} {outcome : ρ} : turn state = .done outcome → Runs turn state 1 outcome
  | again {state next : σ} {count : Nat} {outcome : ρ} :
    turn state = .again next → Runs turn next count outcome → Runs turn state (count + 1) outcome

namespace Loop

/-- The outcome of a loop. -/
def run (loop : Loop σ ρ) (state : σ) : ρ :=
  match _turn : loop.turn state with
  | .again next => loop.run next
  | .done outcome => outcome
termination_by loop.size state
decreasing_by exact loop.shrinks ‹_›

variable {loop : Loop σ ρ} {state next : σ} {outcome : ρ}

theorem run_done (ends : loop.turn state = .done outcome) : loop.run state = outcome := by
  rw [run]
  split
  · rename_i other goesOn
    cases goesOn.symm.trans ends
  · rename_i other same
    exact Turn.done.inj (same.symm.trans ends)

theorem run_again (goesOn : loop.turn state = .again next) : loop.run state = loop.run next := by
  rw [run]
  split
  · rename_i other same
    rw [Turn.again.inj (same.symm.trans goesOn)]
  · rename_i other ends
    cases ends.symm.trans goesOn

/-- What holds where a loop ends, and is handed back by each turn, holds of every outcome. -/
theorem run_induction {holds : σ → ρ → Prop} (loop : Loop σ ρ)
    (done : ∀ {state outcome}, loop.turn state = .done outcome → holds state outcome)
    (again : ∀ {state next outcome}, loop.turn state = .again next → holds next outcome →
      holds state outcome) (state : σ) : holds state (loop.run state) := by
  cases turn : loop.turn state with
  | done outcome =>
    rw [run_done turn]
    exact done turn
  | again next =>
    rw [run_again turn]
    exact again turn (loop.run_induction done again next)
termination_by loop.size state
decreasing_by exact loop.shrinks turn

/-- **A loop ends**, after as many turns as its first state is large and one more. -/
theorem exists_runs (loop : Loop σ ρ) (state : σ) :
    ∃ count ≤ loop.size state + 1, Runs loop.turn state count (loop.run state) := by
  induction state using loop.run_induction with
  | done ends => exact ⟨1, Nat.le_add_left 1 _, .done ends⟩
  | again goesOn later =>
    obtain ⟨count, few, runs⟩ := later
    exact ⟨count + 1, Nat.succ_le_succ (Nat.le_trans few (loop.shrinks goesOn)), .again goesOn runs⟩

end Loop

end HistoricalFigures
