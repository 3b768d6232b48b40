import HistoricalFigures.Figure.Service
import HistoricalFigures.Proofs.Action

/-!
**The services leave as it is whatever running a query leaves as it is.** They do nothing to a state
themselves.

* `keeps_search`, `keeps_list`, `keeps_fromQuery`, `keeps_describe`: the inquiries.
* `run_importEntities`: the import of entities, one query after the other.
* `preserves_importEntities`, `keeps_importEntities`: what it leaves.
-/
namespace HistoricalFigures.Figure

open HistoricalFigures.Action (Keeps Preserves keeps_ofExcept keeps_pure keeps_throw preserves_ofExcept
  preserves_pure preserves_throw)

variable {σ ρ : Type} {part : σ → ρ} {execute : Executor σ}

section Keeps

variable (keeps : ∀ text, Keeps part (execute text))
include keeps

theorem keeps_search (term : String) : Keeps part (search execute term) := by
  refine (keeps _).bind fun result => ?_
  refine (keeps_ofExcept .shape _).bind fun rows => ?_
  exact (keeps_ofExcept .shape _).bind fun figures => keeps_pure _

theorem keeps_list : Keeps part (list execute) := by
  refine (keeps _).bind fun result => ?_
  exact (keeps_ofExcept .shape _).bind fun rows => keeps_ofExcept .shape _

theorem keeps_fromQuery (query language : String) : Keeps part (fromQuery execute query language) := by
  refine (keeps_ofExcept .query _).bind fun kind => ?_
  dsimp only
  split
  · exact keeps_throw _
  · refine (keeps _).bind fun result => ?_
    exact (keeps_ofExcept .shape _).bind fun rows => keeps_ofExcept .shape _

theorem keeps_describe (uri : String) : Keeps part (describe execute uri) := by
  refine (keeps _).bind fun result => ?_
  refine (keeps_ofExcept .shape _).bind fun rows => ?_
  exact (keeps_ofExcept .shape _).bind fun found => keeps_pure _

end Keeps

/-! ### Imports -/

/-- **An import runs the queries of its entities** one after the other and counts them. -/
theorem run_importEntities {className : String} {entities : List Json} (given : entities ≠ [])
    {found : List (Option String)} {queries : List String}
    (built : entities.mapM (insertQuery? className) = .ok found)
    (same : found.filterMap (fun query => query) = queries) (state : σ) :
    (importEntities execute className entities).run state =
      (queries.forM (insert execute) >>= fun _ => pure (.imported queries.length)).run state := by
  unfold importEntities
  rw [if_neg (by simpa using given), Action.shaped,
    Action.run_bind_ok (Action.run_ofExcept_ok .shape built _), same]

section Preserves

variable {holds : σ → Prop} (preserves : ∀ text, Preserves holds (execute text))
include preserves

theorem preserves_insert (query : String) : Preserves holds (insert execute query) := by
  refine (preserves query).bind fun response => ?_
  refine (preserves_ofExcept .shape _).bind fun success => ?_
  split
  · exact (preserves_ofExcept .shape _).bind fun reason => preserves_throw _
  · exact preserves_pure ()

/-- **What stays true behind each insertion stays true behind an import.** -/
theorem preserves_importEntities (className : String) (entities : List Json) :
    Preserves holds (importEntities execute className entities) := by
  unfold importEntities
  split
  · exact preserves_pure _
  · refine (preserves_ofExcept .shape _).bind fun queries => ?_
    exact (Preserves.forM (preserves_insert preserves) _).bind fun _ => preserves_pure _

end Preserves

/-- **An import leaves as it is what each of its insertions does.** -/
theorem keeps_importEntities (keeps : ∀ text, Keeps part (execute text)) (className : String)
    (entities : List Json) : Keeps part (importEntities execute className entities) :=
  Action.keeps_of_preserves fun value =>
    preserves_importEntities (fun text => (keeps text).preserves (· = value)) className entities

end HistoricalFigures.Figure
