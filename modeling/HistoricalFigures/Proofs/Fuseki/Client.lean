import HistoricalFigures.Fuseki.Client
import HistoricalFigures.Proofs.Action

/-!
**Running a query on a Fuseki server leaves the files as they are**, whatever the server answers.

* `keeps_post`: a request.
* `keeps_execute`: a query or an update.
-/
namespace HistoricalFigures

open HistoricalFigures.Action (Keeps keeps_ofExcept keeps_pure keeps_throw)

/-- **Posting a body leaves the files as they are**, whatever the answer is. -/
theorem World.keeps_post (message : Post) : Keeps World.disk (World.post message) := by
  refine Keeps.bind (fun world => rfl) fun _ world => ?_
  obtain ⟨_, _, _, _, _, answers, _, _, _, _⟩ := world
  cases answers <;> rfl

namespace Fuseki

variable (config : Config)

theorem keeps_post (url : String) (headers : Http.Headers) (body : String) :
    Keeps World.disk (post config url headers body) := by
  refine (World.keeps_post _).bind fun answer => ?_
  cases answer with
  | failure reason => exact keeps_throw _
  | response status answer =>
    dsimp only
    split
    · exact keeps_pure answer
    · exact keeps_throw _

theorem keeps_query (text : String) : Keeps World.disk (query config text) := by
  refine (keeps_post config _ _ text).bind fun answer => ?_
  refine (keeps_ofExcept _ _).bind fun result => ?_
  cases result with
  | none => exact keeps_throw _
  | some result => exact keeps_pure result

theorem keeps_update (text : String) : Keeps World.disk (update config text) :=
  (keeps_post config _ _ text).bind fun _ => keeps_pure success

/-- **A query or an update leaves the files as they are.** -/
theorem keeps_execute (text : String) : Keeps World.disk (execute config text) := by
  refine (keeps_ofExcept _ _).bind fun kind => ?_
  cases kind with
  | select => exact keeps_query config text
  | _ => exact keeps_update config text

end Fuseki

end HistoricalFigures
