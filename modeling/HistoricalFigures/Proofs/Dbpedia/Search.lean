import HistoricalFigures.Dbpedia.Search
import HistoricalFigures.Proofs.Action

/-!
**Searching DBpedia leaves the files as they are.** Requests are written down and answers are used
up, whatever they are.

* `keeps_ask`, `keeps_query`: asking over the network.
* `keeps_run`: a search, however many persons it asks for the details of.
-/
namespace HistoricalFigures

open HistoricalFigures.Action (Keeps)

/-- **Asking over the network leaves the files as they are**, whatever the answer is. -/
theorem World.keeps_ask (url text : String) (timeout : Nat) :
    Keeps World.disk (World.ask url text timeout) := by
  refine Keeps.bind (fun world => rfl) fun _ => ?_
  refine Keeps.bind (fun world => ?_) fun answer => ?_
  · obtain ⟨_, _, _, _, answers, _, _, _, _, _⟩ := world
    cases answers <;> rfl
  · cases answer <;> exact fun world => rfl

namespace Dbpedia

theorem keeps_query (text endpoint : String) : Keeps World.disk (query text endpoint) := by
  refine (Action.keeps_ofExcept id _).bind fun url => ?_
  refine (World.keeps_ask url text timeout).bind fun result => ?_
  refine (Action.keeps_ofExcept .shape _).bind fun rows => ?_
  exact (Action.keeps_ofExcept .shape _).bind fun _ => Action.keeps_pure result

/-- Asking for the details of a person leaves the files as they are. -/
theorem keeps_personDetails (uri : Json) (language endpoint : String) :
    Keeps World.disk (personDetails uri language endpoint) := by
  refine (keeps_query _ endpoint).attempt.bind fun outcome => ?_
  cases outcome with
  | error failure => exact Action.keeps_pure Details.none
  | ok result => exact Action.keeps_ofExcept .shape (Details.ofResult result)

theorem keeps_completed (search : Search) (figure : Figure) :
    Keeps World.disk (completed search figure) := by
  unfold completed
  split
  · exact (keeps_personDetails figure.uri _ _).bind fun details => Action.keeps_pure _
  · exact Action.keeps_pure figure

theorem keeps_figuresFrom (search : Search) (seen : List String) (rows : List Json) :
    Keeps World.disk (figuresFrom search seen rows) := by
  induction rows generalizing seen with
  | nil => exact Action.keeps_pure []
  | cons row rest found =>
    refine (Action.keeps_ofExcept .shape _).bind fun figure => ?_
    split
    · exact found seen
    · refine (keeps_completed search figure).bind fun full => ?_
      exact (found (full.id :: seen)).bind fun others => Action.keeps_pure _

/-- **A search leaves the files as they are.** -/
theorem Search.keeps_run (search : Search) : Keeps World.disk search.run := by
  refine (Action.keeps_ofExcept id search.text).bind fun text => ?_
  refine (keeps_query text search.endpoint).bind fun result => ?_
  refine (Action.keeps_ofExcept .shape _).bind fun rows => ?_
  exact (Action.keeps_ofExcept .shape _).bind fun items => keeps_figuresFrom search [] items

end Dbpedia

end HistoricalFigures
