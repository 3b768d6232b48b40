import HistoricalFigures.Proofs.Action
import HistoricalFigures.World

/-!
**Requests over the network, one after the other.** The answers are told beforehand and have numbers
from now on; the next one has the number zero.

* `answerTo`, `replyTo`: the answers to queries and to posted bodies by their numbers.
* `run_ask`, `run_post`: a request takes the next answer and is written down.
* `askedAll`, `requests_askedAll`: any number of queries, and how they are written down.
-/
namespace HistoricalFigures

/-- What an answer to a query stands for. -/
def QueryAnswer.outcome : QueryAnswer → Except Failure Json
  | .result value => .ok value
  | .failure reason => .error (.endpoint reason)

namespace World

/-! ### Queries -/

/-- The answer to the query with a number from now on. -/
def answerTo (world : World) (number : Nat) : QueryAnswer :=
  world.queryAnswers.getD number world.lastQueryAnswer

/-- The world behind a query: the request is written down and an answer is used up. -/
def asked (world : World) (request : Request) : World :=
  { world with requests := request :: world.requests, queryAnswers := world.queryAnswers.tail }

/-- Behind a query every answer is one nearer. -/
theorem answerTo_asked (world : World) (request : Request) (number : Nat) :
    (world.asked request).answerTo number = world.answerTo (number + 1) := by
  simp only [answerTo, asked, List.getD_eq_getElem?_getD, List.getElem?_tail]

/-- **A query takes the next answer and is written down.** -/
theorem run_ask (url text : String) (timeout : Nat) (world : World) :
    (ask url text timeout).run world =
      ((world.answerTo 0).outcome, world.asked (.query url text timeout)) := by
  obtain ⟨_, _, _, _, answers, _, last, _, _, _⟩ := world
  cases answers with
  | nil => cases last <;> rfl
  | cons answer later => cases answer <;> rfl

/-- The world behind queries, one after the other. -/
def askedAll (world : World) (requests : List Request) : World := requests.foldl asked world

theorem askedAll_cons (world : World) (first : Request) (later : List Request) :
    world.askedAll (first :: later) = (world.asked first).askedAll later := rfl

theorem requests_askedAll (world : World) (requests : List Request) :
    (world.askedAll requests).requests = requests.reverse ++ world.requests := by
  induction requests generalizing world with
  | nil => rfl
  | cons first later found =>
    rw [askedAll_cons, found, List.reverse_cons, List.append_assoc]
    rfl

/-! ### Posted bodies -/

/-- The answer to the posted body with a number from now on. -/
def replyTo (world : World) (number : Nat) : PostAnswer :=
  world.postAnswers.getD number world.lastPostAnswer

/-- The world behind a posted body: the request is written down and an answer is used up. -/
def posted (world : World) (message : Post) : World :=
  { world with
    requests := .post message :: world.requests
    postAnswers := world.postAnswers.tail }

/-- Behind a posted body every answer is one nearer. -/
theorem replyTo_posted (world : World) (message : Post) (number : Nat) :
    (world.posted message).replyTo number = world.replyTo (number + 1) := by
  simp only [replyTo, posted, List.getD_eq_getElem?_getD, List.getElem?_tail]

/-- **A posted body takes the next answer and is written down.** -/
theorem run_post (message : Post) (world : World) :
    (post message).run world = (.ok (world.replyTo 0), world.posted message) := by
  obtain ⟨_, _, _, _, _, answers, _, _, _, _⟩ := world
  cases answers <;> rfl

end World

end HistoricalFigures
