import HistoricalFigures.Dbpedia.Search
import HistoricalFigures.Proofs.Figure.Rows
import HistoricalFigures.Proofs.Json.Access
import HistoricalFigures.Proofs.World

/-!
**Which answers break the details of a person.** A query that fails is taken for one that tells
nothing, but what its answer holds is read outside of that care.

* `resultIn`, `run_query`: what an answer brings, and a query.
* `Tells`, `TellsDetails`, `IsLegible`: the rows and the answers that can be read.
* `labelOrLocalId_returns_iff`, `ofRow_returns_iff`, `detailsIn_returns_iff`: the readers return for
  those and no others.
* `run_personDetails`: the details of a person are what the next answer tells.
-/
namespace HistoricalFigures.Dbpedia

open Json (IsNested inner? member_member_eq_ok_iff)

/-! ### Queries -/

/-- The result that an answer brings, if its rows can be counted. -/
def resultIn : QueryAnswer → Except Failure Json
  | .failure reason => .error (.endpoint reason)
  | .result result =>
    match (rowsOf result).bind Json.length with
    | .ok _ => .ok result
    | .error fault => .error (.shape fault)

/-- **A query is sent to its endpoint and brings what the next answer does**; without an endpoint
nothing is sent. -/
theorem run_query (text endpoint : String) (world : World) :
    (query text endpoint).run world =
      match endpointUrl endpoint with
      | .error failure => (.error failure, world)
      | .ok url => (resultIn (world.answerTo 0), world.asked (.query url text timeout)) := by
  unfold query
  cases endpointUrl endpoint with
  | error failure => rfl
  | ok url =>
    rw [Action.run_bind_ok (Action.run_ofExcept_ok id rfl world), Action.run_bind, World.run_ask]
    cases world.answerTo 0 with
    | failure reason => rfl
    | result result =>
      simp only [QueryAnswer.outcome, resultIn]
      cases rowsOf result with
      | error fault => rfl
      | ok rows =>
        change ((Action.shaped rows.length >>= fun _ => pure result).run _) =
          (match rows.length with
            | .ok _ => .ok result
            | .error fault => .error (.shape fault), _)
        cases rows.length <;> rfl

/-- What an answer brings. -/
def rows? : QueryAnswer → Option Json
  | .failure _ => none
  | .result result => inner? "results" "bindings" result

theorem rowsOf_eq_ok_iff {result rows : Json} :
    rowsOf result = .ok rows ↔ IsNested "results" result ∧
      rows = (inner? "results" "bindings" result).getD (.arr []) := member_member_eq_ok_iff

theorem rowsOf_of_rows? {result rows : Json} (has : rows? (.result result) = some rows) :
    rowsOf result = .ok rows := by
  refine rowsOf_eq_ok_iff.mpr ⟨Json.isNested_of_inner? has, ?_⟩
  rw [show inner? "results" "bindings" result = some rows from has]
  rfl

/-! ### Values in a row -/

/-- The value of a variable in a row, or else the empty text. -/
def valueOf (name : String) (row : Json) : Json := (inner? name "value" row).getD (.str "")

theorem boundValue_eq_ok_iff {name : String} {row value : Json} :
    Figure.boundValue name row = .ok value ↔ IsNested name row ∧ value = valueOf name row :=
  member_member_eq_ok_iff

/-- A row tells a variable: its label is there to be read and is given, or else its value is, which is
a text unless it does not count as given. -/
def Tells (name : String) (row : Json) : Prop :=
  IsNested (name ++ "Label") row ∧
    ((valueOf (name ++ "Label") row).isTruthy = true ∨
      IsNested name row ∧ ((valueOf name row).isTruthy = true → ∃ text, valueOf name row = .str text))

/-- The variables of which a label is asked for. -/
def labelled : List String := ["birthPlace", "deathPlace", "nationality", "occupation"]

/-- A row tells the details of a person. -/
def TellsDetails (row : Json) : Prop :=
  (∀ name ∈ labelled, Tells name row) ∧ IsNested "thumbnail" row

theorem localIdOf_returns_iff (uri : Json) :
    (∃ id, Figure.localIdOf uri = .ok id) ↔ (uri.isTruthy = true → ∃ text, uri = .str text) := by
  by_cases given : uri.isTruthy = true
  · rw [Figure.localIdOf, if_pos given]
    constructor
    · rintro ⟨id, reads⟩ -
      obtain ⟨marked, holds, reads⟩ := eq_ok_of_bind reads
      obtain ⟨text, isText, -⟩ := eq_ok_of_map reads
      cases uri with
      | str text => exact ⟨text, rfl⟩
      | _ => cases isText
    · intro isText
      obtain ⟨text, rfl⟩ := isText given
      have reads := Figure.localIdOf_str text
      rw [Figure.localIdOf, if_pos given] at reads
      exact ⟨_, reads⟩
  · rw [Figure.localIdOf, if_neg given]
    exact iff_of_true ⟨"", rfl⟩ fun is => absurd is given

/-- **The label of a variable or the last segment of its address can be read** where the row tells
it. -/
theorem labelOrLocalId_returns_iff (name : String) (row : Json) :
    (∃ value, labelOrLocalId name row = .ok value) ↔ Tells name row := by
  constructor
  · rintro ⟨value, reads⟩
    obtain ⟨label, here, reads⟩ := eq_ok_of_bind reads
    obtain ⟨nested, rfl⟩ := boundValue_eq_ok_iff.mp here
    refine ⟨nested, or_iff_not_imp_left.mpr fun missing => ?_⟩
    rw [if_neg missing] at reads
    obtain ⟨address, there, reads⟩ := eq_ok_of_bind reads
    obtain ⟨bound, rfl⟩ := boundValue_eq_ok_iff.mp there
    obtain ⟨id, ids, -⟩ := eq_ok_of_map reads
    exact ⟨bound, (localIdOf_returns_iff _).mp ⟨id, ids⟩⟩
  · rintro ⟨nested, given | ⟨bound, isText⟩⟩
    · refine ⟨valueOf (name ++ "Label") row, ?_⟩
      rw [labelOrLocalId, boundValue_eq_ok_iff.mpr ⟨nested, rfl⟩, ok_bind, if_pos given]
    · rw [labelOrLocalId, boundValue_eq_ok_iff.mpr ⟨nested, rfl⟩, ok_bind]
      split
      · exact ⟨_, rfl⟩
      · obtain ⟨id, ids⟩ := (localIdOf_returns_iff _).mpr isText
        refine ⟨.str id, ?_⟩
        rw [boundValue_eq_ok_iff.mpr ⟨bound, rfl⟩, ok_bind, ids]
        rfl

/-- **The details in a row can be read** where the row tells them. -/
theorem ofRow_returns_iff (row : Json) :
    (∃ details, Details.ofRow row = .ok details) ↔ TellsDetails row := by
  simp only [TellsDetails, labelled, List.forall_mem_cons, List.not_mem_nil, false_imp_iff,
    implies_true, and_true, ← labelOrLocalId_returns_iff]
  constructor
  · rintro ⟨details, reads⟩
    obtain ⟨born, first, reads⟩ := eq_ok_of_bind reads
    obtain ⟨died, second, reads⟩ := eq_ok_of_bind reads
    obtain ⟨belongs, third, reads⟩ := eq_ok_of_bind reads
    obtain ⟨works, fourth, reads⟩ := eq_ok_of_bind reads
    obtain ⟨image, last, -⟩ := eq_ok_of_bind reads
    exact ⟨⟨⟨born, first⟩, ⟨died, second⟩, ⟨belongs, third⟩, works, fourth⟩,
      (boundValue_eq_ok_iff.mp last).1⟩
  · rintro ⟨⟨⟨born, first⟩, ⟨died, second⟩, ⟨belongs, third⟩, works, fourth⟩, image⟩
    refine ⟨⟨born, died, belongs, works, valueOf "thumbnail" row⟩, ?_⟩
    simp only [Details.ofRow, first, second, third, fourth, boundValue_eq_ok_iff.mpr ⟨image, rfl⟩,
      ok_bind]

/-! ### Answers -/

/-- Rows tell the details of a person, or tell nothing, or cannot even be counted, which is taken for
a query that fails. -/
def IsLegibleAs : Json → Prop
  | .arr [] => True
  | .arr (row :: _) => TellsDetails row
  | .str text => text = ""
  | .obj members => members = []
  | _ => True

/-- An answer does not break the details of a person: the query fails, its result has no rows, or its
rows are legible. -/
def IsLegible (answer : QueryAnswer) : Prop := ∀ rows, rows? answer = some rows → IsLegibleAs rows

/-- The details that an answer tells; a query that fails tells none. -/
def detailsIn (answer : QueryAnswer) : Except Json.Fault Details :=
  match resultIn answer with
  | .error _ => .ok .none
  | .ok result => Details.ofResult result

/-- **What an answer tells can be read** where its rows are legible. -/
theorem detailsIn_of_rows {result rows : Json} (has : rowsOf result = .ok rows) :
    (∃ details, detailsIn (.result result) = .ok details) ↔ IsLegibleAs rows := by
  have reads : detailsIn (.result result) =
      match rows.length with
      | .ok _ => if rows.isTruthy then rows.first.bind Details.ofRow else .ok .none
      | .error _ => .ok .none := by
    rw [detailsIn, resultIn, has]
    change (match (match rows.length with
      | .ok _ => Except.ok result
      | .error fault => .error (Failure.shape fault)) with
      | .error _ => Except.ok Details.none
      | .ok result => Details.ofResult result) = _
    cases rows.length with
    | error fault => rfl
    | ok number =>
      change Details.ofResult result = _
      rw [Details.ofResult, has]
      rfl
  rw [reads]
  cases rows with
  | arr items =>
    cases items with
    | nil => exact iff_of_true ⟨.none, rfl⟩ trivial
    | cons row later => exact ofRow_returns_iff row
  | str text =>
    by_cases nothing : text = ""
    · subst nothing
      exact iff_of_true ⟨.none, rfl⟩ rfl
    · refine iff_of_false ?_ nothing
      rintro ⟨details, tells⟩
      have given := Json.isTruthy_str.mpr nothing
      simp only [Json.length, Json.items?, given, if_true] at tells
      obtain ⟨row, first, tells⟩ := eq_ok_of_bind tells
      have told := (ofRow_returns_iff row).mp ⟨details, tells⟩
      obtain ⟨later, list⟩ := Json.exists_of_first first told.2.1
      cases list
  | obj members =>
    cases members with
    | nil => exact iff_of_true ⟨.none, rfl⟩ rfl
    | cons member later => exact iff_of_false (fun ⟨_, tells⟩ => nomatch tells) nofun
  | _ => exact iff_of_true ⟨.none, rfl⟩ trivial

/-- **What an answer tells can be read exactly if the answer is legible.** -/
theorem detailsIn_returns_iff (answer : QueryAnswer) :
    (∃ details, detailsIn answer = .ok details) ↔ IsLegible answer := by
  cases answer with
  | failure reason => exact iff_of_true ⟨.none, rfl⟩ nofun
  | result result =>
    cases has : rowsOf result with
    | error fault =>
      refine iff_of_true ⟨.none, by rw [detailsIn, resultIn, has]; rfl⟩ fun rows given => ?_
      have nested := Json.isNested_of_inner? given
      rw [rowsOf_eq_ok_iff.mpr ⟨nested, rfl⟩] at has
      cases has
    | ok rows =>
      rw [detailsIn_of_rows has]
      obtain ⟨-, rfl⟩ := rowsOf_eq_ok_iff.mp has
      change _ ↔ ∀ rows, inner? "results" "bindings" result = some rows → IsLegibleAs rows
      cases inner? "results" "bindings" result with
      | none => exact iff_of_true trivial nofun
      | some rows =>
        exact ⟨fun legible _ same => Option.some.inj same ▸ legible, fun legible => legible rows rfl⟩

/-- The details that an answer tells, or none where it is not legible. -/
def detailsOf (answer : QueryAnswer) : Details := (detailsIn answer).toOption.getD .none

theorem detailsIn_of_isLegible {answer : QueryAnswer} (legible : IsLegible answer) :
    detailsIn answer = .ok (detailsOf answer) := by
  obtain ⟨details, tells⟩ := (detailsIn_returns_iff answer).mpr legible
  rw [detailsOf, tells]
  rfl

/-- **The details of a person are what the next answer tells**; without an endpoint nothing is sent and
nothing is told. -/
theorem run_personDetails (uri : Json) (language endpoint : String) (world : World) :
    (personDetails uri language endpoint).run world =
      match endpointUrl endpoint with
      | .error _ => (.ok .none, world)
      | .ok url => ((detailsIn (world.answerTo 0)).mapError Failure.shape,
          world.asked (.query url (personQuery uri.shown language) timeout)) := by
  unfold personDetails
  rw [Action.run_bind_ok (Action.run_attempt _ _), run_query]
  cases endpointUrl endpoint with
  | error failure => rfl
  | ok url =>
    simp only [detailsIn]
    cases resultIn (world.answerTo 0) with
    | error failure => rfl
    | ok result => cases told : Details.ofResult result <;> simp only [told] <;> rfl

end HistoricalFigures.Dbpedia
