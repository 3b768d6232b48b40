import HistoricalFigures.Proofs.Dbpedia.Completion
import HistoricalFigures.Proofs.Rdf.Store

/-!
**What a search tells where the answers are well formed.** The first answer brings rows that bind
their variables to texts; each later one does so too, or fails.

* `Figure.map_id_distinctFrom`, `Figure.find?_of_mem_distinctFrom`: the figures that are kept.
* `IsRow`, `IsRows`, `IsAnswer`: well-formed rows and answers.
* `figureIn`, `completedBy`: what a row tells of a figure, and what an answer adds to that.
* `Search.run_answered`: the figures of a search, and the requests it sends.
-/
namespace HistoricalFigures

/-! ### Figures without repetition -/

namespace Figure

/-- The identifiers of the figures that are kept are those that are new, each one once. -/
theorem map_id_distinctFrom (seen : List String) (figures : List Figure) :
    (distinctFrom seen figures).map Figure.id =
      ((figures.map Figure.id).filter (· ∉ seen)).eraseDups := by
  induction figures generalizing seen with
  | nil => rfl
  | cons figure rest found =>
    rw [distinctFrom, List.map_cons]
    by_cases known : figure.id ∈ seen
    · rw [if_pos known, found, List.filter_cons_of_neg (by simp [known])]
    · rw [if_neg known, List.map_cons, found, List.filter_cons_of_pos (by simp [known]),
        List.eraseDups_cons, List.filter_filter]
      congr 3
      funext id
      by_cases same : id = figure.id <;> simp [same]

/-- **A figure that is kept is the first one with its identifier**, which is new. -/
theorem find?_of_mem_distinctFrom {seen : List String} {figures : List Figure} {figure : Figure}
    (kept : figure ∈ distinctFrom seen figures) :
    figure.id ∉ seen ∧ figures.find? (fun other => other.id = figure.id) = some figure := by
  induction figures generalizing seen with
  | nil => cases kept
  | cons first rest found =>
    rw [distinctFrom] at kept
    by_cases known : first.id ∈ seen
    · rw [if_pos known] at kept
      obtain ⟨new, here⟩ := found kept
      have other : first.id ≠ figure.id := ne_of_mem_of_not_mem known new
      exact ⟨new, by rw [List.find?_cons_of_neg (by simpa using other), here]⟩
    · rw [if_neg known, List.mem_cons] at kept
      rcases kept with rfl | later
      · exact ⟨known, List.find?_cons_of_pos (by simp)⟩
      · obtain ⟨new, here⟩ := found later
        rw [List.mem_cons, not_or] at new
        exact ⟨new.2, by rw [List.find?_cons_of_neg (by simpa using Ne.symm new.1), here]⟩

theorem distinctFrom_sublist (seen : List String) (figures : List Figure) :
    (distinctFrom seen figures).Sublist figures := by
  induction figures generalizing seen with
  | nil => exact List.Sublist.refl []
  | cons figure rest found =>
    rw [distinctFrom]
    split
    · exact (found seen).cons figure
    · exact (found (figure.id :: seen)).cons_cons figure

end Figure

namespace Dbpedia

open Json (IsNested inner? member?)

/-! ### Well-formed rows -/

/-- A row binds its variables to texts. -/
def IsRow (row : Json) : Prop :=
  row.IsObject ∧ ∀ name bound, member? name row = some bound →
    ∃ text, member? "value" bound = some (.str text)

/-- An answer brings rows that bind their variables to texts. -/
def IsRows (answer : QueryAnswer) (rows : List Json) : Prop :=
  rows? answer = some (.arr rows) ∧ ∀ row ∈ rows, IsRow row

/-- An answer is well formed: it fails, or brings well-formed rows. -/
def IsAnswer (answer : QueryAnswer) : Prop :=
  (∃ reason, answer = .failure reason) ∨ ∃ rows, IsRows answer rows

/-- The text of a variable in a row, empty where the row has none. -/
def textIn (name : String) (row : Json) : String :=
  match inner? name "value" row with
  | some (.str text) => text
  | _ => ""

/-- The label of a variable in a row, or else the last segment of its address. -/
def labelIn (name : String) (row : Json) : String :=
  if textIn (name ++ "Label") row = "" then Figure.localId (textIn name row)
  else textIn (name ++ "Label") row

/-- The identifier of the person of a row. -/
def idIn (row : Json) : String := Figure.localId (textIn "person" row)

/-- The figure that a row tells. -/
def figureIn (row : Json) : Figure where
  id := idIn row
  uri := .str (textIn "person" row)
  name := .str (textIn "name" row)
  description := .str (textIn "abstract" row)
  thumbnail := .str (textIn "thumbnail" row)
  birthDate := .str (textIn "birthDate" row)
  deathDate := .str (textIn "deathDate" row)
  birthPlace := .str (textIn "birthPlace" row)
  deathPlace := .str (textIn "deathPlace" row)
  nationality := .str (textIn "nationality" row)
  occupation := .str (textIn "occupation" row)
  source := "dbpedia"

/-- A text in the place of a value, unless it is empty. -/
def instead (text : String) (value : Json) : Json := if text = "" then value else .str text

/-- A figure to which the first row of an answer adds its labels, or else its local identifiers, and
its image. -/
def completedBy (answer : QueryAnswer) (figure : Figure) : Figure :=
  match rows? answer with
  | some (.arr (row :: _)) =>
    { figure with
      birthPlace := instead (labelIn "birthPlace" row) figure.birthPlace
      deathPlace := instead (labelIn "deathPlace" row) figure.deathPlace
      nationality := instead (labelIn "nationality" row) figure.nationality
      occupation := instead (labelIn "occupation" row) figure.occupation
      thumbnail := instead (textIn "thumbnail" row) figure.thumbnail }
  | _ => figure

section Rows

variable {row : Json} (wellFormed : IsRow row)
include wellFormed

theorem boundValue_of_isRow (name : String) :
    Figure.boundValue name row = .ok (.str (textIn name row)) := by
  obtain ⟨object, texts⟩ := wellFormed
  have nested : IsNested name row := ⟨object, fun bound given => by
    obtain ⟨text, has⟩ := texts name bound given
    cases bound with
    | obj members => trivial
    | _ => cases has⟩
  refine boundValue_eq_ok_iff.mpr ⟨nested, ?_⟩
  rw [valueOf, textIn, inner?]
  cases given : member? name row with
  | none => rfl
  | some bound =>
    obtain ⟨text, has⟩ := texts name bound given
    rw [Option.bind_some, has]
    rfl

/-- **A well-formed row tells a figure.** -/
theorem figureOf_of_isRow : figureOf row = .ok (figureIn row) := by
  simp only [figureOf, boundValue_of_isRow wellFormed, Figure.localIdOf_str, ok_bind]
  rfl

theorem labelOrLocalId_of_isRow (name : String) :
    labelOrLocalId name row = .ok (.str (labelIn name row)) := by
  rw [labelOrLocalId, boundValue_of_isRow wellFormed, ok_bind, labelIn]
  by_cases empty : textIn (name ++ "Label") row = ""
  · rw [empty, boundValue_of_isRow wellFormed, ok_bind, Figure.localIdOf_str, if_pos rfl]
    rfl
  · rw [if_neg empty, if_pos (Json.isTruthy_str.mpr empty)]

/-- **A well-formed row tells details.** -/
theorem ofRow_of_isRow : Details.ofRow row = .ok ⟨.str (labelIn "birthPlace" row),
    .str (labelIn "deathPlace" row), .str (labelIn "nationality" row),
    .str (labelIn "occupation" row), .str (textIn "thumbnail" row)⟩ := by
  simp only [Details.ofRow, labelOrLocalId_of_isRow wellFormed, boundValue_of_isRow wellFormed,
    ok_bind]

end Rows

/-! ### Well-formed answers -/

theorem orElse_str (text : String) (value : Json) : (Json.str text).orElse value = instead text value := by
  by_cases empty : text = ""
  · rw [instead, if_pos empty, empty]
    rfl
  · rw [instead, if_neg empty, Json.orElse, if_pos (Json.isTruthy_str.mpr empty)]

theorem items_of_isRows {answer : QueryAnswer} {rows : List Json} (wellFormed : IsRows answer rows) :
    itemsIn answer = .ok rows := by
  obtain ⟨has, -⟩ := wellFormed
  cases answer with
  | failure reason => cases has
  | result result =>
    rw [itemsIn, resultIn, rowsOf_of_rows? has]
    show ((rowsOf result).bind Json.items).mapError Failure.shape = _
    rw [rowsOf_of_rows? has]
    rfl

/-- **What a well-formed answer tells completes a figure.** -/
theorem complete_detailsOf {answer : QueryAnswer} (wellFormed : IsAnswer answer) (figure : Figure) :
    IsLegible answer ∧ complete figure (detailsOf answer) = completedBy answer figure := by
  rcases wellFormed with ⟨reason, rfl⟩ | ⟨rows, has, each⟩
  · exact ⟨nofun, rfl⟩
  · cases answer with
    | failure reason => cases has
    | result result =>
      have reads := rowsOf_of_rows? has
      have told : detailsIn (.result result) = Details.ofResult result := by
        rw [detailsIn, resultIn, reads]
        rfl
      rw [completedBy, has, detailsOf, told, Details.ofResult, reads, ok_bind]
      cases rows with
      | nil => exact ⟨fun rows given => by cases has.symm.trans given; trivial, rfl⟩
      | cons row later =>
        have row_ := ofRow_of_isRow (each row List.mem_cons_self)
        refine ⟨fun rows given => ?_, ?_⟩
        · cases has.symm.trans given
          exact (ofRow_returns_iff row).mp ⟨_, row_⟩
        · show complete figure ((Details.ofRow row).toOption.getD .none) = _
          rw [row_]
          simp only [complete, orElse_str, Except.toOption, Option.getD_some]

/-! ### Searches -/

/-- The request that a search sends. -/
def searchRequest (search : Search) (url : String) (limit : Int) : Request :=
  .query url (searchQuery search.language (Literal.escapeLiteral search.term) (Json.intText limit))
    timeout

/-- The requests that a search sends for the details of figures. -/
def detailsRequests (search : Search) (url : String) (figures : List Figure) : List Request :=
  if search.withDetails then figures.map (detailsRequest search url) else []

/-- The figure of a search with a number: with details the answer that comes behind that of the search
by so many adds to it. -/
def enriched (search : Search) (world : World) (number : Nat) (figure : Figure) : Figure :=
  if search.withDetails then completedBy (world.answerTo (number + 1)) figure else figure

theorem id_enriched (search : Search) (world : World) (number : Nat) (figure : Figure) :
    (enriched search world number figure).id = figure.id := by
  unfold enriched completedBy
  split
  · split <;> rfl
  · rfl

theorem uri_enriched (search : Search) (world : World) (number : Nat) (figure : Figure) :
    (enriched search world number figure).uri = figure.uri := by
  unfold enriched completedBy
  split
  · split <;> rfl
  · rfl

/-- What is the same of each value behind a change is the same of all of them. -/
theorem map_mapIdx_of_eq {α β : Type} {change : Nat → α → α} {part : α → β}
    (same : ∀ number value, part (change number value) = part value) (values : List α) :
    (values.mapIdx change).map part = values.map part := by
  apply List.ext_getElem?
  intro number
  simp [same, Function.comp_def]

/-- **Well-formed rows give the figures that are first with their identifiers**, each with what its own
answer adds. -/
theorem run_figuresFrom_of_isRow {search : Search} {world : World} {request : Request} {url : String}
    {rows : List Json} (reached : endpointUrl search.endpoint = .ok url)
    (wellFormed : ∀ row ∈ rows, IsRow row)
    (later : ∀ number < rows.length, IsAnswer (world.answerTo (number + 1))) :
    (figuresFrom search [] rows).run (world.asked request) =
      (.ok ((Figure.distinct (rows.map figureIn)).mapIdx (enriched search world)),
        (world.asked request).askedAll
          (detailsRequests search url (Figure.distinct (rows.map figureIn)))) := by
  have reads : rows.mapM figureOf = .ok (rows.map figureIn) :=
    mapM_eq_ok fun row member => figureOf_of_isRow (wellFormed row member)
  by_cases detailed : search.withDetails = true
  · have within : (Figure.distinct (rows.map figureIn)).length ≤ rows.length := by
      simpa [Figure.distinct] using (Figure.distinctFrom_sublist [] (rows.map figureIn)).length_le
    have answers : ∀ number < (Figure.distinct (rows.map figureIn)).length,
        IsAnswer ((world.asked request).answerTo number) := fun number less => by
      rw [World.answerTo_asked]
      exact later number (Nat.lt_of_lt_of_le less within)
    -- The search itself has used up the first answer.
    have told := run_figuresFrom_completed detailed reached reads (world.asked request)
      fun number less => (complete_detailsOf (answers number less) (figureIn .null)).1
    rw [detailsRequests, if_pos detailed]
    refine told.trans (congrArg (fun figures => (Except.ok figures, _)) ?_)
    refine List.mapIdx_eq_mapIdx_iff.mpr fun number less => ?_
    rw [(complete_detailsOf (answers number less) _).2, enriched, if_pos detailed,
      World.answerTo_asked]
  · have plain := Bool.eq_false_iff.mpr detailed
    have nothing : ∀ number, enriched search world number = id := fun number =>
      funext fun figure => if_neg detailed
    have same : (Figure.distinct (rows.map figureIn)).mapIdx (enriched search world) =
        Figure.distinct (rows.map figureIn) := by
      apply List.ext_getElem?
      intro number
      simp [nothing]
    rw [run_figuresFrom_plain plain, reads, detailsRequests, if_neg detailed, same]
    rfl

/-- **A search tells each person once, and completes each by an answer of its own.** There is one
figure for each different identifier of the rows, in the order of the first row with it and with what
that row tells; with details the answer that belongs to the figure adds what it tells. One query is
sent, and with details one more for each figure in that order. -/
theorem Search.run_answered {search : Search} {world : World} {limit : Int} {url : String}
    {rows : List Json} (known : search.language ∈ languages)
    (limited : search.limit.integer = .ok limit) (reached : endpointUrl search.endpoint = .ok url)
    (first : IsRows (world.answerTo 0) rows)
    (later : ∀ number < rows.length, IsAnswer (world.answerTo (number + 1))) :
    ∃ figures, (search.run.run world).1 = .ok figures ∧
      figures.map Figure.id = (rows.map idIn).eraseDups ∧ (figures.map Figure.id).Nodup ∧
      (∀ number figure, figures[number]? = some figure →
        ∃ row, rows.find? (fun row => idIn row = figure.id) = some row ∧
          figure = enriched search world number (figureIn row)) ∧
      (search.run.run world).2.requests =
        (searchRequest search url limit :: detailsRequests search url figures).reverse ++
          world.requests := by
  have runs : search.run.run world =
      (figuresFrom search [] rows).run (world.asked (searchRequest search url limit)) := by
    rw [Search.run_run, Search.text, if_pos known, limited, reached, items_of_isRows first]
    rfl
  rw [runs, run_figuresFrom_of_isRow reached first.2 later]
  have ids : ((Figure.distinct (rows.map figureIn)).mapIdx (enriched search world)).map Figure.id =
      (rows.map idIn).eraseDups := by
    rw [map_mapIdx_of_eq (id_enriched search world), Figure.distinct, Figure.map_id_distinctFrom,
      List.map_map, List.filter_eq_self.mpr (by simp)]
    rfl
  refine ⟨_, rfl, ids, ids ▸ Rdf.Store.nodup_eraseDups _, fun number figure here => ?_, ?_⟩
  · rw [List.getElem?_mapIdx] at here
    obtain ⟨plain, there, rfl⟩ := Option.map_eq_some_iff.mp here
    obtain ⟨-, found⟩ := Figure.find?_of_mem_distinctFrom (List.mem_of_getElem? there)
    rw [List.find?_map] at found
    obtain ⟨row, among, rfl⟩ := Option.map_eq_some_iff.mp found
    refine ⟨row, ?_, rfl⟩
    rw [id_enriched]
    exact among
  · have same : detailsRequests search url
        ((Figure.distinct (rows.map figureIn)).mapIdx (enriched search world)) =
          detailsRequests search url (Figure.distinct (rows.map figureIn)) := by
      unfold detailsRequests
      rw [map_mapIdx_of_eq fun number figure => by rw [detailsRequest, uri_enriched]; rfl]
    rw [World.requests_askedAll, same, List.reverse_cons, List.append_assoc]
    rfl

/-! ### Two people in three rows -/

/-- A row with texts, as an endpoint writes it. -/
def rowOf (texts : List (String × String)) : Json :=
  .obj (texts.map fun entry => (entry.1, .obj [("type", .str "literal"), ("value", .str entry.2)]))

/-- An answer with such rows. -/
def answerOf (rows : List (List (String × String))) : QueryAnswer :=
  .result (.obj [("results", .obj [("bindings", .arr (rows.map rowOf))])])

theorem isRows_answerOf (rows : List (List (String × String))) :
    IsRows (answerOf rows) (rows.map rowOf) := by
  refine ⟨rfl, fun row member => ?_⟩
  obtain ⟨texts, -, rfl⟩ := List.mem_map.mp member
  refine ⟨trivial, fun name bound given => ?_⟩
  obtain ⟨before, behind, entries, -⟩ := List.lookup_eq_some_iff.mp given
  obtain ⟨entry, -, same⟩ := List.mem_map.mp (entries ▸ List.mem_append_right before List.mem_cons_self)
  obtain ⟨-, rfl⟩ := Prod.mk.inj same
  exact ⟨entry.2, rfl⟩

/-- Two people, of whom the first one has two rows. -/
def twoPeople : List (List (String × String)) :=
  [[("person", "http://x/A"), ("birthPlace", "http://x/C")],
    [("person", "http://x/B"), ("occupation", "http://x/M")], [("person", "http://x/A"), ("name", "a")]]

/-- A network that tells of two people, fails at the details of the first one, and has a label and an
address for the second one. -/
def twoAnswered : World :=
  { World.ofDisk .empty with
    queryAnswers := [answerOf twoPeople, .failure "timeout",
      answerOf [[("occupation", "http://x/M"), ("birthPlaceLabel", "D")]]]
    lastQueryAnswer := .failure "none" }

/-- A search with details at an endpoint with an address of its own. -/
def twoSearched : Search := ⟨"\x22", "both", "https://x", .str "5", true⟩

/-- Of two people in three rows each is told once, by three requests. -/
theorem run_answered_of_twoPeople :
    ∃ figures, (twoSearched.run.run twoAnswered).1 = .ok figures ∧
      figures.map Figure.id = ["A", "B"] ∧
      (twoSearched.run.run twoAnswered).2.requests.length = 3 := by
  have known : twoSearched.language ∈ languages := by decide
  have limited : twoSearched.limit.integer = .ok 5 := rfl
  have reached : endpointUrl twoSearched.endpoint = .ok "https://x" := rfl
  have first : IsRows (twoAnswered.answerTo 0) (twoPeople.map rowOf) := isRows_answerOf twoPeople
  have later : ∀ number < (twoPeople.map rowOf).length,
      IsAnswer (twoAnswered.answerTo (number + 1)) := by
    intro number less
    match number, less with
    | 0, _ => exact .inl ⟨"timeout", rfl⟩
    | 1, _ => exact .inr ⟨_, isRows_answerOf _⟩
    | 2, _ => exact .inl ⟨"none", rfl⟩
  obtain ⟨figures, returns, ids, -, -, sent⟩ :=
    Search.run_answered known limited reached first later
  have two : ((twoPeople.map rowOf).map idIn).eraseDups = ["A", "B"] := by decide
  rw [two] at ids
  refine ⟨figures, returns, ids, ?_⟩
  have count : figures.length = 2 := by simpa using congrArg List.length ids
  rw [sent, detailsRequests, if_pos (show twoSearched.withDetails = true from rfl)]
  simp [count, twoAnswered, World.ofDisk]

end Dbpedia

end HistoricalFigures
