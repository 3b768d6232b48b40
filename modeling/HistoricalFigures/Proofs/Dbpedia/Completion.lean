import HistoricalFigures.Proofs.Dbpedia.Details

/-!
**Searches and the details that complete their figures.** Figures are made of rows, those whose
identifier came before are left out, and one query for each that is kept asks for its details.

* `run_figuresFrom_plain`: without details the rows alone decide.
* `run_figuresFrom_completed`: the details of each figure are those of an answer of its own.
* `figuresFrom_returns_iff`: with details every answer that is used has to be legible as well.
* `details_return_iff`: when the details of a person, and a search that is completed by them, return.
-/
namespace HistoricalFigures.Dbpedia

open Figure (distinctFrom)

variable {search : Search} {seen : List String} {rows : List Json} {row : Json} {figure : Figure}

/-! ### Rows one after the other -/

theorem figuresFrom_of_error {fault : Json.Fault} (fails : figureOf row = .error fault)
    (world : World) :
    (figuresFrom search seen (row :: rows)).run world = (.error (.shape fault), world) := by
  rw [figuresFrom, fails]
  rfl

/-- A figure whose identifier came before is left out. -/
theorem figuresFrom_of_seen (reads : figureOf row = .ok figure) (known : figure.id ∈ seen)
    (world : World) :
    (figuresFrom search seen (row :: rows)).run world = (figuresFrom search seen rows).run world := by
  rw [figuresFrom, Action.run_bind_ok (Action.run_shaped_ok reads world), if_pos known]

/-- Another figure is completed before the next row is read. -/
theorem figuresFrom_of_new (reads : figureOf row = .ok figure) (new : figure.id ∉ seen)
    (world : World) :
    (figuresFrom search seen (row :: rows)).run world =
      (completed search figure >>= fun full => figuresFrom search (full.id :: seen) rows >>=
        fun others => pure (full :: others)).run world := by
  rw [figuresFrom, Action.run_bind_ok (Action.run_shaped_ok reads world), if_neg new]

/-! ### Without details -/

/-- **Without details the rows alone decide**, and nothing is sent. -/
theorem run_figuresFrom_plain (plain : search.withDetails = false) (seen : List String)
    (rows : List Json) (world : World) :
    (figuresFrom search seen rows).run world =
      (((rows.mapM figureOf).map (distinctFrom seen)).mapError Failure.shape, world) := by
  induction rows generalizing seen with
  | nil => rfl
  | cons row rest found =>
    cases reads : figureOf row with
    | error fault =>
      rw [figuresFrom_of_error reads, List.mapM_cons, reads]
      rfl
    | ok figure =>
      rw [mapM_cons_of_ok reads rest]
      by_cases known : figure.id ∈ seen
      · rw [figuresFrom_of_seen reads known, found]
        cases rest.mapM figureOf with
        | error fault => rfl
        | ok figures =>
          show _ = (Except.ok (distinctFrom seen (figure :: figures)), world)
          rw [distinctFrom, if_pos known]
          rfl
      · have here : (completed search figure).run world = (.ok figure, world) := by
          rw [completed, plain]
          rfl
        rw [figuresFrom_of_new reads known, Action.run_bind_ok here, Action.run_bind_pure, found]
        cases rest.mapM figureOf with
        | error fault => rfl
        | ok figures =>
          show _ = (Except.ok (distinctFrom seen (figure :: figures)), world)
          rw [distinctFrom, if_neg known]
          rfl

/-! ### With details -/

section Completed

variable {url : String} (detailed : search.withDetails = true)
  (reached : endpointUrl search.endpoint = .ok url)

/-- The request for the details of a figure. -/
def detailsRequest (search : Search) (url : String) (figure : Figure) : Request :=
  .query url (personQuery figure.uri.shown (detailsLanguage search.endpoint)) timeout

include detailed reached

/-- A figure is completed by what the next answer tells. -/
theorem run_completed (figure : Figure) (world : World) :
    (completed search figure).run world =
      (((detailsIn (world.answerTo 0)).mapError Failure.shape).map (complete figure),
        world.asked (detailsRequest search url figure)) := by
  unfold completed
  rw [if_pos detailed, Action.run_bind_pure, run_personDetails, reached]
  rfl

/-- **The details of each figure are those of an answer of its own**, in the order of the figures. -/
theorem run_figuresFrom_completed {all : List Figure} (reads : rows.mapM figureOf = .ok all)
    (world : World)
    (legible : ∀ number < (distinctFrom seen all).length, IsLegible (world.answerTo number)) :
    (figuresFrom search seen rows).run world =
      (.ok ((distinctFrom seen all).mapIdx fun number figure =>
          complete figure (detailsOf (world.answerTo number))),
        world.askedAll ((distinctFrom seen all).map (detailsRequest search url))) := by
  induction rows generalizing seen world all with
  | nil =>
    cases reads
    rfl
  | cons row rest found =>
    rw [List.mapM_cons] at reads
    obtain ⟨figure, here, reads⟩ := eq_ok_of_bind reads
    obtain ⟨others, there, reads⟩ := eq_ok_of_bind reads
    cases reads
    rw [distinctFrom] at legible ⊢
    by_cases known : figure.id ∈ seen
    · rw [if_pos known] at legible ⊢
      rw [figuresFrom_of_seen here known]
      exact found there world legible
    · rw [if_neg known] at legible ⊢
      have first : (completed search figure).run world =
          (.ok (complete figure (detailsOf (world.answerTo 0))),
            world.asked (detailsRequest search url figure)) := by
        rw [run_completed detailed reached, detailsIn_of_isLegible (legible 0 (Nat.succ_pos _))]
        rfl
      have later : ∀ number < (distinctFrom (figure.id :: seen) others).length,
          IsLegible ((world.asked (detailsRequest search url figure)).answerTo number) :=
        fun number within => by
          rw [World.answerTo_asked]
          exact legible (number + 1) (Nat.succ_lt_succ within)
      have behind := found there (world.asked (detailsRequest search url figure)) later
      simp only [World.answerTo_asked] at behind
      rw [figuresFrom_of_new here known, Action.run_bind_ok first, Action.run_bind_pure,
        List.mapIdx_cons, List.map_cons, World.askedAll_cons,
        show (complete figure (detailsOf (world.answerTo 0))).id = figure.id from rfl, behind]
      rfl

/-- **With details every answer that is used has to be legible**, and the rows have to be read as
without them. -/
theorem figuresFrom_returns_iff (seen : List String) (rows : List Json) (world : World) :
    (∃ figures, ((figuresFrom search seen rows).run world).1 = .ok figures) ↔
      ∃ all, rows.mapM figureOf = .ok all ∧
        ∀ number < (distinctFrom seen all).length, IsLegible (world.answerTo number) := by
  constructor
  · induction rows generalizing seen world with
    | nil => exact fun _ => ⟨[], rfl, nofun⟩
    | cons row rest found =>
      rintro ⟨figures, returns⟩
      cases reads : figureOf row with
      | error fault =>
        rw [figuresFrom_of_error reads] at returns
        cases returns
      | ok figure =>
        rw [mapM_cons_of_ok reads rest]
        by_cases known : figure.id ∈ seen
        · rw [figuresFrom_of_seen reads known] at returns
          obtain ⟨all, there, legible⟩ := found seen world ⟨figures, returns⟩
          refine ⟨figure :: all, by rw [there]; rfl, ?_⟩
          rw [distinctFrom, if_pos known]
          exact legible
        · rw [figuresFrom_of_new reads known] at returns
          obtain ⟨full, middle, here, later⟩ := Action.eq_ok_of_run_bind (Prod.ext returns rfl)
          obtain ⟨others, behind, others_, -⟩ := Action.eq_ok_of_run_bind later
          rw [run_completed detailed reached] at here
          obtain ⟨completes, rfl⟩ := Prod.mk.inj here
          obtain ⟨details, told, rfl⟩ := eq_ok_of_map completes
          obtain ⟨all, there, legible⟩ := found _ _ ⟨others, congrArg Prod.fst others_⟩
          refine ⟨figure :: all, by rw [there]; rfl, ?_⟩
          rw [distinctFrom, if_neg known]
          intro number within
          cases number with
          | zero =>
            exact (detailsIn_returns_iff _).mp ⟨details, eq_ok_of_mapError told⟩
          | succ number =>
            have here := legible number (Nat.lt_of_succ_lt_succ within)
            rwa [World.answerTo_asked] at here
  · rintro ⟨all, reads, legible⟩
    exact ⟨_, congrArg Prod.fst (run_figuresFrom_completed detailed reached reads world legible)⟩

end Completed

/-! ### Searches -/

/-- What a search answers for a query, if its rows can be gone through. -/
def itemsIn (answer : QueryAnswer) : Except Failure (List Json) :=
  (resultIn answer).bind fun result => ((rowsOf result).bind Json.items).mapError Failure.shape

/-- **A search sends its query, and makes figures of the rows of the answer.** -/
theorem Search.run_run (search : Search) (world : World) :
    search.run.run world =
      match search.text, endpointUrl search.endpoint with
      | .error failure, _ => (.error failure, world)
      | .ok _, .error failure => (.error failure, world)
      | .ok text, .ok url =>
        match itemsIn (world.answerTo 0) with
        | .error failure => (.error failure, world.asked (.query url text timeout))
        | .ok rows => (figuresFrom search [] rows).run (world.asked (.query url text timeout)) := by
  unfold Search.run
  cases search.text with
  | error failure => rfl
  | ok text =>
    rw [Action.run_bind_ok (Action.run_ofExcept_ok id rfl world), Action.run_bind, run_query]
    cases endpointUrl search.endpoint with
    | error failure => rfl
    | ok url =>
      dsimp only [itemsIn]
      cases resultIn (world.answerTo 0) with
      | error failure => rfl
      | ok result =>
        dsimp only [Except.bind]
        cases rowsOf result with
        | error fault => rfl
        | ok rows =>
          show ((Action.shaped rows.items >>= fun items => figuresFrom search [] items).run _) = _
          dsimp only
          cases rows.items <;> rfl

/-- A search returns what its rows do, where there are any to go through. -/
theorem Search.run_eq_ok_iff {search : Search} {world : World} {figures : List Figure} :
    (search.run.run world).1 = .ok figures ↔
      ∃ text url rows, search.text = .ok text ∧ endpointUrl search.endpoint = .ok url ∧
        itemsIn (world.answerTo 0) = .ok rows ∧
        ((figuresFrom search [] rows).run (world.asked (.query url text timeout))).1 =
          .ok figures := by
  rw [Search.run_run]
  cases search.text with
  | error failure => exact iff_of_false nofun fun ⟨_, _, _, reads, _⟩ => nomatch reads
  | ok text =>
    cases endpointUrl search.endpoint with
    | error failure => exact iff_of_false nofun fun ⟨_, _, _, _, reached, _⟩ => nomatch reached
    | ok url =>
      cases itemsIn (world.answerTo 0) with
      | error failure => exact iff_of_false nofun fun ⟨_, _, _, _, _, has, _⟩ => nomatch has
      | ok rows =>
        constructor
        · exact fun returns => ⟨text, url, rows, rfl, rfl, rfl, returns⟩
        · rintro ⟨_, _, _, ⟨⟩, ⟨⟩, ⟨⟩, returns⟩
          exact returns

/-- **When the details of a person, and a search that is completed by them, return.** The details do
where the query fails, where its result has no rows, and where its rows are legible. A search does
where it does without details, and each of the answers that follow, one for each of its figures, is
legible. -/
theorem details_return_iff (world : World) :
    (∀ (uri : Json) (language endpoint : String),
      (∃ details, ((personDetails uri language endpoint).run world).1 = .ok details) ↔
        ((∃ url, endpointUrl endpoint = .ok url) → IsLegible (world.answerTo 0))) ∧
    ∀ search : Search,
      (∃ figures, (({ search with withDetails := true } : Search).run.run world).1 = .ok figures) ↔
        ∃ figures, (({ search with withDetails := false } : Search).run.run world).1 = .ok figures ∧
          ∀ number < figures.length, IsLegible (world.answerTo (number + 1)) := by
  constructor
  · intro uri language endpoint
    rw [run_personDetails]
    cases endpointUrl endpoint with
    | error failure => exact iff_of_true ⟨.none, rfl⟩ fun reached => nomatch reached
    | ok url =>
      rw [forall_prop_of_true ⟨url, rfl⟩, ← detailsIn_returns_iff]
      cases detailsIn (world.answerTo 0) with
      | error fault => exact iff_of_false (fun reads => nomatch reads) fun reads => nomatch reads
      | ok details => exact iff_of_true ⟨details, rfl⟩ ⟨details, rfl⟩
  · intro search
    have plain : ({ search with withDetails := false } : Search).withDetails = false := rfl
    have detailed : ({ search with withDetails := true } : Search).withDetails = true := rfl
    simp only [Search.run_eq_ok_iff, run_figuresFrom_plain plain]
    constructor
    · rintro ⟨figures, text, url, rows, selects, reached, has, returns⟩
      obtain ⟨all, reads, legible⟩ :=
        (figuresFrom_returns_iff detailed reached [] rows _).mp ⟨figures, returns⟩
      simp only [World.answerTo_asked] at legible
      exact ⟨distinctFrom [] all, ⟨text, url, rows, selects, reached, has, by rw [reads]; rfl⟩, legible⟩
    · rintro ⟨figures, ⟨text, url, rows, selects, reached, has, tells⟩, legible⟩
      obtain ⟨all, reads, rfl⟩ := eq_ok_of_map (eq_ok_of_mapError tells)
      simp only [← World.answerTo_asked world (.query url text timeout)] at legible
      obtain ⟨figures, returns⟩ :=
        (figuresFrom_returns_iff detailed reached [] rows _).mpr ⟨all, reads, legible⟩
      exact ⟨figures, text, url, rows, selects, reached, has, returns⟩

/-- A network whose next answer has a number for its row. -/
def numberAnswered : World :=
  { World.ofDisk .empty with
    queryAnswers := [.result (.obj [("results", .obj [("bindings", .arr [.int 1])])])] }

/-- **A row that is a number breaks the details of a person.** -/
theorem not_returns_of_numberAnswered :
    ¬ ∃ details, ((personDetails (.str "http://dbpedia.org/resource/A") "es" "es").run
      numberAnswered).1 = .ok details := by
  have fails : ((personDetails (.str "http://dbpedia.org/resource/A") "es" "es").run
      numberAnswered).1 = .error (.shape (.noOperation "int" .get)) := rfl
  rintro ⟨details, returns⟩
  cases fails.symm.trans returns

end HistoricalFigures.Dbpedia
