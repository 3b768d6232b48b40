import HistoricalFigures.Fuseki.Client
import HistoricalFigures.Proofs.Json.Access
import HistoricalFigures.Proofs.World

/-!
**How requests to a Fuseki dataset fail.** What the server answers is any text, and what that text
writes any value.

* `IsTold`: an outcome that is a value, or a failure that tells of the dataset.
* `Brings`, `IsReadable`: what a reply brings, and the replies that can be read that far.
* `IsCountable`, `IsListable`: the results that numbers and graphs can be read from.
* `countsOf_returns_iff`, `graphsOf_returns_iff`: the readers return for those and no others.
* `failures_told_iff`: when requests fail in no other way.
-/
namespace HistoricalFigures.Fuseki

open Json (IsNested inner? member? member_member_eq_ok_iff)

/-- An outcome is a value, or a failure that tells of the dataset. -/
def IsTold {α : Type} (outcome : Except Failure α) : Prop :=
  ∀ failure, outcome = .error failure → ∃ fault, failure = .fuseki fault

theorem isTold_ok {α : Type} (value : α) : IsTold (.ok value) := nofun

theorem isTold_error_iff {α : Type} {failure : Failure} :
    IsTold (.error failure : Except Failure α) ↔ ∃ fault, failure = .fuseki fault :=
  ⟨fun told => told failure rfl, fun tells _ same => Except.error.inj same ▸ tells⟩

theorem isTold_fuseki {α : Type} (fault : FusekiFault) :
    IsTold (.error (.fuseki fault) : Except Failure α) := isTold_error_iff.mpr ⟨fault, rfl⟩

/-- **An action behind another one fails for the dataset only** where both do. -/
theorem isTold_run_bind {σ α β : Type} {action : Action σ α} {next : α → Action σ β} {state : σ} :
    IsTold ((action >>= next).run state).1 ↔ IsTold (action.run state).1 ∧
      ∀ value, (action.run state).1 = .ok value →
        IsTold ((next value).run (action.run state).2).1 := by
  rw [Action.run_bind]
  rcases action.run state with ⟨failure | value, changed⟩
  · show IsTold (.error failure) ↔ IsTold (.error failure) ∧ _
    rw [isTold_error_iff, isTold_error_iff]
    exact (and_iff_left nofun).symm
  · constructor
    · exact fun told => ⟨isTold_ok value, fun _ same => Except.ok.inj same ▸ told⟩
    · exact fun both => both.2 value rfl

/-- A fault in the shape of a value tells of no dataset. -/
theorem isTold_shaped_iff {σ α : Type} {outcome : Except Json.Fault α} {state : σ} :
    IsTold ((Action.shaped outcome : Action σ α).run state).1 ↔ ∃ value, outcome = .ok value := by
  cases outcome with
  | ok value => exact iff_of_true (isTold_ok value) ⟨value, rfl⟩
  | error fault =>
    refine iff_of_false (fun told => ?_) nofun
    obtain ⟨other, same⟩ := isTold_error_iff.mp told
    cases same

/-! ### Replies -/

/-- The body of a reply that tells of success. -/
def successBody? : PostAnswer → Option String
  | .failure _ => none
  | .response status body => if isSuccess status then some body else none

/-- A reply brings the value that its body writes. -/
def Brings (reply : PostAnswer) (result : Json) : Prop :=
  ∃ body, successBody? reply = some body ∧ Json.parseShallow body = .ok (some result)

/-- A reply does not nest values too deep to be read. -/
def IsReadable (reply : PostAnswer) : Prop :=
  ∀ body, successBody? reply = some body → ∃ told, Json.parseShallow body = .ok told

/-- The outcome of a request for an address. -/
def bodyIn (url : String) : PostAnswer → Except Failure String
  | .failure reason => .error (.fuseki (.unreachable url reason))
  | .response status body =>
    if isSuccess status then .ok body else .error (.fuseki (.rejected status url body))

variable (config : Config)

theorem run_post (url : String) (headers : Http.Headers) (body : String) (world : World) :
    (post config url headers body).run world = (bodyIn url (world.replyTo 0),
      world.posted ⟨url, headers, body, config.credentials, config.timeout⟩) := by
  rw [post, Action.run_bind_ok (World.run_post _ world)]
  cases world.replyTo 0 with
  | failure reason => rfl
  | response status answer =>
    dsimp only [bodyIn]
    split <;> rfl

theorem isTold_bodyIn (url : String) (reply : PostAnswer) : IsTold (bodyIn url reply) := by
  cases reply with
  | failure reason => exact isTold_fuseki _
  | response status body =>
    rw [bodyIn]
    split
    · exact isTold_ok body
    · exact isTold_fuseki _

theorem bodyIn_eq_ok_iff {url body : String} {reply : PostAnswer} :
    bodyIn url reply = .ok body ↔ successBody? reply = some body := by
  cases reply with
  | failure reason => exact iff_of_false nofun nofun
  | response status answer =>
    rw [bodyIn, successBody?]
    split
    · rw [Except.ok.injEq, Option.some.injEq]
    · exact iff_of_false nofun nofun

/-- A request tells of the dataset however it fails. -/
theorem isTold_post (url : String) (headers : Http.Headers) (body : String) (world : World) :
    IsTold ((post config url headers body).run world).1 := by
  rw [run_post]
  exact isTold_bodyIn url _

/-! ### Queries -/

/-- The outcome of a query. -/
def resultIn (reply : PostAnswer) : Except Failure Json :=
  (bodyIn config.queryUrl reply).bind fun body =>
    match Json.parseShallow body with
    | .error container => .error (.tooDeep (.text container))
    | .ok none => .error (.fuseki (.noJson config.queryUrl body))
    | .ok (some result) => .ok result

/-- A query takes the next reply and is written down. -/
theorem run_query (text : String) (world : World) :
    (query config text).run world = (resultIn config (world.replyTo 0),
      world.posted ⟨config.queryUrl, queryHeaders, text, config.credentials, config.timeout⟩) := by
  rw [query, Action.run_bind, run_post, resultIn]
  cases bodyIn config.queryUrl (world.replyTo 0) with
  | error failure => rfl
  | ok body =>
    dsimp only [Except.bind]
    cases Json.parseShallow body with
    | error container => rfl
    | ok told => cases told <;> rfl

theorem resultIn_eq_ok_iff {reply : PostAnswer} {result : Json} :
    resultIn config reply = .ok result ↔ Brings reply result := by
  constructor
  · intro brings
    obtain ⟨body, here, brings⟩ := eq_ok_of_bind brings
    refine ⟨body, bodyIn_eq_ok_iff.mp here, ?_⟩
    cases parsed : Json.parseShallow body with
    | error container =>
      rw [parsed] at brings
      cases brings
    | ok told =>
      rw [parsed] at brings
      cases told <;> cases brings
      rfl
  · rintro ⟨body, here, parsed⟩
    have brings : bodyIn config.queryUrl reply = .ok body := bodyIn_eq_ok_iff.mpr here
    rw [resultIn, brings, Except.bind, parsed]

/-- **A query fails for the dataset only** where its reply can be read. -/
theorem isTold_resultIn_iff (reply : PostAnswer) : IsTold (resultIn config reply) ↔ IsReadable reply := by
  have same : IsReadable reply ↔ ∀ body, bodyIn config.queryUrl reply = .ok body →
      ∃ told, Json.parseShallow body = .ok told := by
    simp only [IsReadable, bodyIn_eq_ok_iff]
  rw [same, resultIn]
  have told := isTold_bodyIn config.queryUrl reply
  cases here : bodyIn config.queryUrl reply with
  | error failure =>
    rw [here] at told
    exact iff_of_true (isTold_error_iff.mpr (isTold_error_iff.mp told)) nofun
  | ok body =>
    rw [Except.bind]
    simp only [Except.ok.injEq, forall_eq']
    cases Json.parseShallow body with
    | error container =>
      exact iff_of_false (fun told => nomatch isTold_error_iff.mp told) nofun
    | ok told =>
      refine iff_of_true ?_ ⟨told, rfl⟩
      cases told with
      | none => exact isTold_fuseki _
      | some result => exact isTold_ok result

/-! ### Numbers and graphs -/

/-- A row counts: each number in it is an integer or the text of one, or is missing. -/
def Counts (row : Json) : Prop :=
  ∀ name ∈ counted, IsNested name row ∧
    ∃ number, ((inner? name "value" row).getD (.int 0)).integer = .ok number

/-- Numbers can be read from a result: it has no rows, or a list of rows of which the first counts. -/
def IsCountable (result : Json) : Prop :=
  IsNested "results" result ∧ ∀ rows, inner? "results" "bindings" result = some rows →
    rows.isTruthy = true → ∃ row later, rows = .arr (row :: later) ∧ Counts row

/-- A graph, or that there is none, can be read from a part of the rows: an object has a value for it,
if it has anything; a list or a text does not mention it. -/
def HasGraph : Json → Prop
  | .obj members => ∀ graph, Assoc.get? members "g" = some graph →
      ∃ value, member? "value" graph = some value
  | .arr items => .str "g" ∉ items
  | .str text => 'g' ∉ text.toList
  | _ => False

/-- Graphs can be read from a result: it has no rows, or parts that can be gone through and read. -/
def IsListable (result : Json) : Prop :=
  IsNested "results" result ∧ ∀ rows, inner? "results" "bindings" result = some rows →
    ∃ items, rows.items? = some items ∧ ∀ item ∈ items, HasGraph item

theorem rowsOf_eq_ok_iff {result rows : Json} :
    rowsOf result = .ok rows ↔ IsNested "results" result ∧
      rows = (inner? "results" "bindings" result).getD (.arr []) := member_member_eq_ok_iff

/-- A number can be read from a row where what it has for it is an object with an integer. -/
theorem count_returns_iff (name : String) (row : Json) :
    (∃ entry : String × Json, (do
      let value ← Json.member "value" (.int 0) (← Json.member name (.obj []) row)
      .ok (name, .int (← value.integer)) : Except Json.Fault (String × Json)) = .ok entry) ↔
      IsNested name row ∧ ∃ number, ((inner? name "value" row).getD (.int 0)).integer = .ok number := by
  constructor
  · rintro ⟨entry, reads⟩
    obtain ⟨bound, here, reads⟩ := eq_ok_of_bind reads
    obtain ⟨value, there, reads⟩ := eq_ok_of_bind reads
    obtain ⟨number, counts, -⟩ := eq_ok_of_bind reads
    have both : (Json.member name (.obj []) row).bind (Json.member "value" (.int 0)) = .ok value := by
      rw [here]
      exact there
    obtain ⟨nested, rfl⟩ := member_member_eq_ok_iff.mp both
    exact ⟨nested, number, counts⟩
  · rintro ⟨nested, number, counts⟩
    have both : (Json.member name (.obj []) row).bind (Json.member "value" (.int 0)) = .ok _ :=
      member_member_eq_ok_iff.mpr ⟨nested, rfl⟩
    obtain ⟨bound, here, there⟩ := eq_ok_of_bind both
    refine ⟨(name, .int number), ?_⟩
    rw [here, ok_bind, there, ok_bind, counts, ok_bind]

/-- A row with nothing in it counts. -/
theorem counts_empty : Counts (.obj []) := fun _ _ => ⟨⟨trivial, nofun⟩, 0, rfl⟩

/-- The numbers of a row. -/
def countsIn (row : Json) : Except Json.Fault (Assoc Json) :=
  counted.mapM fun name => do
    let value ← Json.member "value" (.int 0) (← Json.member name (.obj []) row)
    .ok (name, .int (← value.integer))

/-- The numbers of a row can be read exactly if it counts. -/
theorem countsIn_returns_iff (row : Json) : (∃ counts, countsIn row = .ok counts) ↔ Counts row := by
  rw [countsIn, mapM_returns_iff, Counts]
  simp only [count_returns_iff]

/-- The numbers of rows are those of the first one, if there is any. -/
theorem countsOf_of_rowsOf {result rows : Json} (has : rowsOf result = .ok rows) :
    countsOf result = if rows.isTruthy then rows.first.bind countsIn else countsIn (.obj []) := by
  rw [countsOf, has]
  rfl

/-- **The numbers of a result can be read exactly if it is countable.** -/
theorem countsOf_returns_iff (result : Json) :
    (∃ counts, countsOf result = .ok counts) ↔ IsCountable result := by
  constructor
  · rintro ⟨counts, reads⟩
    obtain ⟨rows, has, -⟩ := eq_ok_of_bind reads
    rw [countsOf_of_rowsOf has] at reads
    obtain ⟨nested, rfl⟩ := rowsOf_eq_ok_iff.mp has
    refine ⟨nested, fun rows given truthy => ?_⟩
    rw [given, Option.getD_some, if_pos truthy] at reads
    obtain ⟨row, first, reads⟩ := eq_ok_of_bind reads
    have told := (countsIn_returns_iff row).mp ⟨counts, reads⟩
    -- The first part of a text is a text, which has no numbers.
    obtain ⟨later, rfl⟩ := Json.exists_of_first first (told "subjects" List.mem_cons_self).1.1
    exact ⟨row, later, rfl, told⟩
  · rintro ⟨nested, readable⟩
    rw [countsOf_of_rowsOf (rowsOf_eq_ok_iff.mpr ⟨nested, rfl⟩)]
    split
    · rename_i truthy
      cases given : inner? "results" "bindings" result with
      | none =>
        rw [given] at truthy
        cases truthy
      | some rows =>
        rw [given] at truthy
        obtain ⟨row, later, rfl, told⟩ := readable rows given truthy
        exact (countsIn_returns_iff row).mpr told
    · exact (countsIn_returns_iff _).mpr counts_empty

theorem graphOf_of_lacks {item : Json} (lacks : Json.holds "g" item = .ok false) :
    graphOf item = .ok none := by
  rw [graphOf, lacks]
  rfl

theorem graphOf_of_holds {item : Json} (holds : Json.holds "g" item = .ok true) :
    graphOf item = some <$> (Json.entry "g" item).bind (Json.entry "value") := by
  rw [graphOf, holds]
  cases Json.entry "g" item <;> rfl

/-- What has no parts by name must not mention a graph. -/
theorem graphOf_returns_iff_not_holds {item : Json} {found : Bool} {fault : Json.Fault}
    (holds : Json.holds "g" item = .ok found) (unnamed : Json.entry "g" item = .error fault) :
    (∃ graph, graphOf item = .ok graph) ↔ ¬ Json.holds "g" item = .ok true := by
  cases found with
  | false =>
    rw [graphOf_of_lacks holds, holds]
    exact iff_of_true ⟨none, rfl⟩ nofun
  | true =>
    rw [graphOf_of_holds holds, unnamed]
    exact iff_of_false nofun (absurd holds)

/-- **The graph of a part of the rows can be read exactly if it has one or mentions none.** -/
theorem graphOf_returns_iff (item : Json) : (∃ graph, graphOf item = .ok graph) ↔ HasGraph item := by
  cases item with
  | obj members =>
    rw [HasGraph]
    cases given : Assoc.get? members "g" with
    | none =>
      rw [graphOf_of_lacks (by rw [Json.holds_obj, given]; rfl)]
      refine iff_of_true ⟨none, rfl⟩ fun graph same => ?_
      cases same
    | some graph =>
      have here : Json.entry "g" (.obj members) = .ok graph := by rw [Json.entry, given]
      rw [graphOf_of_holds (by rw [Json.holds_obj, given]; rfl), here]
      show (∃ found, some <$> Json.entry "value" graph = .ok found) ↔ _
      simp only [Option.some.injEq, forall_eq', ← Json.entry_returns_iff]
      exact exists_map_eq_ok
  | arr items =>
    rw [graphOf_returns_iff_not_holds rfl rfl, Json.holds_arr_iff, HasGraph]
  | str text =>
    rw [graphOf_returns_iff_not_holds rfl rfl, HasGraph]
    exact not_congr (Json.holds_str_iff rfl)
  | _ =>
    refine iff_of_false ?_ id
    rintro ⟨graph, reads⟩
    cases reads

/-- **The graphs of a result can be read exactly if it is listable.** -/
theorem graphsOf_returns_iff (result : Json) :
    (∃ graphs, graphsOf result = .ok graphs) ↔ IsListable result := by
  constructor
  · rintro ⟨graphs, reads⟩
    obtain ⟨rows, has, reads⟩ := eq_ok_of_bind reads
    obtain ⟨items, parts, reads⟩ := eq_ok_of_bind reads
    obtain ⟨found, each, -⟩ := eq_ok_of_bind reads
    obtain ⟨nested, rfl⟩ := rowsOf_eq_ok_iff.mp has
    refine ⟨nested, fun rows given => ⟨items, ?_, fun item member => ?_⟩⟩
    · rw [given, Option.getD_some, Json.items] at parts
      split at parts
      · cases parts
        assumption
      · cases parts
    · exact (graphOf_returns_iff item).mp (mapM_returns_iff.mp ⟨found, each⟩ item member)
  · rintro ⟨nested, readable⟩
    have has : rowsOf result = .ok _ := rowsOf_eq_ok_iff.mpr ⟨nested, rfl⟩
    have parts : ∃ items, ((inner? "results" "bindings" result).getD (.arr [])).items = .ok items ∧
        ∀ item ∈ items, HasGraph item := by
      cases given : inner? "results" "bindings" result with
      | none => exact ⟨[], rfl, nofun⟩
      | some rows =>
        obtain ⟨items, parts, each⟩ := readable rows given
        exact ⟨items, by rw [Option.getD_some, Json.items, parts], each⟩
    obtain ⟨items, parts, each⟩ := parts
    obtain ⟨found, reads⟩ :=
      mapM_returns_iff.mpr fun item member => (graphOf_returns_iff item).mpr (each item member)
    refine ⟨found.filterMap fun graph => graph, ?_⟩
    rw [graphsOf, has, ok_bind, parts, ok_bind, reads, ok_bind]

/-! ### Requests -/

/-- An update tells of the dataset however it fails. -/
theorem isTold_update (text : String) (world : World) :
    IsTold ((update config text).run world).1 :=
  isTold_run_bind.mpr ⟨isTold_post config _ _ _ world, fun _ _ => isTold_ok success⟩

/-- An upload tells of the dataset however it fails. -/
theorem isTold_upload (data graph contentType : String) (world : World) :
    IsTold ((upload config data graph contentType).run world).1 := by
  refine isTold_run_bind.mpr ⟨isTold_post config _ _ _ world, fun _ _ => ?_⟩
  exact isTold_run_bind.mpr ⟨isTold_ok (), fun _ _ => isTold_ok success⟩

/-- A test returns where the reply to it can be read. -/
theorem testConnection_returns_iff (world : World) :
    (∃ report, ((testConnection config).run world).1 = .ok report) ↔
      IsReadable (world.replyTo 0) := by
  rw [← isTold_resultIn_iff config, testConnection,
    Action.run_bind_ok (Action.run_attempt _ world), run_query]
  cases resultIn config (world.replyTo 0) with
  | ok result => exact iff_of_true ⟨_, rfl⟩ (isTold_ok result)
  | error failure =>
    rw [isTold_error_iff]
    cases failure with
    | fuseki fault => exact iff_of_true ⟨_, rfl⟩ ⟨fault, rfl⟩
    | _ => exact iff_of_false nofun nofun

/-- The numbers and the graphs fail for the dataset only where both replies can be read. -/
theorem isTold_stats_iff (world : World) :
    IsTold ((stats config).run world).1 ↔ IsReadable (world.replyTo 0) ∧
      ∀ result, Brings (world.replyTo 0) result → IsCountable result ∧
        IsReadable (world.replyTo 1) ∧
          ∀ graphs, Brings (world.replyTo 1) graphs → IsListable graphs := by
  rw [stats, isTold_run_bind, run_query, isTold_resultIn_iff]
  refine and_congr_right fun _ => forall_congr' fun result => ?_
  rw [resultIn_eq_ok_iff, isTold_run_bind, isTold_shaped_iff, countsOf_returns_iff]
  refine imp_congr_right fun _ => and_congr_right fun countable => ?_
  obtain ⟨counts, reads⟩ := (countsOf_returns_iff result).mpr countable
  rw [Action.run_shaped_ok reads]
  simp only [Except.ok.injEq, forall_eq']
  rw [isTold_run_bind, run_query, isTold_resultIn_iff, World.replyTo_posted]
  refine and_congr_right fun _ => forall_congr' fun graphs => ?_
  rw [resultIn_eq_ok_iff, isTold_run_bind, isTold_shaped_iff, graphsOf_returns_iff]
  exact imp_congr_right fun _ => and_iff_left fun _ _ => isTold_ok _

/-- **How requests to a dataset fail.** Whatever the server answers, updates and uploads return or fail
with a failure that tells of the dataset. A query does, and a test returns, exactly if the reply does
not nest values too deep to be read; the numbers and graphs do exactly if both replies can be read and
their values have the numbers and graphs that are looked for in them. -/
theorem failures_told_iff (world : World) :
    (∀ text, IsTold ((update config text).run world).1) ∧
    (∀ data graph contentType, IsTold ((upload config data graph contentType).run world).1) ∧
    (∀ text, IsTold ((query config text).run world).1 ↔ IsReadable (world.replyTo 0)) ∧
    ((∃ report, ((testConnection config).run world).1 = .ok report) ↔
      IsReadable (world.replyTo 0)) ∧
    (IsTold ((stats config).run world).1 ↔ IsReadable (world.replyTo 0) ∧
      ∀ result, Brings (world.replyTo 0) result → IsCountable result ∧
        IsReadable (world.replyTo 1) ∧
          ∀ graphs, Brings (world.replyTo 1) graphs → IsListable graphs) := by
  refine ⟨fun text => isTold_update config text world,
    fun data graph contentType => isTold_upload config data graph contentType world,
    fun text => ?_, testConnection_returns_iff config world, isTold_stats_iff config world⟩
  rw [run_query]
  exact isTold_resultIn_iff config _

/-- A server that answers a request with a list. -/
def listAnswered : World :=
  { World.ofDisk .empty with postAnswers := [.response 200 "[]"] }

/-- **A list as the result of the numbers breaks them**, and the failure does not tell of the
dataset. -/
theorem not_told_of_listAnswered : ¬ IsTold ((stats .standard).run listAnswered).1 := by
  have fails : ((stats .standard).run listAnswered).1 =
      .error (.shape (.noOperation "list" .get)) := rfl
  intro told
  rw [fails] at told
  obtain ⟨fault, other⟩ := isTold_error_iff.mp told
  cases other

end HistoricalFigures.Fuseki
