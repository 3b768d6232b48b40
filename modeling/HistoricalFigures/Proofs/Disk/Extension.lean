import HistoricalFigures.Disk.Directories
import HistoricalFigures.Disk.Files
import HistoricalFigures.Proofs.Disk.Place
import HistoricalFigures.Proofs.Outcome

/-!
**Disks on which more is found.** What a path leads to depends on the directories along it only, and
making directories takes nothing away.

* `place_of_resolve`: a path leads to its place or nowhere.
* `Extends`, `HasDirectories`: all that is found on a disk, or all directories, are found on another.
* `resolve_of_hasDirectories`: a path leads to the same place where the directories are the same.
* `nodeAt_of_extends`, `octetsAt_of_extends`: what is found at a path stays found.
* `MakesWay`: nothing changes but that there are directories on the way to a place.
* `makeDirectories_rel`: what making one directory does is what making directories does.
* `extends_makeDirectories`, `makesWay_makeDirectories`: making directories takes nothing away, and
  changes nothing but that there is a way.
-/
namespace HistoricalFigures.Disk

/-! ### Paths -/

theorem enter_eq_ok {disk : Disk} {place next : Place} {name : String} :
    disk.enter place name = .ok next ↔
      isTooLong name = false ∧ next = place.descend name ∧ disk.node? next = some .directory := by
  unfold enter
  by_cases long : isTooLong name = true
  · simp [long]
  · rw [if_neg long]
    cases found : disk.node? (place.descend name) with
    | none =>
      constructor
      · intro entered
        cases entered
      · rintro ⟨_, rfl, other⟩
        rw [found] at other
        cases other
    | some node =>
      cases node with
      | file octets =>
        constructor
        · intro entered
          cases entered
        · rintro ⟨_, rfl, other⟩
          rw [found] at other
          cases other
      | directory =>
        constructor
        · intro entered
          cases entered
          exact ⟨Bool.not_eq_true _ ▸ long, rfl, found⟩
        · rintro ⟨_, rfl, _⟩
          rfl

theorem foldlM_enter_eq_ok {disk : Disk} {names : List String} {start place : Place}
    (entered : names.foldlM disk.enter start = .ok place) :
    place = names.foldl Place.descend start := by
  induction names generalizing start with
  | nil =>
    cases entered
    rfl
  | cons name later found =>
    rw [List.foldlM_cons] at entered
    obtain ⟨next, here, rest⟩ := eq_ok_of_bind entered
    obtain ⟨_, rfl, _⟩ := enter_eq_ok.mp here
    exact found rest

/-- **A path leads to its place or nowhere.** -/
theorem place_of_resolve {disk : Disk} {path : Path} {place : Place}
    (resolved : disk.resolve path = .ok place) : place = path.place := by
  unfold resolve at resolved
  split at resolved
  · cases resolved
  · unfold walk at resolved
    obtain ⟨directory, entered, last⟩ := eq_ok_of_bind resolved
    obtain rfl := foldlM_enter_eq_ok entered
    cases ends : path.getLast? with
    | none =>
      rw [ends] at last
      cases last
      rw [List.getLast?_eq_none_iff.mp ends]
      rfl
    | some name =>
      rw [ends] at last
      obtain ⟨front, whole⟩ := List.getLast?_eq_some_iff.mp ends
      dsimp only at last
      split at last
      · cases last
      · split at last
        · cases last
        · cases last
          rw [whole, Path.place_append, List.dropLast_concat]
          rfl

/-! ### Disks with more on them -/

/-- All directories of a disk are found on another. -/
def HasDirectories (before after : Disk) : Prop :=
  ∀ place, before.node? place = some .directory → after.node? place = some .directory

/-- All that is found on a disk is found on another. -/
def Extends (before after : Disk) : Prop :=
  ∀ place node, before.node? place = some node → after.node? place = some node

/-- What is found stays found by way of a third disk. -/
theorem Extends.trans {first second third : Disk} (before : Extends first second)
    (behind : Extends second third) : Extends first third :=
  fun place node found => behind place node (before place node found)

theorem Extends.refl (disk : Disk) : Extends disk disk := fun _ _ found => found

theorem Extends.hasDirectories {before after : Disk} (more : Extends before after) :
    HasDirectories before after :=
  fun place => more place .directory

/-- The directories along names are entered on the other disk as well. -/
theorem foldlM_enter_of_hasDirectories {before after : Disk} (same : HasDirectories before after)
    {names : List String} {start place : Place}
    (entered : names.foldlM before.enter start = .ok place) :
    names.foldlM after.enter start = .ok place := by
  induction names generalizing start with
  | nil => exact entered
  | cons name later found =>
    rw [List.foldlM_cons] at entered ⊢
    obtain ⟨next, here, rest⟩ := eq_ok_of_bind entered
    obtain ⟨short, leads, directory⟩ := enter_eq_ok.mp here
    rw [enter_eq_ok.mpr ⟨short, leads, same next directory⟩]
    exact found rest

/-- **A path leads to the same place where the directories are the same.** -/
theorem resolve_of_hasDirectories {before after : Disk} (same : HasDirectories before after)
    {path : Path} {place : Place} (resolved : before.resolve path = .ok place) :
    after.resolve path = .ok place := by
  unfold resolve at resolved ⊢
  split at resolved
  · cases resolved
  · rw [if_neg ‹_›]
    unfold walk at resolved ⊢
    obtain ⟨directory, entered, last⟩ := eq_ok_of_bind resolved
    rw [foldlM_enter_of_hasDirectories same entered]
    exact last

theorem nodeAt_eq_ok {disk : Disk} {path : Path} {node : Node} :
    disk.nodeAt path = .ok node ↔
      disk.resolve path = .ok path.place ∧ disk.node? path.place = some node := by
  constructor
  · intro found
    obtain ⟨place, resolved, there⟩ := eq_ok_of_bind found
    obtain rfl := place_of_resolve resolved
    refine ⟨resolved, ?_⟩
    cases present : disk.node? path.place with
    | none =>
      rw [present] at there
      cases there
    | some node' =>
      rw [present] at there
      cases there
      rfl
  · rintro ⟨resolved, found⟩
    simp only [nodeAt, resolved, bind, Except.bind, found]

theorem octetsAt_eq_ok {disk : Disk} {path : Path} {octets : ByteArray} :
    disk.octetsAt path = .ok octets ↔ disk.nodeAt path = .ok (.file octets) := by
  constructor
  · intro read
    obtain ⟨node, found, isFile⟩ := eq_ok_of_bind read
    cases node with
    | directory => cases isFile
    | file octets' =>
      cases isFile
      exact found
  · intro found
    simp only [octetsAt, found, bind, Except.bind]

/-- **What is found at a path is found there where more is found.** -/
theorem nodeAt_of_extends {before after : Disk} (more : Extends before after) {path : Path}
    {node : Node} (found : before.nodeAt path = .ok node) : after.nodeAt path = .ok node := by
  obtain ⟨resolved, there⟩ := nodeAt_eq_ok.mp found
  exact nodeAt_eq_ok.mpr
    ⟨resolve_of_hasDirectories more.hasDirectories resolved, more _ _ there⟩

/-- **A file stays readable where more is found.** -/
theorem octetsAt_of_extends {before after : Disk} (more : Extends before after) {path : Path}
    {octets : ByteArray} (read : before.octetsAt path = .ok octets) :
    after.octetsAt path = .ok octets :=
  octetsAt_eq_ok.mpr (nodeAt_of_extends more (octetsAt_eq_ok.mp read))

/-- A place where no directory is is none of those where one always is. -/
theorem isFixed_of_node?_ne {disk : Disk} {place : Place}
    (noDirectory : disk.node? place ≠ some .directory) : place.isFixed = false := by
  by_contra fixed
  rw [Bool.not_eq_false] at fixed
  exact noDirectory (by rw [node?, if_pos fixed])

/-! ### Making directories -/

theorem prefix_of_mem_extend {front stage : Path} {names : List String}
    (member : stage ∈ Path.extend front names) : stage <+: front ++ names := by
  induction names generalizing front with
  | nil => exact absurd member List.not_mem_nil
  | cons name later found =>
    rcases List.mem_cons.mp member with rfl | behind
    · exact ⟨later, List.append_assoc front [name] later⟩
    · have along := found behind
      rwa [List.append_assoc, List.singleton_append] at along

/-- The paths along which directories are made lead up to the last one. -/
theorem prefix_of_mem_stagesToMake (disk : Disk) (path : Path) :
    ∀ stage ∈ disk.stagesToMake path, stage <+: path := by
  have each : ∀ stage ∈ path.stages, stage <+: path := by
    intro stage member
    simpa using prefix_of_mem_extend (List.mem_filter.mp member).1
  intro stage member
  unfold stagesToMake at member
  split at member
  · exact each stage (List.mem_of_getLast? (Option.mem_toList.mp member))
  · exact each stage ((List.dropWhile_sublist _).subset member)

/-- Nothing changes but that there are directories on the way to a place where nothing was. -/
def MakesWay (place : Place) (before after : Disk) : Prop :=
  ∀ other, after.node? other = before.node? other ∨
    before.node? other = none ∧ after.node? other = some .directory ∧ other <+: place

namespace MakesWay

variable {place : Place}

theorem refl (disk : Disk) : MakesWay place disk disk := fun _ => .inl rfl

/-- Where a way is made and then made longer, it is made. -/
theorem trans {first second third : Disk} (before : MakesWay place first second)
    (behind : MakesWay place second third) : MakesWay place first third := by
  intro other
  rcases before other with same | ⟨free, made, along⟩
  · rcases behind other with same' | ⟨free', made', along'⟩
    · exact .inl (same'.trans same)
    · exact .inr ⟨same ▸ free', made', along'⟩
  · rcases behind other with same' | ⟨free', _, _⟩
    · exact .inr ⟨free, same'.trans made, along⟩
    · rw [made] at free'
      cases free'

/-- **Making a way takes nothing away.** -/
theorem extends_ {before after : Disk} (makes : MakesWay place before after) :
    Extends before after := by
  intro other node found
  rcases makes other with same | ⟨free, _, _⟩
  · exact same.trans found
  · rw [free] at found
    cases found

end MakesWay

section Stages

variable {R : Disk → Disk → Prop} (refl : ∀ disk, R disk disk)
  (trans : ∀ {first second third}, R first second → R second third → R first third) {path : Path}
  (step : ∀ {disk made : Disk} {stage : Path}, stage <+: path → disk.makeDirectory stage = .ok made →
    R disk made)
include refl step

theorem makeStage_rel {disk made : Disk} {stage : Path} {isLast : Bool} (along : stage <+: path)
    (makes : disk.makeStage stage isLast = .ok made) : R disk made := by
  unfold makeStage at makes
  split at makes
  · rename_i made' ensured
    cases makes
    unfold ensureDirectory at ensured
    split at ensured
    · rename_i made' here
      cases ensured
      exact step along here
    · split at ensured <;> cases ensured
      exact refl disk
  · split at makes <;> cases makes
    exact refl disk

include trans

theorem makeBehind_rel (disk : Disk) {stages : List Path} (along : ∀ stage ∈ stages, stage <+: path) :
    R disk (disk.makeBehind stages).1 := by
  induction stages generalizing disk with
  | nil => exact refl disk
  | cons stage later found =>
    obtain ⟨here, behind⟩ := List.forall_mem_cons.mp along
    unfold makeBehind
    split
    · exact found disk behind
    · split
      · rename_i made makes
        exact trans (makeStage_rel refl step here makes) (found made behind)
      · exact refl disk

/-- **What making one directory does to a disk is what making directories does**, whether it succeeds
or not. -/
theorem makeDirectories_rel (disk : Disk) : R disk (disk.makeDirectories path).1 := by
  have along := prefix_of_mem_stagesToMake disk path
  unfold makeDirectories
  split
  · exact refl disk
  · rename_i stage later stages
    rw [stages] at along
    obtain ⟨here, behind⟩ := List.forall_mem_cons.mp along
    split
    · rename_i made makes
      exact trans (makeStage_rel refl step here makes) (makeBehind_rel refl trans step made behind)
    · exact refl disk

end Stages

/-- What is made is a directory where nothing was. -/
theorem makeDirectory_eq_ok {disk made : Disk} {stage : Path}
    (makes : disk.makeDirectory stage = .ok made) :
    disk.node? stage.place = none ∧ made = disk.put stage.place .directory := by
  obtain ⟨target, resolved, rest⟩ := eq_ok_of_bind makes
  obtain rfl := place_of_resolve resolved
  split at rest <;> cases rest
  rename_i free
  exact ⟨by simpa using free, rfl⟩

theorem extends_put {disk : Disk} {place : Place} (free : disk.node? place = none) (node : Node) :
    Extends disk (disk.put place node) := by
  intro other node' found
  have different : other ≠ place := by
    rintro rfl
    rw [free] at found
    cases found
  rw [node?_put_of_ne disk node different]
  exact found

/-- **Making directories takes nothing away**, whether it succeeds or not. -/
theorem extends_makeDirectories (disk : Disk) (path : Path) :
    Extends disk (disk.makeDirectories path).1 := by
  refine makeDirectories_rel Extends.refl Extends.trans (fun _ makes => ?_) disk
  obtain ⟨free, rfl⟩ := makeDirectory_eq_ok makes
  exact extends_put free .directory

/-- **Making directories makes a way**, whether it succeeds or not. -/
theorem makesWay_makeDirectories {place : Place} (normal : place.IsNormal) (disk : Disk) :
    MakesWay place disk (disk.makeDirectories place).1 := by
  refine makeDirectories_rel MakesWay.refl MakesWay.trans (fun along makes other => ?_) disk
  rename_i disk made stage
  obtain ⟨free, rfl⟩ := makeDirectory_eq_ok makes
  rw [normal.of_prefix along] at free ⊢
  by_cases here : other = stage
  · subst here
    have noDirectory : disk.node? other ≠ some .directory := by simp [free]
    exact .inr ⟨free, node?_put_self disk .directory (isFixed_of_node?_ne noDirectory), along⟩
  · exact .inl (node?_put_of_ne disk .directory here)

end HistoricalFigures.Disk
