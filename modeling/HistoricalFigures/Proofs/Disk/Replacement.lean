import Mathlib.Data.List.Nodup
import HistoricalFigures.Proofs.Disk.Extension
import HistoricalFigures.Proofs.Number.Digits

/-!
**A file is replaced as a whole or stays as it is.**

* `node?_temporaryPlace`: nothing is found where a temporary file is made.
* `replaceText_eq_ok`, `octetsAt_of_replaceText`: a text that replaced a file is found in its place, and
  nothing else is changed but that a way to it is made.
* `makesWay_of_replaceText`: where replacing a file fails nothing else is changed either.
-/
namespace HistoricalFigures.Disk

/-! ### Temporary files -/

theorem temporaryName_injective : Function.Injective temporaryName := by
  intro first second same
  rw [temporaryName, temporaryName, String.append_left_inj, String.append_right_inj] at same
  exact Number.natText_injective (String.ofList_injective same)

/-- The name of a temporary file is longer than those that lead elsewhere. -/
theorem length_temporaryName (number : Nat) : 10 ≤ (temporaryName number).length := by
  rw [temporaryName, String.length_append, String.length_append]
  have front : ".document-".length = 10 := by decide
  omega

/-- The name of a temporary file is none of those that lead elsewhere. -/
theorem temporaryName_ne {name : String} (short : name.length < 10) (number : Nat) :
    temporaryName number ≠ name := by
  rintro rfl
  exact absurd (length_temporaryName number) (Nat.not_le.mpr short)

theorem descend_temporaryName (directory : Place) (number : Nat) :
    directory.descend (temporaryName number) = directory ++ [temporaryName number] := by
  unfold Place.descend
  rw [if_neg (not_or.mpr ⟨temporaryName_ne (by decide) number, temporaryName_ne (by decide) number⟩),
    if_neg (temporaryName_ne (by decide) number), if_neg (temporaryName_ne (by decide) number)]

theorem isFixed_temporary (directory : Place) (number : Nat) :
    Place.isFixed (directory ++ [temporaryName number]) = false := by
  have other : ∀ name : String, name.length < 10 → temporaryName number ≠ name :=
    fun name short => temporaryName_ne short number
  simp [Place.isFixed, other Place.upName (by decide), other Place.rootName (by decide),
    List.append_eq_singleton_iff]

/-- The first free number is free if there is a free one among those that are tried. -/
theorem node?_freeNumber {disk : Disk} {directory : Place} {tries number free : Nat}
    (from_ : number ≤ free) (upTo : free ≤ number + tries)
    (isFree : disk.node? (directory ++ [temporaryName free]) = none) :
    disk.node? (directory ++ [temporaryName (disk.freeNumber directory tries number)]) = none := by
  induction tries generalizing number with
  | zero =>
    obtain rfl : number = free := Nat.le_antisymm from_ upTo
    exact isFree
  | succ tries found =>
    unfold freeNumber
    split
    · rename_i taken
      have different : number ≠ free := by
        rintro rfl
        rw [isFree] at taken
        cases taken
      exact found (by omega) (by omega)
    · rename_i untaken
      simpa using untaken

theorem mem_entries_of_node? {disk : Disk} {place : Place} (unfixed : place.isFixed = false)
    (found : disk.node? place ≠ none) : place ∈ disk.entries.map Prod.fst := by
  rw [node?, unfixed, if_neg Bool.false_ne_true] at found
  obtain ⟨node, there⟩ := Option.ne_none_iff_exists'.mp found
  obtain ⟨before, behind, whole, _⟩ := List.lookup_eq_some_iff.mp there
  rw [whole]
  simp

/-- **There is a free number**: there are fewer entries than numbers that are tried. -/
theorem exists_free (disk : Disk) (directory : Place) :
    ∃ free ≤ disk.entries.length, disk.node? (directory ++ [temporaryName free]) = none := by
  by_contra none
  rw [not_exists] at none
  let places := (List.range (disk.entries.length + 1)).map fun number =>
    directory ++ [temporaryName number]
  have once : places.Nodup := by
    refine List.nodup_range.map fun first second same => temporaryName_injective ?_
    simpa using same
  have inside : places ⊆ disk.entries.map Prod.fst := by
    intro place member
    obtain ⟨number, small, rfl⟩ := List.mem_map.mp member
    have bound : number ≤ disk.entries.length := by
      have below := List.mem_range.mp small
      omega
    exact mem_entries_of_node? (isFixed_temporary directory number)
      fun absent => none number ⟨bound, absent⟩
  have bound := once.length_le_of_subset inside
  simp only [places, List.length_map, List.length_range] at bound
  omega

/-- **Nothing is found where a temporary file is made.** -/
theorem node?_temporaryPlace (disk : Disk) (directory : Place) :
    disk.node? (disk.temporaryPlace directory) = none := by
  obtain ⟨free, bound, isFree⟩ := exists_free disk directory
  exact node?_freeNumber (Nat.zero_le free) (by omega) isFree

/-! ### Replacing a file -/

/-- **What was put where nothing was and then removed leaves nothing behind.** -/
theorem node?_remove_put {disk : Disk} {place : Place} (free : disk.node? place = none) (node : Node)
    (other : Place) : ((disk.put place node).remove place).node? other = disk.node? other := by
  have noDirectory : disk.node? place ≠ some .directory := by simp [free]
  have unfixed := isFixed_of_node?_ne noDirectory
  by_cases here : other = place
  · rw [here, free, node?, unfixed, if_neg Bool.false_ne_true]
    exact lookup_remove_self _ _
  · rw [← node?_put_of_ne disk node here, node?, node?, remove, lookup_remove_of_ne _ here]

theorem putText_eq_ok {disk written : Disk} {path : Path} {text : String}
    (writes : disk.putText path text = .ok written) :
    disk.resolve path = .ok path.place ∧
      written = disk.put path.place (.file (Utf8.encode text)) := by
  obtain ⟨place, resolved, rest⟩ := eq_ok_of_bind writes
  obtain rfl := place_of_resolve resolved
  split at rest <;> cases rest
  exact ⟨resolved, rfl⟩

theorem moveFile_eq_ok {disk moved : Disk} {source : Place} {target : Path} {node : Node}
    (isThere : disk.node? source = some node) (moves : disk.moveFile source target = .ok moved) :
    disk.resolve target = .ok target.place ∧ disk.node? target.place ≠ some .directory ∧
      moved = (disk.remove source).put target.place node := by
  obtain ⟨place, resolved, rest⟩ := eq_ok_of_bind moves
  obtain rfl := place_of_resolve resolved
  rw [isThere] at rest
  split at rest
  · cases rest
  · rename_i same noDirectory
    cases same
    cases rest
    exact ⟨resolved, noDirectory, rfl⟩
  · cases ‹some node = none›

theorem place_temporaryPlace (disk : Disk) {directory : Place} (normal : directory.IsNormal) :
    Path.place (disk.temporaryPlace directory) = disk.temporaryPlace directory :=
  normal.append (descend_temporaryName directory _)

theorem hasDirectories_move {disk : Disk} {source target : Place} {octets : ByteArray}
    (isFile : disk.node? source = some (.file octets))
    (noDirectory : disk.node? target ≠ some .directory) (node : Node) :
    HasDirectories disk ((disk.remove source).put target node) := by
  intro place directory
  have unlikeTarget : place ≠ target := by
    rintro rfl
    exact noDirectory directory
  have unlikeSource : place ≠ source := by
    rintro rfl
    rw [isFile] at directory
    cases directory
  rw [node?_put_of_ne _ _ unlikeTarget, ← directory, node?, node?, remove,
    lookup_remove_of_ne _ unlikeSource]

/-- **What replacing a file changes**: the file itself, and nothing else but that a way to it is
made. -/
theorem replaceText_eq_ok {disk replaced : Disk} {place : Place} {text : String}
    (normal : place.IsNormal) (replaces : disk.replaceText place text = (replaced, .ok ())) :
    ∃ made, MakesWay place.dropLast disk made ∧ made.node? place ≠ some .directory ∧
      replaced.resolve place = .ok place ∧ ∀ other, replaced.node? other =
        if other = place then some (.file (Utf8.encode text)) else made.node? other := by
  have way := makesWay_makeDirectories normal.dropLast disk
  unfold replaceText at replaces
  dsimp only at replaces
  split at replaces
  · cases replaces
  · rename_i made _ makes
    rw [makes] at way
    split at replaces
    · cases replaces
    · rename_i written writes
      split at replaces
      · rename_i moved moves
        cases replaces
        obtain ⟨_, rfl⟩ := putText_eq_ok writes
        have free := node?_temporaryPlace made place.dropLast
        rw [place_temporaryPlace made normal.dropLast] at moves
        have isThere := node?_put_self made (.file (Utf8.encode text))
          (isFixed_temporary place.dropLast (made.freeNumber place.dropLast made.entries.length 0))
        obtain ⟨resolved, noDirectory, rfl⟩ := moveFile_eq_ok isThere moves
        rw [normal] at resolved noDirectory ⊢
        -- The path was followed before the move; it leads to the same place behind it.
        have resolves := resolve_of_hasDirectories
          (hasDirectories_move isThere noDirectory (.file (Utf8.encode text))) resolved
        refine ⟨made, way, fun isDirectory => noDirectory ?_, resolves, fun other => ?_⟩
        · exact extends_put free (.file (Utf8.encode text)) place .directory isDirectory
        by_cases here : other = place
        · rw [if_pos here, here]
          exact node?_put_self _ _ (isFixed_of_node?_ne noDirectory)
        · rw [if_neg here, node?_put_of_ne _ _ here]
          exact node?_remove_put free _ other
      · cases replaces

/-- **A text that replaced a file is found in its place.** -/
theorem octetsAt_of_replaceText {disk replaced : Disk} {place : Place} {text : String}
    (normal : place.IsNormal) (replaces : disk.replaceText place text = (replaced, .ok ())) :
    replaced.octetsAt place = .ok (Utf8.encode text) := by
  obtain ⟨made, _, _, resolves, nodes⟩ := replaceText_eq_ok normal replaces
  refine octetsAt_eq_ok.mpr (nodeAt_eq_ok.mpr ?_)
  rw [normal]
  exact ⟨resolves, (nodes place).trans (if_pos rfl)⟩

/-- **Where replacing a file fails nothing changes but that a way to it is made**: the temporary file
is gone. -/
theorem makesWay_of_replaceText {disk left : Disk} {place : Place} {text : String}
    {obstacle : Obstacle} (normal : place.IsNormal)
    (fails : disk.replaceText place text = (left, .error obstacle)) :
    MakesWay place.dropLast disk left := by
  have way := makesWay_makeDirectories normal.dropLast disk
  unfold replaceText at fails
  dsimp only at fails
  split at fails
  · rename_i made error makes
    rw [makes] at way
    cases fails
    exact way
  · rename_i made _ makes
    rw [makes] at way
    split at fails
    · cases fails
      exact way
    · rename_i written writes
      split at fails
      · cases fails
      · cases fails
        obtain ⟨_, rfl⟩ := putText_eq_ok writes
        rw [place_temporaryPlace made normal.dropLast]
        exact way.trans fun other =>
          .inl (node?_remove_put (node?_temporaryPlace made place.dropLast) _ other)

end HistoricalFigures.Disk
