import HistoricalFigures.Proofs.Disk.Writing

/-!
**When a file can be written.** Its path must be one that a file can have, no file may be on the way, and
no directory where the file is to be. Then the directories that are missing can all be made.

* `IsFit`: the paths that a file can have.
* `Allows`: nothing on a disk is in the way of a file.
* `makeStage_eq_ok`, `makeBehind_eq_ok`, `makeDirectories_eq_ok`: nothing is in the way of making the
  directories, one after the other.
* `isWritable_iff`: a file can be written if and only if its path is fit and nothing is in the way.
-/
namespace HistoricalFigures.Disk

/-- A path that a file can have: it is not too long, and what it leads to is none of the directories on
the way. -/
structure IsFit (path : Path) : Prop where
  short : path.text.utf8ByteSize ≤ maxPathSize
  names : ∀ name ∈ path, isTooLong name = false
  beyond : ∀ front : Path, front <+: path.directory → front.place ≠ path.place

/-- Nothing on a disk is in the way of a file: no file on the way to it, and no directory in its
place. -/
structure Allows (disk : Disk) (path : Path) : Prop where
  noFile : ∀ front : Path, front <+: path.directory →
    ∀ octets, disk.node? front.place ≠ some (.file octets)
  noDirectory : disk.node? path.place ≠ some .directory

variable {disk : Disk} {path : Path}

/-! ### Paths that a file can have -/

/-- The names along a fit path are not too long. -/
theorem IsFit.shortName (fit : IsFit path) {front : Path} {name : String}
    (along : front ++ [name] <+: path.directory) : isTooLong name = false :=
  fit.names name ((along.trans (List.dropLast_prefix path)).subset
    (List.mem_append_right front (List.mem_singleton_self name)))

theorem IsFit.eq_append (fit : IsFit path) : ∃ name, path = path.directory ++ [name] := by
  rcases List.eq_nil_or_concat' path with rfl | ⟨front, name, rfl⟩
  · exact absurd rfl (fit.beyond [] List.nil_prefix)
  · exact ⟨name, by rw [Path.directory, List.dropLast_concat]⟩

/-- **A fit path leads to its place** where all directories along it are there. -/
theorem IsFit.resolve (fit : IsFit path) (enters : Enters disk path.directory) :
    disk.resolve path = .ok path.place := by
  obtain ⟨name, whole⟩ := fit.eq_append
  have named : path ≠ [""] := by
    rintro rfl
    exact fit.beyond [] List.nil_prefix rfl
  have shortName := fit.names name (whole ▸ List.mem_append_right _ (List.mem_singleton_self name))
  rw [whole] at named ⊢
  exact resolve_append enters (whole ▸ fit.short) shortName named

/-! ### Making the directories -/

section Making

variable (fit : IsFit path)
include fit

/-- A directory that is made along a path is not in the way. -/
theorem Allows.put (allows : Allows disk path) {stage : Path} (along : stage <+: path.directory)
    (free : disk.node? stage.place = none) : Allows (disk.put stage.place .directory) path := by
  have unfixed := isFixed_of_node?_ne (fun there => by rw [free] at there; cases there)
  refine ⟨fun front alongFront octets => ?_, ?_⟩
  · by_cases here : front.place = stage.place
    · rw [here, node?_put_self disk .directory unfixed]
      exact nofun
    · rw [node?_put_of_ne disk .directory here]
      exact allows.noFile front alongFront octets
  · rw [node?_put_of_ne disk .directory (fit.beyond stage along).symm]
    exact allows.noDirectory

/-- **The next directory along a path can be made**, or is there. -/
theorem makeStage_eq_ok (allows : Allows disk path) {front : Path} {name : String}
    (along : front ++ [name] <+: path.directory) (named : name ≠ "") (enters : Enters disk front)
    (isLast : Bool) :
    ∃ made, disk.makeStage (front ++ [name]) isLast = .ok made ∧ Allows made path ∧
      Enters made (front ++ [name]) := by
  have inside : front ++ [name] <+: path := along.trans (List.dropLast_prefix path)
  have shortName := fit.shortName along
  have resolves : disk.resolve (front ++ [name]) = .ok (Path.place (front ++ [name])) := by
    exact resolve_append enters ((size_text_le inside).trans fit.short) shortName
      (append_ne_of_named named)
  cases there : disk.node? (Path.place (front ++ [name])) with
  | none =>
    have makes : disk.makeDirectory (front ++ [name]) =
        .ok (disk.put (Path.place (front ++ [name])) .directory) := by
      simp [makeDirectory, resolves, ok_bind, there]
    have unfixed := isFixed_of_node?_ne (fun isDirectory => by rw [there] at isDirectory; cases isDirectory)
    refine ⟨disk.put (Path.place (front ++ [name])) .directory, ?_, allows.put fit along there, ?_⟩
    · simp only [makeStage, ensureDirectory, makes]
    · refine enters_append.mpr ⟨?_, shortName, node?_put_self disk .directory unfixed⟩
      exact enters.of_hasDirectories (extends_put there .directory).hasDirectories
  | some node =>
    cases node with
    | file octets => exact absurd there (allows.noFile _ along octets)
    | directory =>
      have makes : disk.makeDirectory (front ++ [name]) = .error .exists := by
        simp [makeDirectory, resolves, ok_bind, there]
      have isDirectory : disk.isDirectory (front ++ [name]) = true := by
        rw [Disk.isDirectory, nodeAt_eq_ok.mpr ⟨resolves, there⟩]
      refine ⟨disk, ?_, allows, enters_append.mpr ⟨enters, shortName, there⟩⟩
      simp only [makeStage, ensureDirectory, makes, isDirectory, if_true]

/-- The paths behind one along a path, as they are made. -/
def stagesBehind (front names : Path) : List Path :=
  (Path.extend front names).filter fun stage => stage.getLast? ≠ some ""

omit fit in
theorem stagesBehind_cons_same (front names : Path) :
    stagesBehind front ("" :: names) = stagesBehind (front ++ [""]) names := by
  simp [stagesBehind, Path.extend]

omit fit in
theorem stagesBehind_cons {name : String} (named : name ≠ "") (front names : Path) :
    stagesBehind front (name :: names) =
      (front ++ [name]) :: stagesBehind (front ++ [name]) names := by
  simp [stagesBehind, Path.extend, named]

/-- **All directories behind one along a path can be made.** -/
theorem makeBehind_eq_ok (allows : Allows disk path) {front names : Path}
    (whole : front ++ names = path.directory) (enters : Enters disk front) :
    ∃ made, disk.makeBehind (stagesBehind front names) = (made, .ok ()) ∧ Allows made path ∧
      Enters made path.directory := by
  induction names generalizing disk front with
  | nil =>
    rw [List.append_nil] at whole
    exact ⟨disk, rfl, allows, whole ▸ enters⟩
  | cons name later found =>
    have behind : (front ++ [name]) ++ later = path.directory := by
      rw [List.append_assoc]
      exact whole
    by_cases named : name = ""
    · subst named
      rw [stagesBehind_cons_same]
      exact found allows behind (enters.append_same (.inl rfl))
    · rw [stagesBehind_cons named, makeBehind, List.getLast?_concat]
      by_cases same : name = "."
      · rw [if_pos (congrArg some same)]
        exact found allows behind (enters.append_same (.inr same))
      · have different : some name ≠ some "." := fun equal => same (Option.some.inj equal)
        obtain ⟨made, makes, allows', enters'⟩ := makeStage_eq_ok fit allows ⟨later, behind⟩ named enters
          (stagesBehind (front ++ [name]) later).isEmpty
        rw [if_neg different, makes]
        exact found allows' behind enters'

/-- The directories that are there are entered; the first one that is missing is behind them. -/
theorem missing_cases (allows : Allows disk path) {front names : Path}
    (whole : front ++ names = path.directory) (enters : Enters disk front) :
    Enters disk path.directory ∨
      ∃ before name later, before ++ name :: later = path.directory ∧ name ≠ "" ∧
        Enters disk before ∧ (stagesBehind front names).dropWhile disk.isThere =
          (before ++ [name]) :: stagesBehind (before ++ [name]) later := by
  induction names generalizing front with
  | nil =>
    rw [List.append_nil] at whole
    exact .inl (whole ▸ enters)
  | cons name later found =>
    have behind : (front ++ [name]) ++ later = path.directory := by
      rw [List.append_assoc]
      exact whole
    by_cases named : name = ""
    · subst named
      rw [stagesBehind_cons_same]
      exact found behind (enters.append_same (.inl rfl))
    · rw [stagesBehind_cons named]
      by_cases there : disk.isThere (front ++ [name]) = true
      · rw [List.dropWhile_cons_of_pos there]
        obtain ⟨node, isNode⟩ := node?_of_isThere there
        cases node with
        | file octets => exact absurd isNode (allows.noFile _ ⟨later, behind⟩ octets)
        | directory =>
          exact found behind (enters_append.mpr ⟨enters, fit.shortName ⟨later, behind⟩, isNode⟩)
      · rw [List.dropWhile_cons_of_neg there]
        exact .inr ⟨front, name, later, whole, named, enters, rfl⟩

/-- **All directories along a path can be made** where nothing is in the way. -/
theorem makeDirectories_eq_ok (allows : Allows disk path) :
    ∃ made, disk.makeDirectories path.directory = (made, .ok ()) ∧ Allows made path ∧
      Enters made path.directory := by
  rcases missing_cases fit allows (List.nil_append path.directory) (enters_nil disk) with
    enters | ⟨before, name, later, whole, named, enters, missing⟩
  · exact ⟨disk, makeDirectories_of_resolve (fit.resolve enters), allows, enters⟩
  · have toMake : disk.stagesToMake path.directory =
        (before ++ [name]) :: stagesBehind (before ++ [name]) later := by
      unfold stagesToMake
      rw [Path.stages, ← stagesBehind, missing]
    have behind : (before ++ [name]) ++ later = path.directory := by
      rw [List.append_assoc]
      exact whole
    obtain ⟨made, makes, allows', enters'⟩ := makeStage_eq_ok fit allows ⟨later, behind⟩ named enters
      (stagesBehind (before ++ [name]) later).isEmpty
    obtain ⟨last, makesLast, allowsLast, entersLast⟩ := makeBehind_eq_ok fit allows' behind enters'
    refine ⟨last, ?_, allowsLast, entersLast⟩
    rw [makeDirectories, toMake]
    simp only [makes, makesLast]

end Making

/-! ### Files that can be written -/

/-- A path that leads where no directory is is fit, and all directories along it are there. -/
theorem isFit_of_resolve (resolved : disk.resolve path = .ok path.place)
    (noDirectory : disk.node? path.place ≠ some .directory) :
    IsFit path ∧ Enters disk path.directory := by
  obtain ⟨short, enters, shortLast⟩ := enters_of_resolve resolved
  refine ⟨⟨short, fun name member => ?_, fun front along same => ?_⟩, enters⟩
  · rcases List.eq_nil_or_concat' path with rfl | ⟨front, last, rfl⟩
    · exact absurd member List.not_mem_nil
    · rcases List.mem_append.mp member with before | here
      · rw [Path.directory, List.dropLast_concat] at enters
        exact enters.names name before
      · rw [List.mem_singleton.mp here]
        exact shortLast last List.getLast?_concat
  · exact noDirectory (same ▸ (enters.of_prefix along).node?)

/-- **A file can be written if and only if its path is fit and nothing is in the way**, and not too many
directories are missing. -/
theorem isWritable_iff {path : String} :
    IsWritable path disk ↔ disk.lacksTooMany (Path.ofText path).directory = false ∧
      IsFit (Path.ofText path) ∧ Allows disk (Path.ofText path) := by
  constructor
  · rintro ⟨few, writes⟩
    refine ⟨few, ?_⟩
    have succeeds := writes ""
    have more := extends_makeDirectories disk (Path.ofText path).directory
    unfold writeText at succeeds
    split at succeeds
    · cases succeeds
    · rename_i made _ makes
      rw [makes] at more
      split at succeeds
      · cases succeeds
      · rename_i written puts
        have noDirectory := noDirectory_of_putText puts
        obtain ⟨resolved, _⟩ := putText_eq_ok puts
        obtain ⟨fit, enters⟩ := isFit_of_resolve resolved noDirectory
        refine ⟨fit, fun front along octets file => ?_, fun isDirectory => ?_⟩
        · have isFile := more _ _ file
          rw [(Enters.of_prefix enters along).node?] at isFile
          cases isFile
        · exact noDirectory (more _ _ isDirectory)
  · rintro ⟨few, fit, allows⟩
    refine ⟨few, fun text => ?_⟩
    obtain ⟨made, makes, allowsMade, enters⟩ := makeDirectories_eq_ok fit allows
    rw [writeText, makes]
    simp only [putText_of_resolve (fit.resolve enters) allowsMade.noDirectory]
    rfl

end HistoricalFigures.Disk
