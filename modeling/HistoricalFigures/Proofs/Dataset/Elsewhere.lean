import Mathlib.Data.List.Infix
import HistoricalFigures.Proofs.Dataset.Execution
import HistoricalFigures.Proofs.Disk.Way

/-!
**What writing a document does to other files.** Directories come on the way to the document, and nothing
else is changed, so that a file whose place is not on the way stays, and can still be written.

* `Rewrites`: what writing a document changes.
* `rewrites_of_writeDocument`: whether it succeeds or not.
* `IsApart`: a file and a document of which neither is on the way to the other.
* `Rewrites.readOctets_eq`, `Rewrites.isWritable`: such a file is as it was.
* `Engine.preserves_execute`: what stays true behind reading and writing stays true behind a query.
-/
namespace HistoricalFigures.Dataset

open Disk (Extends HasDirectories MakesWay)
open HistoricalFigures.Action (Preserves preserves_ofExcept preserves_pure preserves_throw)

/-! ### What writing changes -/

/-- What writing the document at a place changes: directories come on the way to it where nothing was, and
a file is put in its place, unless that was a directory. -/
def Rewrites (place : Place) (before after : Disk) : Prop :=
  ∀ other, after.node? other = before.node? other ∨ other <+: place ∧
    (before.node? other = none ∧ after.node? other = some .directory ∨
      other = place ∧ before.node? other ≠ some .directory ∧
        ∃ octets, after.node? other = some (.file octets))

theorem rewrites_of_makesWay {place : Place} {before after : Disk}
    (makes : MakesWay place.dropLast before after) : Rewrites place before after := by
  intro other
  rcases makes other with same | ⟨free, made, along⟩
  · exact .inl same
  · exact .inr ⟨along.trans (List.dropLast_prefix place), .inl ⟨free, made⟩⟩

/-- **What writing a document changes**, whether it succeeds or not. -/
theorem rewrites_of_writeDocument (path : Path) (text : String) (disk : Disk) :
    Rewrites path.place disk ((writeDocument path.place text).run disk).2 := by
  rcases writes : (writeDocument path.place text).run disk with ⟨failure | _, after⟩
  · exact rewrites_of_makesWay (makesWay_of_writeDocument writes)
  · rw [run_writeDocument] at writes
    split at writes
    · cases writes
    · have replaced : disk.replaceText path.place text = (after, .ok ()) :=
        Prod.ext (congrArg Prod.snd writes) (eq_ok_of_mapError (congrArg Prod.fst writes))
      obtain ⟨made, way, noDirectory, _, nodes⟩ :=
        Disk.replaceText_eq_ok (Place.isNormal_place path) replaced
      intro other
      dsimp only
      rw [nodes other]
      by_cases here : other = path.place
      · subst here
        rw [if_pos rfl]
        exact .inr ⟨List.prefix_rfl, .inr ⟨rfl, fun isDirectory =>
          noDirectory (way.extends_ _ _ isDirectory), _, rfl⟩⟩
      · rw [if_neg here]
        exact rewrites_of_makesWay way other

namespace Rewrites

variable {place : Place} {before after : Disk} (rewrites : Rewrites place before after)
include rewrites

/-- A directory stays a directory. -/
theorem hasDirectories : HasDirectories before after := by
  intro other isDirectory
  rcases rewrites other with same | ⟨_, ⟨free, _⟩ | ⟨rfl, noDirectory, _⟩⟩
  · exact same.trans isDirectory
  · rw [free] at isDirectory
    cases isDirectory
  · exact absurd isDirectory noDirectory

/-- What is there stays there, if only as another file. -/
theorem node?_ne_none {other : Place} (there : before.node? other ≠ none) :
    after.node? other ≠ none := by
  rcases rewrites other with same | ⟨_, ⟨free, _⟩ | ⟨rfl, _, octets, isFile⟩⟩
  · rwa [same]
  · exact absurd free there
  · rw [isFile]
    exact Option.some_ne_none _

/-- There is no other file than before but the document. -/
theorem node?_of_file {other : Place} (different : other ≠ place) {octets : ByteArray}
    (isFile : after.node? other = some (.file octets)) : before.node? other = some (.file octets) := by
  rcases rewrites other with same | ⟨_, ⟨_, made⟩ | ⟨here, _⟩⟩
  · exact same.symm.trans isFile
  · rw [made] at isFile
    cases isFile
  · exact absurd here different

/-- What is not on the way is as it was. -/
theorem node?_eq {other : Place} (away : ¬ other <+: place) : after.node? other = before.node? other := by
  rcases rewrites other with same | ⟨along, _⟩
  · exact same
  · exact absurd along away

end Rewrites

/-! ### Other files -/

/-- A file and a document of which neither is on the way to the other. -/
structure IsApart (path : Path) (place : Place) : Prop where
  away : ¬ path.place <+: place
  beyond : ∀ front : Path, front <+: path.directory → front.place ≠ place

instance (path : Path) (place : Place) : Decidable (IsApart path place) :=
  decidable_of_iff (¬ path.place <+: place ∧ ∀ front ∈ path.directory.inits, Path.place front ≠ place)
    ⟨fun ⟨away, beyond⟩ => ⟨away, fun front along => beyond front ((List.mem_inits _ _).mpr along)⟩,
      fun apart => ⟨apart.away, fun front member => apart.beyond front ((List.mem_inits _ _).mp member)⟩⟩

example : IsApart (Path.ofText "import-history.json") (Path.ofText "data/ontology.ttl").place := by
  decide

namespace Rewrites

variable {place : Place} {before after : Disk} (rewrites : Rewrites place before after)
include rewrites

theorem isThere {stage : Path} (there : before.isThere stage = true) : after.isThere stage = true := by
  rw [Disk.isThere] at there ⊢
  cases found : before.nodeAt stage with
  | error obstacle =>
    rw [found] at there
    cases there
  | ok node =>
    obtain ⟨resolved, isNode⟩ := Disk.nodeAt_eq_ok.mp found
    have stays := rewrites.node?_ne_none (isNode.trans_ne (Option.some_ne_none node))
    obtain ⟨node', isNode'⟩ := Option.ne_none_iff_exists'.mp stays
    rw [Disk.nodeAt_eq_ok.mpr ⟨Disk.resolve_of_hasDirectories rewrites.hasDirectories resolved, isNode'⟩]
    rfl

theorem length_missing_le (stages : List Path) :
    (stages.dropWhile after.isThere).length ≤ (stages.dropWhile before.isThere).length := by
  induction stages with
  | nil => exact Nat.le_refl _
  | cons stage later found =>
    by_cases there : before.isThere stage = true
    · rw [List.dropWhile_cons_of_pos there, List.dropWhile_cons_of_pos (rewrites.isThere there)]
      exact found
    · rw [List.dropWhile_cons_of_neg there]
      exact (List.dropWhile_sublist _).length_le

/-- Not too many directories are missing where that was so before. -/
theorem lacksTooMany {path : Path} (few : before.lacksTooMany path = false) :
    after.lacksTooMany path = false := by
  have fewer := rewrites.length_missing_le path.stages
  rw [Disk.lacksTooMany, decide_eq_false_iff_not] at few ⊢
  unfold Disk.stagesToMake at few ⊢
  split
  · -- One that is there is passed to the end of the loop all the same.
    cases path.stages.getLast? <;> simp [Disk.maxMade]
  · rename_i missing
    split at few
    · rename_i nothing
      rw [nothing] at fewer
      exact absurd (List.length_eq_zero_iff.mp (Nat.le_zero.mp fewer)) missing
    · omega

/-- **A file that is apart can be written as before.** -/
theorem isWritable {path : String} (apart : IsApart (Path.ofText path) place)
    (writable : before.IsWritable path) : after.IsWritable path := by
  obtain ⟨few, fit, allows⟩ := Disk.isWritable_iff.mp writable
  refine Disk.isWritable_iff.mpr ⟨rewrites.lacksTooMany few, fit, fun front along octets isFile => ?_, ?_⟩
  · exact allows.noFile front along octets (rewrites.node?_of_file (apart.beyond front along) isFile)
  · rw [rewrites.node?_eq apart.away]
    exact allows.noDirectory

end Rewrites

/-! ### Queries -/

namespace Engine

variable {σ : Type} {engine : Engine σ} {holds : σ → Prop} (reads : Preserves holds engine.gateway.read)
  (writes : ∀ text, Preserves holds (engine.gateway.write text))
include reads writes

theorem preserves_load : Preserves holds engine.load := by
  have readsOr : ∀ {otherwise : Action σ String}, Preserves holds otherwise →
      Preserves holds (engine.readOr otherwise) := by
    intro otherwise other
    refine reads.tryCatch fun failure => ?_
    split
    · exact other
    · exact preserves_throw _
  have bootstraps : Preserves holds engine.bootstrap := by
    unfold bootstrap
    split
    · exact preserves_pure _
    · exact readsOr ((writes _).bind fun _ => preserves_pure _)
  exact (readsOr bootstraps).bind fun document => preserves_ofExcept id _

/-- **What stays true behind reading and writing the document stays true behind a query.** -/
theorem preserves_execute (text : String) : Preserves holds (engine.execute text) := by
  have runs : ∀ query, Preserves holds (engine.run query) := by
    intro query
    refine (preserves_load reads writes).bind fun store => ?_
    split
    · exact preserves_pure _
    · dsimp only
      exact (preserves_ofExcept id _).bind fun _ => (writes _).bind fun _ => preserves_pure _
    · dsimp only
      exact (writes _).bind fun _ => preserves_pure _
  intro state given
  rw [run_execute]
  cases engine.accepted text with
  | error failure => exact given
  | ok query => exact runs query state given

end Engine

end HistoricalFigures.Dataset
