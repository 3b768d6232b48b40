import HistoricalFigures.Proofs.Dataset.Execution

/-!
**A query that fails leaves what is found as it was.** Only where no document is found, and one may be
written, the empty document may have come, with directories on the way to it.

* `Prepares`: what may be made for a document.
* `prepares_of_run_readOr`: what finding or making the document leaves.
* `disk_after_failure`: what a query that fails leaves.
-/
namespace HistoricalFigures.Dataset

open Disk (MakesWay)

/-- Queries on the document in the file at a path, which they may change or not. -/
def Engine.ofFile (path : Path) (readOnly : Bool) : Engine Disk :=
  ⟨Gateway.onDisk path.place, readOnly⟩

/-- What may be made for the document at a place: directories on the way to it where nothing was, and
the empty document where none was found. Everything else is found as before. -/
def Prepares (place : Place) (before after : Disk) : Prop :=
  ∀ other, after.node? other = before.node? other ∨
    (before.node? other = none ∧ after.node? other = some .directory ∧ other <+: place.dropLast) ∨
    (other = place ∧ before.nodeAt place = .error .missing ∧
      after.node? other = some (.file (Utf8.encode Turtle.emptyDocument)))

example : Turtle.emptyDocument =
    "@prefix rdf: <http://www.w3.org/1999/02/22-rdf-syntax-ns#> .\n" ++
      "@prefix phb: <http://example.org/personasHistoricasBolivianas#> .\n\n" := by
  decide +kernel

namespace Prepares

variable {place : Place} {before middle after : Disk}

theorem refl (disk : Disk) : Prepares place disk disk := fun _ => .inl rfl

/-- Nothing more is made where only a way is. -/
theorem makesWay (prepares : Prepares place before middle)
    (way : MakesWay place.dropLast middle after) : Prepares place before after := by
  intro other
  rcases way other with same | ⟨free, made, along⟩
  · rw [same]
    exact prepares other
  · rcases prepares other with same | ⟨_, made', _⟩ | ⟨_, _, document⟩
    · exact .inr (.inl ⟨same ▸ free, made, along⟩)
    · rw [made'] at free
      cases free
    · rw [document] at free
      cases free

/-- **What is found at the place is found there afterwards.** -/
theorem nodeAt_eq (prepares : Prepares place before after) {node : Node}
    (found : before.nodeAt place = .ok node) : after.nodeAt place = .ok node := by
  refine Disk.nodeAt_of_extends ?_ found
  intro other node' there
  rcases prepares other with same | ⟨free, _, _⟩ | ⟨_, missing, _⟩
  · exact same.trans there
  · rw [free] at there
    cases there
  · rw [missing] at found
    cases found

end Prepares

/-! ### Writing -/

section Writing

variable {path : Path} {text : String} {disk after : Disk}

/-- The empty document is written where none was found. -/
theorem prepares_of_writeDocument (missing : disk.nodeAt path.place = .error .missing)
    (writes : (writeDocument path.place Turtle.emptyDocument).run disk = (.ok (), after)) :
    Prepares path.place disk after := by
  rw [run_writeDocument] at writes
  split at writes
  · cases writes
  · have replaced : disk.replaceText path.place Turtle.emptyDocument = (after, .ok ()) :=
      Prod.ext (congrArg Prod.snd writes) (eq_ok_of_mapError (congrArg Prod.fst writes))
    obtain ⟨made, way, _, _, nodes⟩ := Disk.replaceText_eq_ok (Place.isNormal_place path) replaced
    intro other
    by_cases here : other = path.place
    · exact .inr (.inr ⟨here, missing, (nodes other).trans (if_pos here)⟩)
    · rw [nodes other, if_neg here]
      rcases way other with same | grown
      · exact .inl same
      · exact .inr (.inl grown)

/-- A document that is missing is one that is not found. -/
theorem nodeAt_eq_missing {place : Place}
    (missing : ((readDocument place).run disk).1 = .error (.dataset .missing)) :
    disk.nodeAt place = .error .missing := by
  rw [run_readDocument] at missing
  unfold Disk.octetsAt at missing
  cases found : disk.nodeAt place with
  | error obstacle =>
    rw [found] at missing
    cases obstacle
    case missing => rfl
    all_goals cases missing
  | ok node =>
    rw [found] at missing
    cases node with
    | directory => cases missing
    | file octets =>
      cases decoded : Utf8.decodeLines octets with
      | error cause =>
        simp only [bind, Except.bind, decoded] at missing
        cases missing
      | ok document =>
        simp only [bind, Except.bind, decoded] at missing
        cases missing

end Writing

/-! ### Running queries -/

section Running

variable {path : Path} {readOnly : Bool} {disk after : Disk}

/-- What finding the document leaves, or making it where it is not found. -/
theorem prepares_of_run_readOr {outcome : Except Failure String}
    (shown : ((Engine.ofFile path readOnly).readOr (Engine.ofFile path readOnly).bootstrap).run disk =
      (outcome, after)) :
    after = disk ∨ readOnly = false ∧ Prepares path.place disk after := by
  have faithful : (Engine.ofFile path readOnly).gateway.IsFaithful := isFaithful_onDisk path
  rw [Engine.run_readOr faithful] at shown
  split at shown
  · cases shown
    exact .inl rfl
  · rename_i absent
    unfold Engine.bootstrap at shown
    by_cases fixed : readOnly = true
    · rw [if_pos (show (Engine.ofFile path readOnly).readOnly = true from fixed)] at shown
      cases shown
      exact .inl rfl
    · rw [if_neg (show ¬ (Engine.ofFile path readOnly).readOnly = true from fixed),
        Engine.run_readOr faithful, absent] at shown
      refine .inr ⟨Bool.not_eq_true _ ▸ fixed, ?_⟩
      dsimp only at shown
      rcases writes : ((Engine.ofFile path readOnly).gateway.write Turtle.emptyDocument).run disk with
        ⟨failure | _, made⟩
      · rw [Action.run_bind_error writes] at shown
        cases shown
        exact (Prepares.refl disk).makesWay (makesWay_of_writeDocument writes)
      · rw [Action.run_bind_ok writes] at shown
        cases shown
        exact prepares_of_writeDocument (nodeAt_eq_missing absent) writes
  · cases shown
    exact .inl rfl

/-- Where a document may only be read nothing but selections is run. -/
theorem Engine.selects_of_accepted {σ : Type} {engine : Engine σ} (fixed : engine.readOnly = true)
    {text : String} {query : Query} (accepts : engine.accepted text = .ok query) :
    query.body.kind = .select := by
  have told := Query.classify_of_parse (parse_of_accepted accepts)
  by_contra changes
  unfold accepted at accepts
  rw [Query.not_blank_of_classify told, if_neg Bool.false_ne_true, told] at accepts
  dsimp only at accepts
  rw [if_pos ⟨changes, fixed⟩] at accepts
  cases accepts

/-- What a query that is run and fails leaves. -/
theorem prepares_of_run {query : Query} (selects : readOnly = true → query.body.kind = .select)
    {failure : Failure}
    (fails : ((Engine.ofFile path readOnly).run query).run disk = (.error failure, after)) :
    after = disk ∨ readOnly = false ∧ Prepares path.place disk after := by
  rcases shown : ((Engine.ofFile path readOnly).readOr (Engine.ofFile path readOnly).bootstrap).run
    disk with ⟨cause | document, middle⟩
  · have loads : (Engine.ofFile path readOnly).load.run disk = (.error cause, middle) :=
      Action.run_bind_error shown _
    unfold Engine.run at fails
    rw [Action.run_bind_error loads] at fails
    cases fails
    exact prepares_of_run_readOr shown
  · have prepared := prepares_of_run_readOr shown
    have loads := Engine.run_load shown
    cases stored : Engine.storeOf document with
    | error cause =>
      rw [stored] at loads
      unfold Engine.run at fails
      rw [Action.run_bind_error loads] at fails
      cases fails
      exact prepared
    | ok store =>
      rw [stored] at loads
      rw [Engine.run_run loads] at fails
      split at fails
      · cases fails
        exact prepared
      · rename_i payload changed _
        by_cases reads : query.body.kind = .select
        · rw [if_pos reads] at fails
          cases fails
        · rw [if_neg reads] at fails
          have writable : readOnly = false := by
            cases readOnly with
            | false => rfl
            | true => exact absurd (selects rfl) reads
          rcases saves : ((Engine.ofFile path readOnly).save changed).run middle with ⟨_ | _, left⟩
          · rw [Action.run_bind_error saves] at fails
            cases fails
            refine .inr ⟨writable, ?_⟩
            rcases prepared with rfl | ⟨_, prepared⟩
            · exact (Prepares.refl _).makesWay (makesWay_of_writeDocument saves)
            · exact prepared.makesWay (makesWay_of_writeDocument saves)
          · rw [Action.run_bind_ok saves] at fails
            cases fails

theorem prepares_of_executeValue {query : Json} {failure : Failure}
    (fails : ((Engine.ofFile path readOnly).executeValue query).run disk = (.error failure, after)) :
    after = disk ∨ readOnly = false ∧ Prepares path.place disk after := by
  cases query with
  | str text =>
    rw [Engine.executeValue, Engine.run_execute] at fails
    cases accepts : (Engine.ofFile path readOnly).accepted text with
    | error cause =>
      rw [accepts] at fails
      cases fails
      exact .inl rfl
    | ok query =>
      rw [accepts] at fails
      exact prepares_of_run (fun fixed => Engine.selects_of_accepted fixed accepts) fails
  | _ =>
    cases fails
    exact .inl rfl

end Running

end HistoricalFigures.Dataset
