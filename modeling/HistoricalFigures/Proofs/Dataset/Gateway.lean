import HistoricalFigures.Dataset.Gateway
import HistoricalFigures.Proofs.Action
import HistoricalFigures.Proofs.Disk.Replacement

/-!
**A gateway keeps its document.** What is written is read back, and where writing fails the document
stays.

* `Gateway.IsFaithful`: what is relied on of a gateway.
* `isFaithful_onDisk`: the file that a path leads to keeps a document.
* `Gateway.IsVacant`, `isVacant_onDisk`: where nothing is, nothing is read, and nothing is there after
  writing failed.
-/
namespace HistoricalFigures

/-! ### Lines -/

/-- A text without carriage returns is not changed by making the ends of its lines alike. -/
theorem Utf8.readLines_eq_self {text : List Char} (absent : '\r' ∉ text) :
    readLines text = text := by
  induction text with
  | nil => rfl
  | cons c rest found =>
    rw [List.mem_cons, not_or] at absent
    have plain : c ≠ '\r' := Ne.symm absent.1
    rw [readLines, found absent.2]
    · rintro later rfl
      exact absurd rfl plain
    · rintro rfl
      exact absurd rfl plain

/-- **A text without carriage returns is read back from its octets.** -/
theorem Utf8.decodeLines_encode {text : String} (absent : '\r' ∉ text.toList) :
    decodeLines (encode text) = .ok text := by
  rw [decodeLines, decode, decode?_encode]
  simp only [Except.map, readLines_eq_self absent, String.ofList_toList]

namespace Dataset

variable {σ : Type}

/-! ### Faithful gateways -/

/-- What is relied on of a gateway. -/
structure Gateway.IsFaithful (gateway : Gateway σ) : Prop where
  /-- Reading changes nothing. -/
  read_state : ∀ state, (gateway.read.run state).2 = state
  /-- A text without carriage returns is read back after it was written. -/
  read_written : ∀ {text : String} {state changed : σ}, '\r' ∉ text.toList →
    (gateway.write text).run state = (.ok (), changed) →
      gateway.read.run changed = (.ok text, changed)
  /-- Where writing fails the document is still read. -/
  read_kept : ∀ {text document : String} {state changed : σ} {failure : Failure},
    (gateway.write text).run state = (.error failure, changed) →
      gateway.read.run state = (.ok document, state) →
        gateway.read.run changed = (.ok document, changed)

/-- What reading a file gives; a file that is not there is told from one that cannot be read. -/
theorem run_readDocument (place : Place) (disk : Disk) :
    (readDocument place).run disk =
      (match disk.octetsAt place with
        | .error .missing => .error (.dataset .missing)
        | .error _ => .error (.dataset .unreadable)
        | .ok octets => (Utf8.decodeLines octets).mapError fun _ => .dataset .unreadable, disk) := by
  unfold readDocument
  rw [Action.run_bind_ok (rfl : (get : Action Disk Disk).run disk = (.ok disk, disk))]
  cases disk.octetsAt place with
  | error obstacle => cases obstacle <;> rfl
  | ok octets =>
    dsimp only
    cases Utf8.decodeLines octets <;> rfl

theorem octetsAt_of_readDocument {place : Place} {disk changed : Disk} {document : String}
    (reads : (readDocument place).run disk = (.ok document, changed)) :
    ∃ octets, disk.octetsAt place = .ok octets ∧ Utf8.decodeLines octets = .ok document := by
  rw [run_readDocument] at reads
  cases found : disk.octetsAt place with
  | error obstacle =>
    rw [found] at reads
    cases obstacle <;> cases reads
  | ok octets =>
    rw [found] at reads
    exact ⟨octets, rfl, eq_ok_of_mapError (congrArg Prod.fst reads)⟩

theorem run_readDocument_of_octetsAt {place : Place} {disk : Disk} {octets : ByteArray}
    {document : String} (found : disk.octetsAt place = .ok octets)
    (decodes : Utf8.decodeLines octets = .ok document) :
    (readDocument place).run disk = (.ok document, disk) := by
  rw [run_readDocument, found]
  dsimp only
  rw [decodes]
  rfl

/-- What writing a file leaves: the disk as it was if too many directories are missing, otherwise
what replacing the file leaves. -/
theorem run_writeDocument (place : Place) (text : String) (disk : Disk) :
    (writeDocument place text).run disk =
      if disk.lacksTooMany place.dropLast then (.error (.tooDeep .directories), disk)
      else ((disk.replaceText place text).2.mapError fun _ => .dataset .unwritable,
        (disk.replaceText place text).1) := by
  unfold writeDocument
  by_cases tooMany : disk.lacksTooMany place.dropLast = true
  · have refused : (Action.requireFewMissing place).run disk =
        (.error (.tooDeep .directories), disk) := by
      unfold Action.requireFewMissing
      rw [Action.run_bind_ok (rfl : (get : Action Disk Disk).run disk = (.ok disk, disk))]
      rw [Path.directory, if_pos tooMany]
      rfl
    rw [Action.run_bind_error refused, if_pos tooMany]
  · have allowed : (Action.requireFewMissing place).run disk = (.ok (), disk) := by
      unfold Action.requireFewMissing
      rw [Action.run_bind_ok (rfl : (get : Action Disk Disk).run disk = (.ok disk, disk))]
      rw [Path.directory, if_neg tooMany]
      rfl
    rw [Action.run_bind_ok allowed, if_neg tooMany,
      Action.run_bind_ok (rfl : (get : Action Disk Disk).run disk = (.ok disk, disk))]
    rcases disk.replaceText place text with ⟨changed, _ | _⟩ <;> rfl

/-- Where writing a document fails nothing else is made than a way to it. -/
theorem makesWay_of_writeDocument {path : Path} {text : String} {disk after : Disk}
    {failure : Failure}
    (fails : (writeDocument path.place text).run disk = (.error failure, after)) :
    Disk.MakesWay path.place.dropLast disk after := by
  rw [run_writeDocument] at fails
  split at fails
  · cases fails
    exact .refl disk
  · obtain ⟨refused, rfl⟩ := Prod.ext_iff.mp fails
    cases outcome : (disk.replaceText path.place text).2 with
    | ok _ =>
      dsimp only at refused
      rw [outcome] at refused
      cases refused
    | error obstacle =>
      exact Disk.makesWay_of_replaceText (Place.isNormal_place path) (Prod.ext rfl outcome)

/-- **The file that a path leads to keeps a document.** -/
theorem isFaithful_onDisk (path : Path) : (Gateway.onDisk path.place).IsFaithful where
  read_state disk := by rw [Gateway.onDisk, run_readDocument]
  read_written := by
    intro text disk changed absent writes
    rw [Gateway.onDisk, run_writeDocument] at writes
    split at writes
    · cases writes
    · have replaced : disk.replaceText path.place text = (changed, .ok ()) :=
        Prod.ext (congrArg Prod.snd writes) (eq_ok_of_mapError (congrArg Prod.fst writes))
      exact run_readDocument_of_octetsAt
        (Disk.octetsAt_of_replaceText (Place.isNormal_place path) replaced)
        (Utf8.decodeLines_encode absent)
  read_kept := by
    intro text document disk changed failure writes reads
    obtain ⟨octets, found, decodes⟩ := octetsAt_of_readDocument reads
    have way := makesWay_of_writeDocument writes
    exact run_readDocument_of_octetsAt (Disk.octetsAt_of_extends way.extends_ found) decodes

/-! ### Where nothing is -/

/-- What is relied on of a gateway where nothing is. -/
structure Gateway.IsVacant (gateway : Gateway σ) (vacant : σ → Prop) : Prop where
  /-- Nothing is read. -/
  read : ∀ {state}, vacant state → (gateway.read.run state).1.isOk = false
  /-- Where writing fails nothing is there either. -/
  write : ∀ {text : String} {state changed : σ} {failure : Failure}, vacant state →
    (gateway.write text).run state = (.error failure, changed) → vacant changed

/-- **Where nothing is at a place there is nothing but by writing.** -/
theorem isVacant_onDisk (path : Path) :
    (Gateway.onDisk path.place).IsVacant fun disk => disk.node? path.place = none where
  read := by
    intro disk nothing
    rcases reads : (readDocument path.place).run disk with ⟨failure | document, after⟩
    · exact congrArg (fun result => result.1.isOk) reads
    · obtain ⟨octets, found, _⟩ := octetsAt_of_readDocument reads
      have there := (Disk.nodeAt_eq_ok.mp (Disk.octetsAt_eq_ok.mp found)).2
      rw [Place.isNormal_place path, nothing] at there
      cases there
  write := by
    intro text disk changed failure nothing writes
    rcases makesWay_of_writeDocument writes path.place with same | ⟨_, _, along⟩
    · exact same.trans nothing
    · -- A place is along the way to the directory above it only if it is the top.
      have short := along.length_le
      rw [List.length_dropLast] at short
      have top : path.place = [] := List.length_eq_zero_iff.mp (by omega)
      rw [top] at nothing
      cases nothing

end Dataset

end HistoricalFigures
