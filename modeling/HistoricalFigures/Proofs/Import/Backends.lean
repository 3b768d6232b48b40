import HistoricalFigures.Command.Run
import HistoricalFigures.Proofs.Dataset.Elsewhere
import HistoricalFigures.Proofs.Fuseki.Client
import HistoricalFigures.Proofs.Import.History

/-!
**The backends of the program leave the history as it is.** A Fuseki server is asked over the network,
and the engine writes no file but its document.

* `Holds.of_rewrites`: a history behind writing a document that is apart from it.
* `leavesHistory_engineOf`, `leavesHistory_executorOf`: the backends that settings name.
-/
namespace HistoricalFigures.Import

open Dataset (IsApart Rewrites)
open HistoricalFigures.Action (Preserves)

variable {path : String} {entries : List Json}

/-- A file that cannot be read holds no entries. -/
theorem readHistory_of_error {disk : Disk} {error : DiskError}
    (unreadable : disk.readOctets path = .error error) : readHistory path disk = .ok [] := by
  rw [readHistory, unreadable]

/-- Where nothing is no file is read. -/
theorem readHistory_of_nothing {disk : Disk}
    (nothing : disk.node? (Path.ofText path).place = none) : readHistory path disk = .ok [] := by
  cases reads : disk.readOctets path with
  | error error => exact readHistory_of_error reads
  | ok octets =>
    have isFile := (Disk.nodeAt_eq_ok.mp (Disk.octetsAt_eq_ok.mp (eq_ok_of_mapError reads))).2
    rw [nothing] at isFile
    cases isFile

/-- **A history stays behind writing a document** that is apart from it. -/
theorem Holds.of_rewrites {before after : Disk} {place : Place} (holds : Holds path entries before)
    (apart : IsApart (Path.ofText path) place) (rewrites : Rewrites place before after) :
    Holds path entries after := by
  have same := rewrites.node?_eq apart.away
  refine ⟨?_, rewrites.isWritable apart holds.isWritable, fun there => ?_⟩
  · by_cases nothing : before.node? (Path.ofText path).place = none
    · have none := (readHistory_of_nothing nothing).symm.trans holds.reads
      rw [readHistory_of_nothing (same.trans nothing), none]
    · have resolved := holds.isReached nothing
      have resolved' := Disk.resolve_of_hasDirectories rewrites.hasDirectories resolved
      have nodes : after.nodeAt (Path.ofText path) = before.nodeAt (Path.ofText path) := by
        rw [Disk.nodeAt, Disk.nodeAt, resolved, resolved', ok_bind, ok_bind, same]
      have octets : after.readOctets path = before.readOctets path := by
        rw [Disk.readOctets, Disk.readOctets, Disk.octetsAt, Disk.octetsAt, nodes]
      rw [← holds.reads, readHistory, readHistory, octets]
  · rw [same] at there
    exact Disk.resolve_of_hasDirectories rewrites.hasDirectories (holds.isReached there)

variable {settings : Settings}
  (apart : IsApart (Path.ofText path) (Path.ofText settings.datasetPath).place)
include apart

theorem leavesHistory_engineOf : LeavesHistory path (Command.engineOf settings).execute := by
  intro text entries
  refine Dataset.Engine.preserves_execute (fun world holds => ?_) (fun document world holds => ?_) text
  · have stays := (Dataset.isFaithful_onDisk (Path.ofText settings.datasetPath)).read_state world.disk
    change Holds path entries ((Dataset.readDocument _).run world.disk).2
    rw [Dataset.Gateway.onDisk] at stays
    rwa [stays]
  · exact holds.of_rewrites apart (Dataset.rewrites_of_writeDocument _ document world.disk)

/-- **The backends leave the history as it is** where it is apart from the document. -/
theorem leavesHistory_executorOf (backend : Option Backend) :
    LeavesHistory path (Command.executorOf settings backend) := by
  unfold Command.executorOf
  split
  · exact leavesHistory_engineOf apart
  · exact leavesHistory_of_keeps path (Fuseki.keeps_execute settings.fuseki)

end HistoricalFigures.Import
