import HistoricalFigures.Action

/-!
Where the document of an ontology is kept.

* `Gateway`: reading and replacing the document.
* `Gateway.onDisk`: the document is a file.
-/
namespace HistoricalFigures.Dataset

/-- Reading and replacing the document of an ontology. -/
structure Gateway (σ : Type) where
  read : Action σ String
  write : String → Action σ Unit

/-- The document in the file at a place. -/
def readDocument (place : Place) : Action Disk String := do
  let disk ← get
  match disk.octetsAt place with
  | .error .missing => throw (.dataset .missing)
  | .error _ => throw (.dataset .unreadable)
  | .ok octets =>
    match Utf8.decodeLines octets with
    | .ok text => pure text
    | .error _ => throw (.dataset .unreadable)

/-- A text becomes the document in the file at a place. -/
def writeDocument (place : Place) (text : String) : Action Disk Unit := do
  Action.requireFewMissing place
  let disk ← get
  let (changed, outcome) := disk.replaceText place text
  set changed
  match outcome with
  | .ok _ => pure ()
  | .error _ => throw (.dataset .unwritable)

/-- The document is the file at a place. -/
def Gateway.onDisk (place : Place) : Gateway Disk := ⟨readDocument place, writeDocument place⟩

/-- A gateway to a part of the state. -/
def Gateway.within {σ τ : Type} (part : τ → σ) (update : σ → τ → τ) (gateway : Gateway σ) :
    Gateway τ :=
  ⟨gateway.read.within part update, fun text => (gateway.write text).within part update⟩

end HistoricalFigures.Dataset
