import HistoricalFigures.Proofs.Dataset.Failing
import HistoricalFigures.Proofs.Query.Atomicity
import HistoricalFigures.Proofs.Turtle.Codes

/-!
**Which documents are loaded or told to be faulty.** A file that holds text is read as a document. All
documents but two kinds are loaded, or the dataset is told to be faulty.

* `IsUnforeseen`: the two kinds, documents that end in an escape beyond all characters and documents with
  a statement that lacks a part.
* `IsToldOf`: a store has the statements of a document, or the dataset is faulty.
* `isToldOf_storeOf_iff`: a document of neither kind is loaded, or told to be faulty.
* `load_told_iff`: what loading a file gives.
-/
namespace HistoricalFigures

open Rdf (Statement Store joined)

/-! ### Stores of statements -/

/-- Statements make a store just where each of them has a subject and a predicate. -/
theorem Rdf.Store.exists_ofStatements_iff {statements : List Statement} :
    (∃ store, ofStatements statements = .ok store) ↔
      ∀ statement ∈ statements, statement.IsComplete := by
  constructor
  · rintro ⟨store, made⟩ statement member
    unfold ofStatements at made
    split at made
    · cases made
    · rename_i adds
      cases made
      exact store.complete statement (mem_of_addAll adds (.inr member))
  · exact fun complete => ⟨_, ofStatements_eq complete⟩

/-- **What statements make holds each of them once**, where it was first. -/
theorem Rdf.Store.statements_ofStatements {statements : List Statement} {store : Store}
    (made : ofStatements statements = .ok store) : store.statements = statements.eraseDups := by
  have complete := exists_ofStatements_iff.mp ⟨store, made⟩
  cases made.symm.trans (ofStatements_eq complete)
  have whole : statements.takeWhile (fun statement => statement.IsComplete) = statements :=
    List.takeWhile_eq_self_iff.mpr fun statement member => decide_eq_true (complete statement member)
  rw [statements_addAll_eq_joined, whole, joined]
  simp [empty]

namespace Dataset

/-! ### Documents -/

/-- Reading a document ends in an escape with a number beyond all characters, or it has a statement
without a subject or a predicate. -/
def IsUnforeseen (document : String) : Prop :=
  (∃ code, Turtle.parse [] document = .error (.beyondUnicode code)) ∨
    ∃ statements, Turtle.parse [] document = .ok statements ∧
      ∃ statement ∈ statements, statement.subject = "" ∨ statement.predicate = ""

/-- A store has the statements of a document, each of them once and in their order, or the dataset is told
to be faulty. -/
def IsToldOf (document : String) : Except Failure Store → Prop
  | .ok store => ∃ statements, Turtle.parse [] document = .ok statements ∧
      store.statements = statements.eraseDups
  | .error failure => ∃ fault, failure = .dataset fault

/-- **A document is loaded or told to be faulty** just where it is of neither kind. -/
theorem isToldOf_storeOf_iff (document : String) :
    IsToldOf document (Engine.storeOf document) ↔ ¬ IsUnforeseen document := by
  unfold Engine.storeOf IsUnforeseen
  cases parsed : Turtle.parse [] document with
  | error cause =>
    dsimp only
    cases cause with
    | beyondUnicode code =>
      rw [if_neg (show ¬ (Turtle.Error.beyondUnicode code).isGrammar = true from Bool.false_ne_true)]
      exact iff_of_false (fun ⟨fault, told⟩ => nomatch told) fun foreseen => foreseen (.inl ⟨code, rfl⟩)
    | _ =>
      refine iff_of_true ⟨.malformed, rfl⟩ ?_
      rintro (⟨code, same⟩ | ⟨statements, same, _⟩) <;> cases same
  | ok statements =>
    dsimp only
    cases made : Store.ofStatements statements with
    | ok store =>
      have complete := Store.exists_ofStatements_iff.mp ⟨store, made⟩
      refine iff_of_true ⟨statements, parsed, Store.statements_ofStatements made⟩ ?_
      rintro (⟨code, same⟩ | ⟨_, same, statement, member, lacks⟩)
      · cases same
      · cases same
        exact absurd lacks (not_or.mpr (complete statement member))
    | error refusal =>
      refine iff_of_false (fun ⟨fault, told⟩ => nomatch told) fun foreseen => foreseen (.inr ?_)
      by_contra complete
      have makes := Store.exists_ofStatements_iff.mpr fun statement member =>
        not_or.mp fun lacks => complete ⟨statements, rfl, statement, member, lacks⟩
      obtain ⟨store, makes⟩ := makes
      cases made.symm.trans makes

/-- A file that holds text is loaded as the document of its lines, and nothing else is done. -/
theorem run_load_ofFile (path : Path) (readOnly : Bool) {disk : Disk} {text : String}
    (holds : disk.octetsAt path.place = .ok (Utf8.encode text)) :
    (Engine.ofFile path readOnly).load.run disk =
      (Engine.storeOf (String.ofList (Utf8.readLines text.toList)), disk) := by
  have decodes : Utf8.decodeLines (Utf8.encode text) =
      .ok (String.ofList (Utf8.readLines text.toList)) := by
    rw [Utf8.decodeLines, Utf8.decode, Utf8.decode?_encode]
    rfl
  have reads := run_readDocument_of_octetsAt holds decodes
  refine Engine.run_load ?_
  rw [Engine.run_readOr (isFaithful_onDisk path)]
  have here : (Engine.ofFile path readOnly).gateway.read.run disk =
      (.ok (String.ofList (Utf8.readLines text.toList)), disk) := reads
  rw [here]

/-- **A file that holds text is loaded, or the dataset is told to be faulty, and nothing is changed**, unless
reading it ends in an escape with a number beyond all characters, which is one of its own, or it has a
statement without a subject or a predicate. -/
theorem load_told_iff (path : Path) (readOnly : Bool) {disk : Disk} {text : String}
    (holds : disk.octetsAt path.place = .ok (Utf8.encode text)) :
    let engine := Engine.ofFile path readOnly
    let document := String.ofList (Utf8.readLines text.toList)
    (engine.load.run disk).2 = disk ∧
      (IsToldOf document (engine.load.run disk).1 ↔ ¬ IsUnforeseen document) ∧
      ∀ code, Turtle.parse [] document = .error (.beyondUnicode code) →
        code ∈ Turtle.codes document.toList ∧ Unicode.codeBound ≤ code := by
  intro engine document
  rw [run_load_ofFile path readOnly holds]
  exact ⟨rfl, isToldOf_storeOf_iff document, fun code fails => Turtle.mem_codes_of_parse fails⟩

/-- The disk with a file that holds a text. -/
def fileOf (text : String) : Disk := Disk.ofFiles [("onto.ttl", .file (Utf8.encode text))]

/-- A document that tells a statement twice. -/
theorem load_told_iff_of_twice :
    (fileOf "<a> <b> 'x', 'x' ; <c> 'y' .").octetsAt (Path.ofText "onto.ttl").place =
        .ok (Utf8.encode "<a> <b> 'x', 'x' ; <c> 'y' .") ∧
      ∃ store, ((Engine.ofFile (Path.ofText "onto.ttl") true).load.run
          (fileOf "<a> <b> 'x', 'x' ; <c> 'y' .")).1 = .ok store ∧
        store.statements = [⟨"a", "b", .plain "x"⟩, ⟨"a", "c", .plain "y"⟩] := by
  have holds : (fileOf "<a> <b> 'x', 'x' ; <c> 'y' .").octetsAt (Path.ofText "onto.ttl").place =
      .ok (Utf8.encode "<a> <b> 'x', 'x' ; <c> 'y' .") := by rfl
  have parsed : Turtle.parse []
      (String.ofList (Utf8.readLines "<a> <b> 'x', 'x' ; <c> 'y' .".toList)) =
        .ok [⟨"a", "b", .plain "x"⟩, ⟨"a", "b", .plain "x"⟩, ⟨"a", "c", .plain "y"⟩] := by rfl
  obtain ⟨_, told, _⟩ := load_told_iff (Path.ofText "onto.ttl") true holds
  have foreseen := told.mpr fun unforeseen => by
    rcases unforeseen with ⟨code, fails⟩ | ⟨statements, same, lacks⟩
    · cases parsed.symm.trans fails
    · cases parsed.symm.trans same
      exact absurd lacks (by decide)
  refine ⟨holds, ?_⟩
  cases loaded : ((Engine.ofFile (Path.ofText "onto.ttl") true).load.run
      (fileOf "<a> <b> 'x', 'x' ; <c> 'y' .")).1 with
  | error failure =>
    have succeeds : ((Engine.ofFile (Path.ofText "onto.ttl") true).load.run
        (fileOf "<a> <b> 'x', 'x' ; <c> 'y' .")).1.isOk = true := by rfl
    rw [loaded] at succeeds
    cases succeeds
  | ok store =>
    rw [loaded] at foreseen
    obtain ⟨statements, same, stored⟩ := foreseen
    cases parsed.symm.trans same
    exact ⟨store, rfl, stored.trans (by decide)⟩

/-- **An escape beyond all characters is not told to be a fault of the dataset**, nor is a statement whose
subject is empty. -/
theorem not_isToldOf_of_beyondUnicode :
    ((fileOf "<a> <b> \x22\\U00110000\x22 .").octetsAt (Path.ofText "onto.ttl").place =
        .ok (Utf8.encode "<a> <b> \x22\\U00110000\x22 .") ∧
      ¬ IsToldOf "<a> <b> \x22\\U00110000\x22 ."
        ((Engine.ofFile (Path.ofText "onto.ttl") false).load.run
          (fileOf "<a> <b> \x22\\U00110000\x22 .")).1) ∧
    (fileOf "<> <b> <c> .").octetsAt (Path.ofText "onto.ttl").place =
        .ok (Utf8.encode "<> <b> <c> .") ∧
      ¬ IsToldOf "<> <b> <c> ."
        ((Engine.ofFile (Path.ofText "onto.ttl") false).load.run (fileOf "<> <b> <c> .")).1 := by
  have escape : ((Engine.ofFile (Path.ofText "onto.ttl") false).load.run
      (fileOf "<a> <b> \x22\\U00110000\x22 .")).1 = .error (.document (.beyondUnicode 0x110000)) := by rfl
  have subject : ((Engine.ofFile (Path.ofText "onto.ttl") false).load.run
      (fileOf "<> <b> <c> .")).1 = .error (.incomplete ⟨some ⟨"", "b", .uri "c"⟩⟩) := by rfl
  refine ⟨⟨rfl, ?_⟩, rfl, ?_⟩
  · rw [escape]
    exact fun ⟨fault, same⟩ => nomatch same
  · rw [subject]
    exact fun ⟨fault, same⟩ => nomatch same

end Dataset

end HistoricalFigures
