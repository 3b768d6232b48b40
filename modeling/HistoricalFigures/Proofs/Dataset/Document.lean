import HistoricalFigures.Dataset.Engine
import HistoricalFigures.Proofs.Query.Answer
import HistoricalFigures.Proofs.Turtle.Returns
import HistoricalFigures.Proofs.Turtle.RoundTrip

/-!
**Documents of stores.** A store is written as a document and loaded from it.

* `written`: the document of a store.
* `storeOf_written_of_reserved`: a document with a reserved language is malformed.
* `exists_storeOf_written`: every other one is loaded.
* `IsKeptTerm`, `storeOf_written_eq_self`: where no object has an empty datatype or a reserved
  language, the store itself is loaded.
-/
namespace HistoricalFigures

open Rdf (Namespaces Statement Store Term)

/-! ### The default namespaces -/

theorem Rdf.nodup_defaultNamespaces : Rdf.defaultNamespaces.names.Nodup := by decide

theorem Turtle.isDeclarable_defaultNamespaces :
    ∀ name ∈ Rdf.defaultNamespaces, IsDeclarable name := by
  have plain : ∀ letter : Char, ∀ rest : List Char, letter.isAlpha = true →
      rest.all isNameChar = true → IsNamespaceName (letter :: rest) :=
    fun letter rest isLetter names =>
      .inr ⟨letter, rest, rfl, isLetter, isDotted_of_forall (List.all_eq_true.mp names)⟩
  intro name member
  rw [Rdf.defaultNamespaces, List.mem_cons, List.mem_singleton] at member
  rcases member with rfl | rfl
  · exact ⟨plain 'r' ['d', 'f'] (by decide) (by decide),
      List.all_eq_true.mp (by decide)⟩
  · exact ⟨plain 'p' ['h', 'b'] (by decide) (by decide),
      List.all_eq_true.mp (by decide)⟩

namespace Dataset

/-! ### Written stores -/

/-- The document of a store. -/
def written (store : Store) : String := Turtle.serialize Rdf.defaultNamespaces store.statements

/-- All objects of a store can stand in documents. -/
def IsReadable (store : Store) : Prop :=
  ∀ statement ∈ store.statements, Turtle.IsReadTerm statement.object

/-- Some object of a store has a language that reads as the beginning of a declaration. -/
def HasReserved (store : Store) : Prop :=
  ∃ statement ∈ store.statements, Turtle.HasReservedTag statement.object

/-- What the statements of a document make is loaded from it. -/
theorem storeOf_eq_ok {document : String} {store : Store} :
    Engine.storeOf document = .ok store ↔
      ∃ statements, Turtle.parse [] document = .ok statements ∧
        Store.ofStatements statements = .ok store := by
  unfold Engine.storeOf
  constructor
  · intro loads
    split at loads
    · rename_i statements parsed
      exact ⟨statements, parsed, eq_ok_of_mapError loads⟩
    · split at loads <;> cases loads
  · rintro ⟨statements, parsed, made⟩
    rw [parsed]
    dsimp only
    rw [made]
    rfl

/-- **The objects of a store that is loaded can stand in documents.** -/
theorem isReadable_of_storeOf {document : String} {store : Store}
    (loads : Engine.storeOf document = .ok store) : IsReadable store := by
  obtain ⟨statements, parsed, made⟩ := storeOf_eq_ok.mp loads
  exact fun statement member =>
    Turtle.isReadTerm_of_parse parsed statement (Store.mem_ofStatements made member)

theorem return_notMem_written {store : Store} (readable : IsReadable store) :
    '\r' ∉ (written store).toList :=
  Turtle.return_notMem_serialize Turtle.isDeclarable_defaultNamespaces readable

theorem written_empty : written Store.empty = Turtle.emptyDocument := rfl

theorem return_notMem_emptyDocument : '\r' ∉ Turtle.emptyDocument.toList := by
  rw [← written_empty]
  exact return_notMem_written fun statement member => absurd member List.not_mem_nil

/-- **A document with a reserved language is malformed.** -/
theorem storeOf_written_of_reserved {store : Store} (readable : IsReadable store)
    (reserved : HasReserved store) :
    Engine.storeOf (written store) = .error (.dataset .malformed) := by
  obtain ⟨cause, fault, grammar⟩ := Turtle.parse_serialize_reserved [] Rdf.nodup_defaultNamespaces
    Turtle.isDeclarable_defaultNamespaces readable reserved
  rw [Engine.storeOf, written, fault]
  dsimp only
  rw [if_pos grammar]

/-- **A document without reserved languages is loaded.** -/
theorem exists_storeOf_written {store : Store} (readable : IsReadable store)
    (free : ¬ HasReserved store) : ∃ loaded, Engine.storeOf (written store) = .ok loaded := by
  have parsed := Turtle.parse_serialize [] Rdf.nodup_defaultNamespaces
    Turtle.isDeclarable_defaultNamespaces readable
    (fun statement member reserved => free ⟨statement, member, reserved⟩)
  have complete : ∀ statement ∈ store.statements.map Turtle.reread, statement.IsComplete := by
    intro statement member
    obtain ⟨original, inside, rfl⟩ := List.mem_map.mp member
    exact store.complete original inside
  exact ⟨_, storeOf_eq_ok.mpr ⟨_, parsed, Store.ofStatements_eq complete⟩⟩

/-! ### Stores that are loaded as they were -/

/-- The objects that are given back as they were: no empty datatype and no reserved language. -/
def IsKeptTerm (term : Term) : Prop := term.datatype ≠ some "" ∧ ¬ Turtle.HasReservedTag term

instance (term : Term) : Decidable (IsKeptTerm term) := inferInstanceAs (Decidable (_ ∧ _))

/-- **A store whose objects are kept is loaded as it was.** -/
theorem storeOf_written_eq_self {store : Store} (readable : IsReadable store)
    (kept : ∀ statement ∈ store.statements, IsKeptTerm statement.object) :
    Engine.storeOf (written store) = .ok store := by
  have parsed := Turtle.parse_serialize [] Rdf.nodup_defaultNamespaces
    Turtle.isDeclarable_defaultNamespaces readable
    (fun statement member => (kept statement member).2)
  have same : ∀ statement ∈ store.statements, Turtle.reread statement = statement :=
    fun statement member => by rw [Turtle.reread, Turtle.rereadTerm_eq_self (kept statement member).1]
  rw [List.map_congr_left same, List.map_id'] at parsed
  exact storeOf_eq_ok.mpr ⟨_, parsed, Store.ofStatements_statements store⟩

end Dataset

end HistoricalFigures
