import HistoricalFigures.Proofs.Turtle.Objects

/-!
**Documents are written without carriage returns**, so that nothing is lost where the ends of lines
are made alike.

* `return_notMem_formatIri`, `return_notMem_formatString`: resources and strings.
* `return_notMem_serialize`: documents.
-/
namespace HistoricalFigures.Turtle

open Rdf (Namespaces Statement Term)

theorem return_notMem_formatIriChar (c : Char) : '\r' ∉ formatIriChar c := by
  intro inside
  unfold formatIriChar at inside
  split at inside
  · rename_i safe
    rw [← List.mem_singleton.mp inside] at safe
    exact absurd safe (by decide)
  · rename_i escaped
    have fits := lt_of_not_isIriChar (Bool.not_eq_true _ ▸ escaped)
    simp only [List.mem_cons, Char.reduceEq, false_or] at inside
    exact absurd (Number.isHexDigit_of_mem_hexCapitals (by decide) fits _ inside) (by decide)

theorem return_notMem_formatStringChar (c : Char) : '\r' ∉ formatStringChar c := by
  intro inside
  unfold formatStringChar at inside
  repeat' split at inside
  all_goals simp only [List.mem_cons, List.not_mem_nil, or_false, Char.reduceEq] at inside
  exact absurd inside.symm ‹_›

theorem return_notMem_formatString (text : String) : '\r' ∉ formatString text := by
  simp [formatString, return_notMem_formatStringChar]

theorem return_notMem_of_isIriChar {text : List Char} (safe : ∀ c ∈ text, isIriChar c = true) :
    '\r' ∉ text := fun member => absurd (safe '\r' member) (by decide)

theorem return_notMem_of_isNamespaceName {name : List Char} (grammar : IsNamespaceName name) :
    '\r' ∉ name := by
  rcases grammar with rfl | ⟨letter, rest, rfl, isLetter, dotted⟩
  · exact List.not_mem_nil
  · intro member
    rcases List.mem_cons.mp member with rfl | later
    · exact absurd isLetter (by decide)
    · rcases dotted.forall_mem '\r' later with point | belongs
      · exact absurd point (by decide)
      · exact absurd belongs (by decide)

theorem return_notMem_of_isSafeLocal {text : List Char} (safe : isSafeLocal text = true) :
    '\r' ∉ text := fun member =>
  absurd (isLocalChar_of_isSafeLocal safe '\r' member) (by decide)

theorem return_notMem_of_isLanguageTag {tag : List Char} (language : IsLanguageTag tag) :
    '\r' ∉ tag := by
  intro member
  rcases language.forall_mem '\r' member with hyphen | belongs
  · exact absurd hyphen (by decide)
  · exact absurd belongs (by decide)

section Written

variable {namespaces : Namespaces} (declarable : ∀ name ∈ namespaces, IsDeclarable name)
include declarable

theorem return_notMem_formatIri (iri : String) : '\r' ∉ formatIri namespaces iri := by
  unfold formatIri
  split
  · rename_i text abbreviated
    obtain ⟨name, member, found⟩ := List.exists_of_findSome?_eq_some abbreviated
    obtain ⟨behind, _, safe, rfl⟩ := abbreviate?_eq_some found
    have front := return_notMem_of_isNamespaceName (declarable name member).1
    have back := return_notMem_of_isSafeLocal safe
    simp [front, back]
  · simp [return_notMem_formatIriChar]

theorem return_notMem_formatTerm {object : Term} (readable : IsReadTerm object) :
    '\r' ∉ formatTerm namespaces object := by
  cases readable with
  | uri value => exact return_notMem_formatIri declarable value
  | plain value =>
    rw [formatTerm_plain]
    exact return_notMem_formatString value
  | typed value datatype =>
    by_cases empty : datatype = ""
    · rw [empty, formatTerm_typed_empty]
      exact return_notMem_formatString value
    · rw [formatTerm_typed namespaces value empty]
      simp [return_notMem_formatString, return_notMem_formatIri declarable]
  | tagged value language grammar =>
    rw [formatTerm_tagged namespaces value (ne_empty_of_isLanguageTag grammar)]
    simp [return_notMem_formatString, return_notMem_of_isLanguageTag grammar]

theorem return_notMem_formatStatement {statement : Statement}
    (readable : IsReadTerm statement.object) : '\r' ∉ formatStatement namespaces statement := by
  rw [formatStatement_eq]
  simp [return_notMem_formatIri declarable, return_notMem_formatTerm declarable readable]

theorem return_notMem_formatDeclaration {name : String × String} (member : name ∈ namespaces) :
    '\r' ∉ formatDeclaration name := by
  have front := return_notMem_of_isNamespaceName (declarable name member).1
  have back := return_notMem_of_isIriChar (declarable name member).2
  rw [formatDeclaration_eq]
  simp [front, back]

/-- **A document has no carriage return.** -/
theorem return_notMem_serialize {statements : List Statement}
    (readable : ∀ statement ∈ statements, IsReadTerm statement.object) :
    '\r' ∉ (serialize namespaces statements).toList := by
  rw [serialize, String.toList_ofList]
  intro member
  rcases List.mem_append.mp member with head | rest
  · obtain ⟨name, known, inside⟩ := List.mem_flatMap.mp head
    exact return_notMem_formatDeclaration declarable known inside
  · rcases List.mem_cons.mp rest with feed | later
    · exact absurd feed (by decide)
    · obtain ⟨statement, known, inside⟩ := List.mem_flatMap.mp later
      exact return_notMem_formatStatement declarable (readable statement known) inside

end Written

end HistoricalFigures.Turtle
