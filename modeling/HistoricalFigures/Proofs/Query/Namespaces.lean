import HistoricalFigures.Proofs.Query.Insertion

/-!
**Where the namespaces of an insertion come from**: its declarations, with their escapes as they
are, and then whatever in the block looks like a declaration, in literals as well.

* `get?_putAll`: the last namespace that was put for a name counts.
* `Insertion.last?`, `Insertion.hidden?`: the declarations that count, before the block and in it.
* `declaredNamespaces_core`: the namespaces of an insertion.
* `namespaces_eq_iff`: when they are those that a document reads from the same declarations.
* `namespaces_of_literals`: a literal that changes what a name stands for.
-/
namespace HistoricalFigures

open Rdf (Namespaces)

/-- The last value that was put for a name counts. -/
theorem Assoc.get?_putAll {α : Type} (map : Assoc α) (pairs : List (String × α)) (name : String) :
    (map.putAll pairs).get? name = (pairs.reverse.lookup name).or (map.get? name) := by
  induction pairs generalizing map with
  | nil => rfl
  | cons pair later found =>
    rw [List.reverse_cons, List.lookup_append, Option.or_assoc]
    refine (found (map.put pair.1 pair.2)).trans (congrArg _ ?_)
    by_cases same : name = pair.1
    · subst same
      rw [Assoc.get?_put_self, List.lookup_cons_self]
      rfl
    · rw [Assoc.get?_put_of_ne map pair.2 same, List.lookup_cons, beq_false_of_ne same]
      rfl

namespace Query

namespace Insertion

variable (insertion : Insertion)

/-- The declaration of a name before the block that counts, the last one. -/
def last? (name : String) : Option Declaration :=
  insertion.prologue.reverse.find? fun d => String.ofList d.name = name

/-- The namespace that the block seems to declare for a name, in a literal or outside. -/
def hidden? (name : String) : Option String :=
  (Text.findAll declaration insertion.braced).reverse.lookup name

/-- The namespaces that the declarations before the block give, as a document reads them. -/
def resolved : Namespaces :=
  Rdf.defaultNamespaces.putAll (insertion.prologue.map Declaration.resolved)

end Insertion

/-- No declaration begins in the words of an insertion, nor in blanks. -/
theorem findAll_phrase (insertion : Insertion) :
    Text.findAll declaration (insertion.phrase ++ (insertion.space.val ++ insertion.braced)) =
      Text.findAll declaration insertion.braced := by
  have words : ∀ c ∈ insertion.phrase, Text.sameLetter 'p' c = false := by
    intro c member
    have among : c.toLower ∈ "insert data".toList := by
      rw [← insertion.isPhrase]
      exact List.mem_map_of_mem member
    have each : ∀ letter ∈ "insert data".toList, letter.toNat < 128 ∧
        Text.sameLetter 'p' letter = false ∧ Text.sameLetter 'p' letter.toUpper = false :=
      Unicode.forall_mem_of_all (by decide)
    obtain ⟨ascii, small, capital⟩ := each _ among
    rcases Unicode.eq_or_eq_of_toLower rfl ascii with same | same
    · exact same ▸ small
    · exact same ▸ capital
  have blanks : ∀ c ∈ insertion.space.val, Text.sameLetter 'p' c = false := fun c member =>
    Bool.eq_false_iff.mpr fun same => by
      have blank := insertion.space.property c member
      rw [Text.isBlank_of_sameLetter (by decide) same] at blank
      cases blank
  rw [Text.findAll_append_of_misses looksAhead_declaration
      (Text.misses_of_head declaration_of_head words),
    Text.findAll_append_of_misses looksAhead_declaration
      (Text.misses_of_head declaration_of_head blanks)]

/-- **The namespaces of an insertion**: those of the declarations before the block, as they are
written, and then those that the block seems to declare. -/
theorem declaredNamespaces_core (insertion : Insertion) :
    declaredNamespaces insertion.core =
      (Rdf.defaultNamespaces.putAll (insertion.prologue.map Declaration.written)).putAll
        (Text.findAll declaration insertion.braced) := by
  rw [declaredNamespaces, Insertion.core, findAll_prologue, findAll_phrase, Assoc.putAll,
    List.foldl_append]
  rfl

/-! ### Names -/

/-- The last of the pairs that declarations give for a name. -/
theorem Insertion.lookup_reverse (insertion : Insertion) {pair : Declaration → String × String}
    (named : ∀ d, (pair d).1 = String.ofList d.name) (name : String) :
    (insertion.prologue.map pair).reverse.lookup name =
      (insertion.last? name).map fun d => (pair d).2 := by
  rw [← List.map_reverse, last?]
  induction insertion.prologue.reverse with
  | nil => rfl
  | cons d later found =>
    by_cases same : String.ofList d.name = name
    · rw [List.map_cons, List.find?_cons_of_pos (by simpa using same), ← Prod.mk.eta (p := pair d),
        named, same, List.lookup_cons_self]
      rfl
    · rw [List.map_cons, List.find?_cons_of_neg (by simpa using same), ← found,
        ← Prod.mk.eta (p := pair d), List.lookup_cons, named, beq_false_of_ne (Ne.symm same)]

/-- What a name stands for in an insertion. -/
theorem get?_declaredNamespaces (insertion : Insertion) (name : String) :
    (declaredNamespaces insertion.core).get? name =
      (insertion.hidden? name).or (((insertion.last? name).map fun d => String.ofList d.raw).or
        (Rdf.defaultNamespaces.get? name)) := by
  rw [declaredNamespaces_core, Assoc.get?_putAll, Assoc.get?_putAll,
    insertion.lookup_reverse (fun _ => rfl)]
  rfl

theorem get?_resolved (insertion : Insertion) (name : String) :
    insertion.resolved.get? name =
      ((insertion.last? name).map fun d => String.ofList d.iri).or
        (Rdf.defaultNamespaces.get? name) := by
  rw [Insertion.resolved, Assoc.get?_putAll, insertion.lookup_reverse (fun _ => rfl)]
  rfl

/-- A namespace is written as it reads just where it has no escape. -/
theorem Declaration.raw_eq_iri_iff (d : Declaration) : d.raw = d.iri ↔ '\\' ∉ d.raw := by
  rw [← Turtle.unescape_eq_self_iff d.isRawIri, d.resolves, Except.ok.injEq]
  exact eq_comm

/-- **The names of an insertion stand for what a document reads from its declarations** exactly if
what the block seems to declare repeats that, and no declaration that counts has an escape. -/
theorem namespaces_eq_iff (insertion : Insertion) :
    ∃ query declared, parse (String.ofList insertion.text) = .ok query ∧
      query.body = .insert (splitTriples (String.ofList insertion.block)) ∧
      Turtle.read Rdf.defaultNamespaces
        (String.ofList (insertion.prologue.flatMap Declaration.text)) = .ok (declared, []) ∧
      ((∀ name, query.namespaces.get? name = declared.get? name) ↔
        (∀ name, ∀ iri ∈ insertion.hidden? name, declared.get? name = some iri) ∧
          ∀ name, ∀ d ∈ insertion.last? name, insertion.hidden? name = none → '\\' ∉ d.raw) := by
  refine ⟨_, insertion.resolved, insertion.parse_text, rfl, read_prologue _ _, ?_⟩
  simp only [get?_declaredNamespaces]
  constructor
  · intro same
    refine ⟨fun name iri found => ?_, fun name d counts nothing => ?_⟩
    · rw [← same name, found]
      rfl
    · have here := same name
      rw [nothing, get?_resolved, Option.mem_def.mp counts] at here
      exact d.raw_eq_iri_iff.mp (String.ofList_injective (Option.some.inj here))
  · rintro ⟨repeats, plain⟩ name
    cases found : insertion.hidden? name with
    | some iri => exact (repeats name iri found).symm
    | none =>
      rw [get?_resolved]
      cases counts : insertion.last? name with
      | none => rfl
      | some d =>
        have same := d.raw_eq_iri_iff.mpr (plain name d counts found)
        exact congrArg (fun raw => some (String.ofList raw)) same

/-- **A literal changes what a name stands for**: two insertions that differ in a literal, and an
escape that a document resolves. -/
theorem namespaces_of_literals :
    (parse "INSERT DATA \x7b <a> phb:nombre \x22x\x22 . \x7d").toOption.map
        (fun query => query.namespaces.get? "phb") = some (some Rdf.ontologyNamespace) ∧
      (parse "INSERT DATA \x7b <a> phb:nombre \x22PREFIX phb: <http://evil/>\x22 . \x7d").toOption.map
        (fun query => query.namespaces.get? "phb") = some (some "http://evil/") ∧
      (parse "PREFIX e: <\\u0041>\nINSERT DATA \x7b \x7d").toOption.map
        (fun query => query.namespaces.get? "e") = some (some "\\u0041") ∧
      (Turtle.read Rdf.defaultNamespaces "PREFIX e: <\\u0041>\n").toOption.map
        (fun found => found.1.get? "e") = some (some "A") := by
  decide +kernel

end Query

end HistoricalFigures
