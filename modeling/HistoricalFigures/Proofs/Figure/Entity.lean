import HistoricalFigures.Figure.Entity
import HistoricalFigures.Proofs.Dataset.Document
import HistoricalFigures.Proofs.Literal.Escaping
import HistoricalFigures.Proofs.Query.Triples
import HistoricalFigures.Proofs.Turtle.RoundTrip

/-!
**What an entity says**, where its members are texts, and the triples that are built from it.

* `IsTextual`: an entity whose members are texts.
* `facts`, `statements`: what an entity says, and the statements of it.
* `entityTriples_eq`: the triples that are built from an entity, part by part.
* `insertQuery?_eq`: the query that is built around them.
-/
namespace HistoricalFigures.Figure

open Rdf (Namespaces Statement Store Term)

/-! ### What an entity says -/

/-- The text of a member, or the empty text. -/
def memberText (entity : Assoc Json) (name : String) : String :=
  match Assoc.get? entity name with
  | some (.str text) => text
  | _ => ""

/-- The texts of the occupations: a text is a single one, an empty one none. -/
def works (entity : Assoc Json) : List String :=
  match Assoc.get? entity "ocupacion" with
  | some (.str text) => [text].filter (· ≠ "")
  | some (.arr items) => items.filterMap fun item =>
    match item with
    | .str text => some text
    | _ => none
  | _ => []

/-- An entity with an identifier and a label; its other members are texts, or there is a list of
texts of its occupations. -/
structure IsTextual (entity : Assoc Json) : Prop where
  hasId : ∃ id, Assoc.get? entity "id" = some (.str id) ∧ id ≠ "" ∧
    ∀ c ∈ id.toList, c.isAlphanum = true ∨ c = '_'
  hasLabel : ∃ label, Assoc.get? entity "label" = some (.str label) ∧ label ≠ ""
  texts : ∀ name ∈ "description" :: "imagenReferencia" :: optionalMembers,
    Assoc.get? entity name = none ∨ ∃ text, Assoc.get? entity name = some (.str text)
  occupations : Assoc.get? entity "ocupacion" = none ∨
    (∃ text, Assoc.get? entity "ocupacion" = some (.str text)) ∨
      ∃ texts, Assoc.get? entity "ocupacion" = some (Json.ofTexts texts)

/-- What a member says, if its text is not empty. -/
def given (entity : Assoc Json) (name : String) : List (String × String) :=
  [(name, memberText entity name)].filter fun fact => fact.2 ≠ ""

/-- What an entity says: the names of predicates with texts, in order. -/
def facts (entity : Assoc Json) : List (String × String) :=
  [("nombre", memberText entity "label"), ("resumen", memberText entity "description")] ++
    optionalMembers.flatMap (given entity) ++ (works entity).map (fun text => ("ocupacion", text)) ++
    given entity "imagenReferencia"

/-- The address of an entity. -/
def address (entity : Assoc Json) : String := entityUri (memberText entity "id")

/-- The statement of a fact: its object is the text on one line. -/
def factStatement (uri : String) (fact : String × String) : Statement :=
  ⟨uri, Rdf.ontologyNamespace ++ fact.1, .plain (Literal.unbroken fact.2)⟩

/-- The statements of an entity: its class, and then its facts. -/
def statements (entity : Assoc Json) : List Statement :=
  ⟨address entity, Rdf.typePredicate, .uri Rdf.figureClass⟩ ::
    (facts entity).map (factStatement (address entity))

/-- The triple of a fact. -/
def factTriple (uri : String) (fact : String × String) : String := textTriple uri fact.1 fact.2

/-- The triples of an entity. -/
def triples (entity : Assoc Json) : List String :=
  ("<" ++ address entity ++ "> rdf:type phb:" ++ Rdf.figureClassName ++ " .") ::
    (facts entity).map (factTriple (address entity))

section Building

variable {entity : Assoc Json}

theorem memberText_eq {name text : String} (found : Assoc.get? entity name = some (.str text)) :
    memberText entity name = text := by
  rw [memberText, found]

/-- The triple for a member that is a text, or not there. -/
theorem optionalTriple_eq (uri : String) {name : String}
    (isText : Assoc.get? entity name = none ∨ ∃ text, Assoc.get? entity name = some (.str text)) :
    optionalTriple uri name (.obj entity) = .ok ((given entity name).map (factTriple uri)) := by
  rcases isText with absent | ⟨text, found⟩
  · have nothing : memberText entity name = "" := by rw [memberText, absent]
    rw [optionalTriple, Json.member, absent, given, nothing]
    rfl
  · rw [optionalTriple, Json.member, found, given, memberText_eq found]
    by_cases empty : text = ""
    · subst empty
      rfl
    · have truthy : (Json.str text).isTruthy = true := decide_eq_true empty
      have kept : ([(name, text)].filter fun fact => fact.2 ≠ "") = [(name, text)] :=
        List.filter_cons_of_pos (decide_eq_true empty)
      rw [kept]
      change (if (Json.str text).isTruthy = true then _ else _) = _
      rw [if_pos truthy]
      rfl

theorem textOrEmptyFor_str {operation : Json.Operation} (text : String) :
    Json.textOrEmptyFor operation (.str text) = .ok text := by
  by_cases empty : text = ""
  · subst empty
    rfl
  · rw [Json.textOrEmptyFor, if_pos (show (Json.str text).isTruthy = true from decide_eq_true empty)]
    rfl

/-- The occupations of an entity are those texts. -/
theorem occupations_eq (given : Assoc.get? entity "ocupacion" = none ∨
    (∃ text, Assoc.get? entity "ocupacion" = some (.str text)) ∨
      ∃ texts, Assoc.get? entity "ocupacion" = some (Json.ofTexts texts)) :
    occupations (.obj entity) = .ok ((works entity).map .str) := by
  rcases given with absent | ⟨text, found⟩ | ⟨texts, found⟩
  · rw [occupations, Json.member, absent, works, absent]
    rfl
  · rw [occupations, Json.member, found, works, found]
    by_cases empty : text = ""
    · subst empty
      rfl
    · have kept : [text].filter (· ≠ "") = [text] := List.filter_cons_of_pos (decide_eq_true empty)
      have given : (Json.str text).orElse (.arr []) = .str text :=
        if_pos (show (Json.str text).isTruthy = true from decide_eq_true empty)
      dsimp only
      rw [kept, ok_bind, Option.getD_some, given]
      rfl
  · have all : (Json.ofTexts texts).orElse (.arr []) = .arr (texts.map .str) := by
      cases texts <;> rfl
    have same : works entity = texts := by
      rw [works, found, Json.ofTexts]
      dsimp only
      rw [List.filterMap_map]
      exact List.filterMap_some
    rw [occupations, Json.member, found, same, ok_bind, Option.getD_some, all]
    rfl

/-- The triples that are built from an entity, one part after the other. -/
theorem entityTriples_eq (textual : IsTextual entity) {id label : String}
    (hasId : Assoc.get? entity "id" = some (.str id))
    (hasLabel : Assoc.get? entity "label" = some (.str label)) :
    entityTriples Rdf.figureClassName (.str id) (.str label) (.obj entity) =
      .ok (triples entity) := by
  have summary : Json.member "description" (.str "") (.obj entity) =
      .ok (.str (memberText entity "description")) := by
    rcases textual.texts "description" List.mem_cons_self with absent | ⟨text, found⟩
    · rw [Json.member, absent, memberText, absent]
      rfl
    · rw [Json.member, found, memberText_eq found]
      rfl
  have details : (optionalMembers.mapM fun member =>
      optionalTriple (entityUri (Json.str id).shown) member (.obj entity)) =
        .ok (optionalMembers.map fun member =>
          (given entity member).map (factTriple (address entity))) := by
    refine mapM_eq_ok fun member among => ?_
    rw [optionalTriple_eq _ (textual.texts member (by simp [among])), address,
      memberText_eq hasId]
    rfl
  have occupied : ((works entity).map Json.str).mapM (Json.textOrEmptyFor .replace) =
      .ok (works entity) := by
    rw [mapM_map_eq_ok (g := fun text => text) fun text _ => textOrEmptyFor_str text, List.map_id']
  have image := optionalTriple_eq (entityUri (Json.str id).shown)
    (textual.texts "imagenReferencia" (by simp))
  rw [entityTriples, textOrEmptyFor_str, ok_bind, summary, ok_bind, textOrEmptyFor_str, ok_bind, details, ok_bind,
    occupations_eq textual.occupations, ok_bind, occupied, ok_bind, image, ok_bind]
  have named : entityUri (Json.str id).shown = address entity := by
    rw [address, memberText_eq hasId]
    rfl
  rw [named, triples, facts, List.map_append, List.map_append, List.map_append, List.map_flatMap,
    List.flatMap_def, List.map_map (f := fun text => ("ocupacion", text)), memberText_eq hasLabel]
  simp only [List.append_assoc]
  rfl

/-- **The triples that are built from an entity.** -/
theorem insertQuery?_eq (textual : IsTextual entity) :
    insertQuery? Rdf.figureClassName (.obj entity) = .ok (some (insertQuery (triples entity))) := by
  obtain ⟨id, hasId, idNonempty, _⟩ := textual.hasId
  obtain ⟨label, hasLabel, labelNonempty⟩ := textual.hasLabel
  have given : ((Json.str id).isTruthy && (Json.str label).isTruthy) = true := by
    rw [Bool.and_eq_true]
    exact ⟨decide_eq_true idNonempty, decide_eq_true labelNonempty⟩
  rw [insertQuery?, Json.member, Json.member, hasId, hasLabel, ok_bind, ok_bind]
  dsimp only [Option.getD_some]
  rw [if_pos given, entityTriples_eq textual hasId hasLabel]
  rfl

end Building

end HistoricalFigures.Figure
