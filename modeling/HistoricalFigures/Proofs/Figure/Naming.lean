import HistoricalFigures.Proofs.Figure.Entity
import HistoricalFigures.Proofs.Figure.Identifier

/-!
**The identifier of an entity is made from the name of its figure and from nothing else.** A name loses
all that is no small letter or digit, so that figures with different names may share an identifier.

* `IsOfTexts`: figures of texts.
* `exists_toEntity?`: the entity of a figure.
* `exists_toEntities`: the entities of figures, and their identifiers.
* `not_nodup_of_alikeNames`: two figures with different names and addresses and one identifier.
-/
namespace HistoricalFigures.Figure

/-! ### Figures of texts -/

/-- A figure whose values are texts where they are given; of its occupations there may be a list. -/
structure IsOfTexts (figure : Figure) : Prop where
  texts : ∀ value ∈ [figure.name, figure.description, figure.birthDate, figure.deathDate,
    figure.birthPlace, figure.deathPlace, figure.nationality, figure.thumbnail],
      value.isTruthy = true → ∃ text, value = .str text
  occupation : (∃ text, figure.occupation = .str text) ∨
    ∃ texts, figure.occupation = Json.ofTexts texts

/-- The identifier that the name of a figure makes. -/
def identifier (figure : Figure) : String :=
  match figure.name with
  | .str name => slug name
  | _ => ""

theorem entityUri_injective : Function.Injective entityUri := by
  intro first second same
  have texts := congrArg String.toList same
  rw [entityUri, entityUri, String.toList_append, String.toList_append] at texts
  exact String.toList_inj.mp (List.append_cancel_left texts)

/-- The identifier that a name makes is not the name of the class, which has a capital. -/
theorem entityUri_identifier_ne (figure : Figure) : entityUri figure.identifier ≠ Rdf.figureClass := by
  have capital : 'P' ∈ Rdf.figureClassName.toList := by decide
  intro same
  have named : figure.identifier = Rdf.figureClassName := entityUri_injective same
  rw [← named, identifier] at capital
  split at capital
  · exact absurd (forall_mem_slug _ _ capital) (by decide)
  · exact absurd capital (by decide)

/-- The members of an entity as JSON. -/
def Entity.members (entity : Entity) : Assoc Json :=
  match entity.toJson with
  | .obj members => members
  | _ => []

theorem Entity.map_obj_members (entities : List Entity) :
    (entities.map members).map Json.obj = entities.map toJson := List.map_map

/-- The addresses of entities are those of their identifiers. -/
theorem Entity.map_address_members (entities : List Entity) :
    (entities.map members).map address = (entities.map id).map entityUri := by
  rw [List.map_map, List.map_map]
  rfl

section Values

variable {value : Json} (isText : value.isTruthy = true → ∃ text, value = .str text)
include isText

theorem exists_orElse (other : String) : ∃ told, value.orElse (.str other) = .str told := by
  unfold Json.orElse
  split
  · exact isText ‹_›
  · exact ⟨other, rfl⟩

theorem exists_textOrEmptyFor (operation : Json.Operation) :
    ∃ text, Json.textOrEmptyFor operation value = .ok text ∧ (text ≠ "" → value = .str text) := by
  by_cases given : value.isTruthy = true
  · obtain ⟨text, rfl⟩ := isText given
    exact ⟨text, textOrEmptyFor_str text, fun _ => rfl⟩
  · exact ⟨"", if_neg given, fun nonempty => absurd rfl nonempty⟩

theorem exists_dateOf : ∃ date, dateOf value = .ok date := by
  obtain ⟨text, told, _⟩ := exists_textOrEmptyFor isText .strip
  rw [dateOf, told]
  exact ⟨_, rfl⟩

end Values

theorem exists_occupationList {figure : Figure} (texts : figure.IsOfTexts) :
    ∃ works : List String, occupationList figure.occupation = .ok (works.map .str) := by
  rcases texts.occupation with ⟨text, single⟩ | ⟨works, several⟩
  · rw [single, occupationList]
    split
    · exact ⟨[], rfl⟩
    · exact ⟨[text], rfl⟩
  · rw [several]
    exact ⟨works, rfl⟩

/-- The identifier of a figure is made from the text of its name, which is empty if none is given. -/
theorem identifier_eq_slug {figure : Figure} {operation : Json.Operation} {name : String}
    (told : Json.textOrEmptyFor operation figure.name = .ok name)
    (isName : name ≠ "" → figure.name = .str name) : figure.identifier = slug name := by
  rw [identifier]
  split
  · rename_i text isStr
    rw [isStr, textOrEmptyFor_str] at told
    exact congrArg slug (Except.ok.inj told)
  · rename_i other
    obtain rfl : name = "" := not_not.mp fun nonempty => other name (isName nonempty)
    decide

/-- **The entity of a figure of texts** has the identifier that the name makes. A figure whose name
makes none has no entity. -/
theorem exists_toEntity? {figure : Figure} (texts : figure.IsOfTexts) :
    ∃ found, toEntity? figure = .ok found ∧
      found.toList.map Entity.id = [figure.identifier].filter (· ≠ "") ∧
        ∀ entity ∈ found, IsTextual entity.members := by
  have each := texts.texts
  simp only [List.forall_mem_cons, List.not_mem_nil, false_imp_iff, implies_true, and_true] at each
  obtain ⟨named, described, born, died, bornAt, diedAt, belongs, shown⟩ := each
  obtain ⟨name, told, isName⟩ := exists_textOrEmptyFor named .lower
  rw [toEntity?, told, ok_bind, identifier_eq_slug told isName]
  by_cases empty : slug name = ""
  · rw [if_pos empty, empty]
    exact ⟨none, rfl, rfl, nofun⟩
  · have nonempty : name ≠ "" := by
      rintro rfl
      exact empty (by decide)
    have kept : [slug name].filter (· ≠ "") = [slug name] :=
      List.filter_cons_of_pos (decide_eq_true empty)
    obtain ⟨birthDate, birthDated⟩ := exists_dateOf born
    obtain ⟨deathDate, deathDated⟩ := exists_dateOf died
    obtain ⟨works, occupied⟩ := exists_occupationList texts
    rw [if_neg empty, birthDated, ok_bind, deathDated, ok_bind, occupied, ok_bind, kept]
    refine ⟨_, rfl, rfl, ?_⟩
    rintro entity ⟨⟩
    refine ⟨⟨slug name, rfl, empty, fun c member => ?_⟩, ⟨name, congrArg some (isName nonempty), nonempty⟩,
      ?_, .inr (.inr ⟨works, rfl⟩)⟩
    · exact (forall_mem_slug name c member).imp_left Unicode.isAlphanum_of_isLower_or_isDigit
    · have texts : ∀ {value : Json} other, (value.isTruthy = true → ∃ text, value = .str text) →
          ∃ text, some (value.orElse (.str other)) = some (.str text) := fun other isText =>
        (exists_orElse isText other).imp fun _ => congrArg some
      unfold optionalMembers
      simp only [List.forall_mem_cons, List.not_mem_nil, false_imp_iff, implies_true, and_true]
      exact ⟨.inr (texts "" described), .inr (texts "" shown), .inr ⟨_, rfl⟩, .inr ⟨_, rfl⟩,
        .inr (texts "" bornAt), .inr (texts "" diedAt), .inr (texts "Boliviana" belongs)⟩

/-- **The identifiers of entities are those that the names of their figures make**, one after the
other. -/
theorem exists_toEntities {figures : List Figure} (texts : ∀ figure ∈ figures, figure.IsOfTexts) :
    ∃ entities, toEntities figures = .ok entities ∧
      entities.map Entity.id = (figures.map identifier).filter (· ≠ "") ∧
        ∀ entity ∈ entities, IsTextual entity.members := by
  induction figures with
  | nil => exact ⟨[], rfl, rfl, fun _ absent => absurd absent List.not_mem_nil⟩
  | cons figure later found =>
    obtain ⟨here, others⟩ := List.forall_mem_cons.mp texts
    obtain ⟨first, gives, id, textual⟩ := exists_toEntity? here
    obtain ⟨entities, made, ids, each⟩ := found others
    obtain ⟨options, all, rfl⟩ := eq_ok_of_map made
    have whole : toEntities (figure :: later) =
        .ok (first.toList ++ options.filterMap fun entity => entity) := by
      rw [toEntities, List.mapM_cons, gives, ok_bind, all, ok_bind]
      cases first <;> rfl
    refine ⟨_, whole, ?_, ?_⟩
    · rw [List.map_append, id, ids, ← List.filter_append]
      rfl
    · exact List.forall_mem_append.mpr ⟨fun entity member => textual entity (Option.mem_toList.mp member),
        each⟩

/-- A figure of which nothing but a name is told. -/
def bearing (uri name : String) : Figure where
  id := localId uri
  uri := .str uri
  name := .str name
  description := .str ""
  thumbnail := .str ""
  birthDate := .str ""
  deathDate := .str ""
  birthPlace := .str ""
  deathPlace := .str ""
  nationality := .str ""
  occupation := .str ""
  source := "dbpedia"

theorem isOfTexts_bearing (uri name : String) : (bearing uri name).IsOfTexts where
  texts := by
    unfold bearing
    simp only [List.forall_mem_cons, List.not_mem_nil, false_imp_iff, implies_true, and_true]
    exact ⟨fun _ => ⟨_, rfl⟩, nofun, nofun, nofun, nofun, nofun, nofun, nofun⟩
  occupation := .inl ⟨"", rfl⟩

/-- Two figures whose names differ in what no identifier has. -/
def alikeNames : List Figure :=
  [bearing "http://dbpedia.org/resource/Ana_Paz" "Ana Paz",
    bearing "http://dbpedia.org/resource/Ana-Paz" "Ana-Paz"]

/-- **Figures with different names and addresses may have entities with one identifier.** -/
theorem not_nodup_of_alikeNames :
    (∀ figure ∈ alikeNames, figure.IsOfTexts) ∧
      alikeNames.Pairwise (fun first second => first.name ≠ second.name ∧ first.uri ≠ second.uri) ∧
      ∃ entities, toEntities alikeNames = .ok entities ∧ ¬ (entities.map Entity.id).Nodup := by
  have texts : ∀ figure ∈ alikeNames, figure.IsOfTexts := by
    unfold alikeNames
    simp only [List.forall_mem_cons, List.not_mem_nil, false_imp_iff, implies_true, and_true]
    exact ⟨isOfTexts_bearing _ _, isOfTexts_bearing _ _⟩
  have made : (alikeNames.map identifier).filter (· ≠ "") = ["ana_paz", "ana_paz"] := by decide
  obtain ⟨entities, gives, ids, _⟩ := exists_toEntities texts
  refine ⟨texts, by simp [alikeNames, bearing], entities, gives, ?_⟩
  rw [ids, made]
  decide

end HistoricalFigures.Figure
