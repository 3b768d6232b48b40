import Mathlib.Data.List.Infix
import HistoricalFigures.Json.Access
import HistoricalFigures.Proofs.Outcome
import HistoricalFigures.Proofs.Text.Search

/-!
**Which values have which parts.**

* `member?`, `inner?`: the member of an object, and the member of a member.
* `member_eq_ok_iff`: only an object has members, and one that is missing is the value given for it.
* `IsNested`, `member_member_eq_ok_iff`, `isNested_of_inner?`: when a member of a member can be taken.
* `exists_of_first`: the first part that is an object is the first item of a list.
* `holds_obj`, `holds_arr_iff`, `holds_str_iff`: what objects, lists and texts mention.
* `entry_returns_iff`: only an object has parts by name.
-/
namespace HistoricalFigures.Json

/-- A value is an object. -/
def IsObject : Json → Prop
  | .obj _ => True
  | _ => False

/-- A text counts as given unless it is empty. -/
theorem isTruthy_str {text : String} : (Json.str text).isTruthy = true ↔ text ≠ "" := decide_eq_true_iff

/-- The member of an object with a name; other values have none. -/
def member? (name : String) : Json → Option Json
  | .obj members => Assoc.get? members name
  | _ => none

/-- The member with a name of the member with another one. -/
def inner? (outer name : String) (value : Json) : Option Json :=
  (member? outer value).bind (member? name)

/-- A value is an object, and what it has under a name, if anything, is one as well. -/
def IsNested (name : String) (value : Json) : Prop :=
  value.IsObject ∧ ∀ inner, member? name value = some inner → inner.IsObject

variable {name outer : String} {default value found : Json}

/-- **Only an object has members**, and one that is missing is the value given for it. -/
theorem member_eq_ok_iff :
    member name default value = .ok found ↔
      value.IsObject ∧ found = (member? name value).getD default := by
  cases value with
  | obj members =>
    constructor
    · intro has
      exact ⟨trivial, (Except.ok.inj has).symm⟩
    · rintro ⟨-, rfl⟩
      rfl
  | _ => exact iff_of_false nofun fun both => both.1

/-- **A member of a member** can be taken where there are objects only. -/
theorem member_member_eq_ok_iff :
    (member outer (.obj []) value).bind (member name default) = .ok found ↔
      IsNested outer value ∧ found = (inner? outer name value).getD default := by
  constructor
  · intro has
    obtain ⟨inner, here, there⟩ := eq_ok_of_bind has
    obtain ⟨object, rfl⟩ := member_eq_ok_iff.mp here
    obtain ⟨nested, rfl⟩ := member_eq_ok_iff.mp there
    rw [IsNested, inner?]
    cases given : member? outer value with
    | none => exact ⟨⟨object, nofun⟩, rfl⟩
    | some inner =>
      rw [given] at nested
      exact ⟨⟨object, fun other same => Option.some.inj same ▸ nested⟩, rfl⟩
  · rintro ⟨⟨object, nested⟩, rfl⟩
    have here : member outer (.obj []) value = .ok ((member? outer value).getD (.obj [])) :=
      member_eq_ok_iff.mpr ⟨object, rfl⟩
    rw [here, inner?]
    change member name default _ = _
    cases given : member? outer value with
    | none => rfl
    | some inner => exact member_eq_ok_iff.mpr ⟨nested inner given, rfl⟩

/-- Where a member of a member is found there are objects only. -/
theorem isNested_of_inner? (given : inner? outer name value = some found) :
    IsNested outer value := by
  obtain ⟨inner, here, there⟩ := Option.bind_eq_some_iff.mp given
  cases value with
  | obj members =>
    refine ⟨trivial, fun other same => ?_⟩
    obtain rfl := Option.some.inj (here.symm.trans same)
    cases inner with
    | obj parts => trivial
    | _ => cases there
  | _ => cases here

/-- The first part of a value that is an object is the first item of a list. -/
theorem exists_of_first {row : Json} (first : value.first = .ok row) (object : row.IsObject) :
    ∃ later, value = .arr (row :: later) := by
  cases value with
  | arr items =>
    cases items with
    | nil => cases first
    | cons item later =>
      cases first
      exact ⟨later, rfl⟩
  | str text =>
    rw [Json.first, characters] at first
    cases chars : text.toList with
    | nil =>
      rw [chars] at first
      cases first
    | cons c rest =>
      rw [chars] at first
      cases first
      exact object.elim
  | _ => cases first

/-! ### Parts by name -/

/-- An object mentions the names that it has a value for. -/
theorem holds_obj {name : String} {members : Assoc Json} :
    holds name (.obj members) = .ok (Assoc.get? members name).isSome := by
  show Except.ok ((members.map fun entry => Json.str entry.1).any (isText name)) = _
  rw [List.any_map, Except.ok.injEq, Bool.eq_iff_iff, List.any_eq_true, Assoc.get?,
    Option.isSome_iff_exists]
  constructor
  · rintro ⟨entry, member, same⟩
    obtain rfl : entry.1 = name := of_decide_eq_true same
    cases found : List.lookup entry.1 members with
    | some value => exact ⟨value, rfl⟩
    | none => exact absurd (List.lookup_eq_none_iff.mp found entry member) (by simp)
  · rintro ⟨value, found⟩
    obtain ⟨before, after, rfl, -⟩ := List.lookup_eq_some_iff.mp found
    exact ⟨(name, value), List.mem_append_right before List.mem_cons_self, decide_eq_true rfl⟩

/-- A list mentions the texts in it. -/
theorem holds_arr_iff {name : String} {items : List Json} :
    holds name (.arr items) = .ok true ↔ .str name ∈ items := by
  show Except.ok (items.any (isText name)) = .ok true ↔ _
  rw [Except.ok.injEq, List.any_eq_true]
  constructor
  · rintro ⟨item, member, same⟩
    cases item with
    | str text => exact of_decide_eq_true same ▸ member
    | _ => cases same
  · exact fun member => ⟨.str name, member, decide_eq_true rfl⟩

/-- A text mentions the characters in it. -/
theorem holds_str_iff {name : String} {c : Char} (single : name.toList = [c]) {text : String} :
    holds name (.str text) = .ok true ↔ c ∈ text.toList := by
  show Except.ok (Text.contains name.toList text.toList) = .ok true ↔ _
  rw [Except.ok.injEq, single]
  constructor
  · exact fun inside => (Text.infix_of_contains inside).subset List.mem_cons_self
  · exact fun member => Text.contains_of_infix ((List.singleton_infix_iff c _).mpr member)

/-- Only an object has parts by name. -/
theorem entry_returns_iff {name : String} {item : Json} :
    (∃ value, entry name item = .ok value) ↔ ∃ value, member? name item = some value := by
  cases item with
  | obj members =>
    rw [entry, member?]
    cases Assoc.get? members name with
    | none => exact iff_of_false nofun nofun
    | some value => exact iff_of_true ⟨value, rfl⟩ ⟨value, rfl⟩
  | _ => exact iff_of_false nofun nofun

end HistoricalFigures.Json
