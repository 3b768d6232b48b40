import Mathlib.Data.List.Induction
import HistoricalFigures.Disk.Path

/-!
**Places that lead to themselves.** A place is a path as well, and the place that it leads to may
be itself: then none of its names stays, leads back or leads to the root.

* `descend_cases`: where one more name can lead.
* `IsNormal`: a place leads to itself.
* `isNormal_place`: where a path leads to is such a place.
* `IsNormal.dropLast`: and so is what is above it.
-/
namespace HistoricalFigures

theorem Path.place_append (path : Path) (name : String) :
    place (path ++ [name]) = (place path).descend name := by
  rw [place, place, List.foldl_append, List.foldl_cons, List.foldl_nil]

namespace Place

/-- **Where one more name can lead**: nowhere else, one step down, one step back, or to the root. -/
theorem descend_cases (place : Place) (name : String) :
    place.descend name = place ∨ place.descend name = place ++ [name] ∨
      place.descend name = place.dropLast ∨ name = rootName ∧ place.descend name = [rootName] := by
  unfold descend up
  split
  · exact .inl rfl
  · split
    · rename_i upwards
      split
      · exact .inr (.inl (by rw [upwards]))
      · split
        · exact .inl rfl
        · exact .inr (.inr (.inl rfl))
    · split
      · exact .inr (.inr (.inr ⟨‹_›, rfl⟩))
      · exact .inr (.inl rfl)

theorem length_foldl_descend_le (path : Path) (start : Place) :
    (path.foldl descend start).length ≤ start.length + path.length := by
  induction path generalizing start with
  | nil => exact Nat.le_refl _
  | cons name later found =>
    have step : (start.descend name).length ≤ start.length + 1 := by
      rcases descend_cases start name with same | down | back | ⟨_, root⟩
      · rw [same]
        exact Nat.le_succ _
      · exact Nat.le_of_eq (by rw [down, List.length_append, List.length_singleton])
      · rw [back, List.length_dropLast]
        omega
      · rw [root, List.length_singleton]
        omega
    rw [List.foldl_cons, List.length_cons]
    exact Nat.le_trans (found _) (by omega)

/-- A place leads to itself. -/
def IsNormal (place : Place) : Prop := Path.place place = place

/-- The top leads to itself. -/
theorem isNormal_nil : IsNormal [] := rfl

theorem isNormal_of_append {place : Place} {name : String} (normal : IsNormal (place ++ [name])) :
    IsNormal place := by
  have short : (Path.place place).length ≤ place.length := by
    have bound := length_foldl_descend_le place []
    rwa [List.length_nil, Nat.zero_add] at bound
  have whole : (Path.place place).descend name = place ++ [name] :=
    (Path.place_append place name).symm.trans normal
  have length : (place ++ [name]).length = place.length + 1 := by simp
  rcases descend_cases (Path.place place) name with same | down | back | ⟨rfl, root⟩
  · rw [← whole, same] at length
    omega
  · exact List.append_cancel_right (down.symm.trans whole)
  · rw [← whole, back, List.length_dropLast] at length
    omega
  · obtain rfl : place = [] := by simpa using (root.symm.trans whole).symm
    exact isNormal_nil

/-- **What is above a place that leads to itself leads to itself.** -/
theorem IsNormal.dropLast {place : Place} (normal : IsNormal place) : IsNormal place.dropLast := by
  rcases List.eq_nil_or_concat place with rfl | ⟨front, last, rfl⟩
  · exact isNormal_nil
  · rw [List.concat_eq_append] at normal ⊢
    rw [List.dropLast_concat]
    exact isNormal_of_append normal

theorem IsNormal.of_prefix {place front : Place} (normal : IsNormal place) (start : front <+: place) :
    IsNormal front := by
  obtain ⟨names, rfl⟩ := start
  induction names using List.reverseRecOn with
  | nil => rwa [List.append_nil] at normal
  | append_singleton names name found =>
    rw [← List.append_assoc] at normal
    exact found (isNormal_of_append normal)

theorem IsNormal.descend {place : Place} (normal : IsNormal place) (name : String) :
    IsNormal (place.descend name) := by
  rcases descend_cases place name with same | down | back | ⟨rfl, root⟩
  · rwa [same]
  · rw [down, IsNormal, Path.place_append, normal, down]
  · rw [back]
    exact normal.dropLast
  · rw [root]
    rfl

/-- **Where a path leads to is a place that leads to itself.** -/
theorem isNormal_place (path : Path) : IsNormal path.place := by
  have along : ∀ (names : List String) (start : Place), IsNormal start →
      IsNormal (names.foldl Place.descend start) := by
    intro names
    induction names with
    | nil => exact fun start normal => normal
    | cons name later found => exact fun start normal => found _ (normal.descend name)
  exact along path [] isNormal_nil

theorem IsNormal.append {place : Place} (normal : IsNormal place) {name : String}
    (plain : place.descend name = place ++ [name]) : IsNormal (place ++ [name]) := by
  rw [IsNormal, Path.place_append, normal, plain]

end Place

end HistoricalFigures
