/-!
Finite maps from names, kept in the order in which the names were first put.

* `Assoc.put`: a name that is already there keeps its place and takes the new value.
* `Assoc.ofList`: the map that pairs put one after the other.
* `Assoc.get?_put_self`, `Assoc.get?_put_of_ne`, `Assoc.names_put`: what a map holds after a name was
  put.
-/
namespace HistoricalFigures

/-- Pairs of a name and its value, in order of first appearance. -/
abbrev Assoc (α : Type) := List (String × α)

namespace Assoc

variable {α : Type}

/-- The map with `name` bound to `value`. -/
def put (name : String) (value : α) : Assoc α → Assoc α
  | [] => [(name, value)]
  | (key, old) :: rest =>
    if key = name then (key, value) :: rest else (key, old) :: put name value rest

/-- The map after putting the pairs one after the other. -/
def putAll (map : Assoc α) (pairs : List (String × α)) : Assoc α :=
  pairs.foldl (fun done pair => put pair.1 pair.2 done) map

/-- The map that the pairs make. -/
def ofList (pairs : List (String × α)) : Assoc α := putAll [] pairs

/-- The value of a name. -/
def get? (map : Assoc α) (name : String) : Option α := List.lookup name map

/-- The names, in order of first appearance. -/
def names (map : Assoc α) : List String := map.map Prod.fst

/-- The value that was put. -/
theorem get?_put_self (map : Assoc α) (name : String) (value : α) :
    get? (put name value map) name = some value := by
  induction map with
  | nil => simp [put, get?]
  | cons entry rest found =>
    obtain ⟨key, old⟩ := entry
    by_cases same : key = name
    · simp [put, get?, same]
    · have other : (name == key) = false := beq_false_of_ne (Ne.symm same)
      simpa [put, get?, same, List.lookup_cons, other] using found

/-- The values of other names stay. -/
theorem get?_put_of_ne (map : Assoc α) {name other : String} (value : α) (different : other ≠ name) :
    get? (put name value map) other = get? map other := by
  induction map with
  | nil => simp [put, get?, List.lookup_cons, beq_false_of_ne different]
  | cons entry rest found =>
    obtain ⟨key, old⟩ := entry
    by_cases same : key = name
    · subst same
      simp [put, get?, List.lookup_cons, beq_false_of_ne different]
    · by_cases here : other = key
      · simp [put, get?, same, here]
      · simpa [put, get?, same, List.lookup_cons, beq_false_of_ne here] using found

/-- The names of a map, the first entry apart. -/
theorem names_cons (entry : String × α) (map : Assoc α) :
    names (entry :: map) = entry.1 :: names map := rfl

/-- A name that is new stands last; all others keep their places. -/
theorem names_put (map : Assoc α) (name : String) (value : α) :
    names (put name value map) =
      if name ∈ names map then names map else names map ++ [name] := by
  induction map with
  | nil => rfl
  | cons entry rest found =>
    obtain ⟨key, old⟩ := entry
    by_cases same : key = name
    · rw [put, if_pos same, names_cons, names_cons, if_pos (by simp [same])]
    · have later : name ≠ key := Ne.symm same
      rw [put, if_neg same, names_cons, names_cons, found]
      by_cases known : name ∈ names rest
      · rw [if_pos known, if_pos (List.mem_cons_of_mem key known)]
      · rw [if_neg known, if_neg (by simp [later, known]), List.cons_append]

end Assoc

end HistoricalFigures
