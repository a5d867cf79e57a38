/-
**Bindings in the order of their first appearance.**

A list of names with what they are bound to. A name that is bound again keeps its place.

* `find?_eq_some_of_mem`: a binding that is listed is found, where no name is bound twice;
* `find?_insert`: after an insertion the name has the new binding and every other name the old one;
* `find?_erase`: after an erasure the name is unbound and every other name as before.
-/

namespace TextTemplate

/-- Names with what they are bound to, in order. -/
abbrev Bindings (α : Type u) := List (String × α)

namespace Bindings

variable {α : Type u}

/-- What a name is bound to. -/
def find? (name : String) : Bindings α → Option α
  | [] => none
  | (other, value) :: rest => if other = name then some value else find? name rest

/-- Whether a name is bound. -/
def contains (name : String) (bindings : Bindings α) : Bool :=
  (find? name bindings).isSome

/-- Binds a name: in its place if it is bound already, at the end otherwise. -/
def insert (name : String) (value : α) : Bindings α → Bindings α
  | [] => [(name, value)]
  | (other, old) :: rest =>
    if other = name then (name, value) :: rest else (other, old) :: insert name value rest

/-- Unbinds a name; the others keep their order. -/
def erase (name : String) : Bindings α → Bindings α
  | [] => []
  | (other, value) :: rest =>
    if other = name then erase name rest else (other, value) :: erase name rest

/-- Binds the names of a list one after the other. -/
def ofList (pairs : List (String × α)) : Bindings α :=
  pairs.foldl (fun bindings (name, value) => insert name value bindings) []

@[simp] theorem find?_nil (name : String) : find? name ([] : Bindings α) = none := rfl

/-- Where no name is bound twice, each name has the binding that is listed for it. -/
theorem find?_eq_some_of_mem {bindings : Bindings α} {name : String} {value : α}
    (distinct : (bindings.map Prod.fst).Nodup) (member : (name, value) ∈ bindings) :
    find? name bindings = some value := by
  induction bindings with
  | nil => exact absurd member List.not_mem_nil
  | cons entry rest ih =>
    obtain ⟨other, old⟩ := entry
    obtain ⟨new, distinct⟩ := List.nodup_cons.mp distinct
    rw [find?]
    rcases List.mem_cons.mp member with same | later
    · cases same
      exact if_pos rfl
    · rw [if_neg, ih distinct later]
      rintro rfl
      exact new (List.mem_map.mpr ⟨_, later, rfl⟩)

/-- The bindings after an insertion. -/
theorem find?_insert (name other : String) (value : α) (bindings : Bindings α) :
    find? other (insert name value bindings) =
      if name = other then some value else find? other bindings := by
  induction bindings with
  | nil => simp [insert, find?]
  | cons entry rest ih =>
    obtain ⟨first, old⟩ := entry
    by_cases same : first = name
    · subst same
      by_cases asked : first = other <;> simp [insert, find?, asked]
    · by_cases asked : first = other
      · subst asked
        simp [insert, find?, same, Ne.symm same]
      · simp [insert, find?, same, asked, ih]

/-- The bindings after an erasure. -/
theorem find?_erase (name other : String) (bindings : Bindings α) :
    find? other (erase name bindings) = if name = other then none else find? other bindings := by
  induction bindings with
  | nil => simp [erase]
  | cons entry rest ih =>
    obtain ⟨first, old⟩ := entry
    by_cases same : first = name
    · subst same
      by_cases asked : first = other
      · subst asked
        simpa [erase] using ih
      · simp [erase, find?, ih, asked]
    · by_cases asked : first = other
      · subst asked
        simp [erase, find?, same, Ne.symm same]
      · simp [erase, find?, same, asked, ih]

end Bindings
end TextTemplate
