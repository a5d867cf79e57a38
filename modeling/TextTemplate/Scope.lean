/-
**Contexts and scopes.**

A context is the data given for one rendering, a scope the bindings that expressions see while it
runs. A scope begins as a copy of a context; `set` binds a name and answers what it was bound to
before, and `restore` takes that back.

* `get?_restore_set`: restoring what `set` answered brings back every look-up.
-/

import TextTemplate.Bindings
import TextTemplate.Value.Basic

namespace TextTemplate

/-- The data for one rendering. -/
structure Context where
  data : Bindings Value

namespace Context

/-- No data. -/
def empty : Context := ⟨[]⟩

/-- Binds names one after the other. -/
def ofList (pairs : List (String × Value)) : Context := ⟨Bindings.ofList pairs⟩

/-- The context with one more binding. -/
def insert (context : Context) (name : String) (value : Value) : Context :=
  ⟨Bindings.insert name value context.data⟩

/-- What a name is bound to. -/
def get? (context : Context) (name : String) : Option Value :=
  Bindings.find? name context.data

/-- The number of names. -/
def size (context : Context) : Nat :=
  context.data.length

end Context

/-- The bindings that expressions see. -/
structure Scope where
  bindings : Bindings Value

namespace Scope

/-- The scope of a context. -/
def ofContext (context : Context) : Scope := ⟨context.data⟩

/-- What a name is bound to. -/
def get? (scope : Scope) (name : String) : Option Value :=
  Bindings.find? name scope.bindings

/-- Whether a name is bound. -/
def contains (scope : Scope) (name : String) : Bool :=
  (scope.get? name).isSome

/-- The scope with a name bound to a value. -/
def set (scope : Scope) (name : String) (value : Value) : Scope :=
  ⟨Bindings.insert name value scope.bindings⟩

/-- The scope with a name unbound. -/
def remove (scope : Scope) (name : String) : Scope :=
  ⟨Bindings.erase name scope.bindings⟩

/-- Gives a name the binding it had before, or unbinds it if it had none. -/
def restore (scope : Scope) (name : String) (previous : Option Value) : Scope :=
  match previous with
  | some value => scope.set name value
  | none => scope.remove name

@[simp] theorem get?_set (scope : Scope) (name other : String) (value : Value) :
    (scope.set name value).get? other = if name = other then some value else scope.get? other :=
  Bindings.find?_insert name other value scope.bindings

@[simp] theorem get?_remove (scope : Scope) (name other : String) :
    (scope.remove name).get? other = if name = other then none else scope.get? other :=
  Bindings.find?_erase name other scope.bindings

/-- A restored name has the given binding and every other name keeps its own. -/
@[simp] theorem get?_restore (scope : Scope) (name other : String) (previous : Option Value) :
    (scope.restore name previous).get? other =
      if name = other then previous else scope.get? other := by
  cases previous <;> simp [restore]

/-- Restoring what a name was bound to before it was set brings back every look-up. -/
theorem get?_restore_set (scope : Scope) (name other : String) (value : Value) :
    ((scope.set name value).restore name (scope.get? name)).get? other = scope.get? other := by
  by_cases same : name = other <;> simp [same]

end Scope
end TextTemplate
