/-
**Loaders.**

A loader finds the source of a template by its name. Its bound is a number that no chain of
templates exceeds in which each one names the next, all of them can be read and no name is repeated:
this is what keeps the resolution of names finite.

* `Loader.ofTemplates` serves templates from a list.
-/

import TextTemplate.Bindings
import TextTemplate.Error

namespace TextTemplate

/-- What finds templates by name. -/
structure Loader where
  /-- The name of the kind of loader. -/
  kind : String
  /-- The source of a template. -/
  read : String → Except LoadError String
  /-- More than the length of any chain of different names that can be read. -/
  bound : Nat

namespace Loader

/-- The loader of a list of templates. -/
def ofTemplates (templates : Bindings String) : Loader where
  kind := "memory"
  read name :=
    match Bindings.find? name templates with
    | some source => .ok source
    | none => .error (.notFound name name)
  bound := templates.length + 1

end Loader
end TextTemplate
