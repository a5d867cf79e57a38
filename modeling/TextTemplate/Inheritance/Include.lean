/-
**Includes.**

An `include` statement is replaced by the source of the template that it names, in which the
includes are replaced first. A name that is being included already is replaced by nothing, and so is
one that cannot be read; neither is an error.

* `resolveIncludes` replaces the includes of a text one after the other, scanning the text again
  each time.
-/

import TextTemplate.Inheritance.Reference
import TextTemplate.Loader

namespace TextTemplate

/-- Replaces the first include of a text until there is none left; `expansion` is what takes the
place of a name, and `rounds` bounds the number of replacements. -/
def replaceIncludes (expansion : String → Except ScanError Text) :
    (rounds : Nat) → Text → Except ScanError Text
  | 0, text => .ok text
  | rounds + 1, text => do
    match ← firstReference? "include" text with
    | none => .ok text
    | some (tag, name) => do
      let replacement ← expansion name
      replaceIncludes expansion rounds (applyEdits text [⟨tag.span, replacement⟩])

/-- What takes the place of a name: nothing if it is in `seen` or cannot be read, and else its source,
in which `nested` replaces the includes. -/
def expandName (loader : Loader) (nested : List String → Text → Except ScanError Text)
    (seen : List String) (name : String) : Except ScanError Text :=
  if seen.contains name then .ok []
  else
    match loader.read name with
    | .ok source => nested (name :: seen) source.toList
    | .error _ => .ok []

/-- Replaces the includes of a text. The names in `seen` are being included already; an include
nested deeper than `depth` is replaced by nothing. -/
def includesWithin (loader : Loader) : (depth : Nat) → (seen : List String) → Text →
    Except ScanError Text
  | 0, _, text => replaceIncludes (fun _ => .ok []) (text.length + 1) text
  | depth + 1, seen, text =>
    replaceIncludes (expandName loader (includesWithin loader depth) seen) (text.length + 1) text

/-- Replaces the includes of a text, the names in `seen` being included already. The bound of the
loader is never reached by names that are all different. -/
def resolveIncludes (loader : Loader) (seen : List String) (text : Text) : Except ScanError Text :=
  includesWithin loader loader.bound seen text

end TextTemplate
