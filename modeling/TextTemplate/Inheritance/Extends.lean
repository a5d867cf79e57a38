/-
**Extending templates.**

The first `extends` statement of a template names its parent. The template's blocks are merged into
the parent, and the result may extend a further template.

* `resolve` resolves the includes of a template and then all that it extends; a name that is met
  again is an error.
-/

import TextTemplate.Inheritance.Block
import TextTemplate.Inheritance.Include

namespace TextTemplate

/-- A scan with its failure as an error of the template. -/
def scanned (outcome : Except ScanError α) : Except TemplateError α :=
  outcome.mapError .malformed

/-- The source of a template with its includes resolved. -/
def readParent (loader : Loader) (name : String) : Except TemplateError Text := do
  let source ← (loader.read name).mapError .load
  scanned (resolveIncludes loader [name] source.toList)

/-- Merges a text into its parents until it extends nothing. The chain holds the names met so far,
and `rounds` bounds the number of parents. -/
def resolveParents (loader : Loader) : (rounds : Nat) → (chain : List String) → Text →
    Except TemplateError Text
  | 0, _, text => .ok text
  | rounds + 1, chain, text => do
    match ← scanned (firstReference? "extends" text) with
    | none => .ok text
    | some (_, name) =>
      if chain.contains name then .error (.extendsCycle (chain ++ [name]))
      else do
        let parent ← readParent loader name
        let merged ← scanned (mergeBlocks parent text)
        resolveParents loader rounds (chain ++ [name]) merged

/-- Resolves the includes of a template and then the templates that it extends. The bound of the
loader is never reached by names that are all different. -/
def resolve (loader : Loader) (name : String) (source : Text) : Except TemplateError Text := do
  let text ← scanned (resolveIncludes loader [name] source)
  resolveParents loader (loader.bound + 1) [name] text

end TextTemplate
