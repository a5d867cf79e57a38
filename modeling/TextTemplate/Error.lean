/-
**Errors of templates.**
-/

import TextTemplate.Expr.Error
import TextTemplate.Tag.Scan

namespace TextTemplate

/-- A template that could not be read, and why. -/
structure LoadError where
  name : String
  reason : String
deriving DecidableEq, Repr

/-- The error of a template that is missing where it was looked for. -/
def LoadError.notFound (name shown : String) : LoadError :=
  ⟨name, "No file found: " ++ shown⟩

/-- Why there is no output. -/
inductive TemplateError where
  /-- The delimiters of tags do not match. -/
  | malformed (error : ScanError)
  | load (error : LoadError)
  /-- A template extends itself by way of others. -/
  | extendsCycle (chain : List String)
  /-- An expression has no value. -/
  | eval (expression : Text) (error : EvalError)
  /-- Loops are nested beyond the depth allowed. -/
  | tooDeep
  /-- A file or directory could not be read or written. -/
  | files (path : String)
  /-- No directory to write to was given. -/
  | noOutputDirectory
deriving DecidableEq, Repr

/-- The wording of an error. -/
def TemplateError.message : TemplateError → String
  | .malformed error => error.message
  | .load error => s!"Failed to load template '{error.name}': {error.reason}"
  | .extendsCycle chain => "extends cycle detected: " ++ " -> ".intercalate chain
  | .eval expression error =>
    "Failed to evaluate `" ++ String.ofList expression ++ "`: " ++ error.message
  | .tooDeep => "loops are nested too deeply"
  | .files path => s!"I/O error at {path}"
  | .noOutputDirectory => "Invalid output directory: output directory is required"

end TextTemplate
