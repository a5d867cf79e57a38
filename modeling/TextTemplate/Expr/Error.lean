/-
**Errors of an evaluation.**
-/

import TextTemplate.Expr.Cursor

namespace TextTemplate

/-- Why an expression has no value. -/
inductive EvalError where
  /-- The text is no expression. -/
  | malformed (error : SyntaxError)
  | unknownFilter (name : String)
  | unknownFunction (name : String)
  /-- Something that is no name was called. -/
  | notCallable (description : String)
  /-- A filter, function or test refused its arguments. -/
  | refused (name message : String)
  /-- An error in the words of a filter or function that was added. -/
  | custom (message : String)
deriving DecidableEq, Repr

/-- The wording of an error. -/
def EvalError.message : EvalError → String
  | .malformed error => error.message
  | .unknownFilter name => s!"unknown filter '{name}'"
  | .unknownFunction name => s!"unknown function '{name}'"
  | .notCallable description => s!"'{description}' is not callable"
  | .refused name message => s!"filter '{name}' failed: {message}"
  | .custom message => message

end TextTemplate
