/-
**Renderings.**

A rendering computes a text while it reads and changes the bindings of a scope. It keeps the scope
also when it fails, and remembers the expressions that it had evaluated.

* `Rendering.ask` evaluates an expression;
* `Rendering.attempt` turns the failure of a rendering into a value;
* `Rendering.run` starts a rendering in a scope.
-/

import TextTemplate.Error
import TextTemplate.Expr.Eval

namespace TextTemplate

/-- What a rendering does not change: what answers for expressions, and the keywords of further
directives. -/
structure Renderer where
  evaluator : Evaluator
  keywords : List String

/-- What a rendering changes: the scope, and the expressions evaluated so far, the latest first. -/
structure RenderState where
  scope : Scope
  asked : List Text

/-- A computation that may fail and keeps its state. -/
abbrev Rendering := ExceptT TemplateError (StateM RenderState)

namespace Rendering

/-- Carries out a rendering. -/
def run (rendering : Rendering α) (scope : Scope) : Except TemplateError α × RenderState :=
  (ExceptT.run rendering).run ⟨scope, []⟩

/-- The current scope. -/
def scope : Rendering Scope := do
  return (← get).scope

/-- Changes the scope. -/
def changeScope (change : Scope → Scope) : Rendering Unit :=
  modify fun state => { state with scope := change state.scope }

/-- The value of an expression in the current scope. -/
def ask (renderer : Renderer) (expression : Text) : Rendering Value := do
  modify fun state => { state with asked := expression :: state.asked }
  match renderer.evaluator expression (← scope) with
  | .ok value => return value
  | .error error => throw (.eval expression error)

/-- The tags of a text. -/
def tagsOf (text : Text) : Rendering (List Tag) :=
  match scan text with
  | .ok tags => return tags
  | .error error => throw (.malformed error)

/-- The statement tags of a text. -/
def statementsOf (text : Text) : Rendering (List Tag) := do
  return (← tagsOf text).filter fun tag => tag.kind = .statement

/-- The outcome of a rendering as a value. -/
def attempt (rendering : Rendering α) : Rendering (Except TemplateError α) :=
  ExceptT.lift (ExceptT.run rendering)

/-- The value of an outcome, or its failure. -/
def settle (outcome : Except TemplateError α) : Rendering α :=
  match outcome with
  | .ok value => return value
  | .error error => throw error

end Rendering
end TextTemplate
