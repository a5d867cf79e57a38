/-
**Assignments.**

A `set` statement holds assignments between commas. Each one binds a name to the value of an
expression in the scope that the ones before it left.

* `assignments` lists the well-formed assignments of a statement; the others are passed over;
* `runAssignments` carries out those of all statements of a text, in order.
-/

import TextTemplate.Rendering.Basic
import TextTemplate.Text.TopLevel
import TextTemplate.Text.WordChar

namespace TextTemplate

/-- An assignment of the value of an expression to a name. -/
structure Assignment where
  name : String
  expression : Text
deriving DecidableEq, Repr

/-- Whether a character may begin the name of a variable that a template binds. -/
def beginsVariable (c : Char) : Bool :=
  c.isAlpha || c == '_' || c == '$'

/-- Whether a character may continue the name of a variable that a template binds. -/
def continuesVariable (c : Char) : Bool :=
  Text.isWordChar c || c == '$'

/-- Whether a text is the name of a variable that a template may bind. -/
def isVariable : Text → Bool
  | [] => false
  | c :: rest => beginsVariable c && rest.all continuesVariable

/-- Reads an assignment: a name, an equals sign and an expression. -/
def Assignment.ofText? (text : Text) : Option Assignment :=
  match text.findTopLevel Text.assignmentSeparator with
  | some (name, expression) =>
    if isVariable name.trim && !expression.trim.isEmpty then
      some ⟨String.ofList name.trim, expression.trim⟩
    else none
  | none => none

/-- The assignments of a statement. -/
def assignments (argument : Text) : List Assignment :=
  (argument.splitTopLevel (Text.charSeparator ',')).filterMap Assignment.ofText?

/-- The assignments of a tag, none if it is no `set` statement. -/
def Tag.assignments (tag : Tag) : List Assignment :=
  match tag.directive? with
  | some ("set", argument) => TextTemplate.assignments argument
  | _ => []

namespace Rendering

/-- Carries out one assignment. -/
def assign (renderer : Renderer) (assignment : Assignment) : Rendering Unit := do
  let value ← ask renderer assignment.expression
  changeScope fun scope => scope.set assignment.name value

/-- Carries out the assignments of a text. -/
def runAssignments (renderer : Renderer) (text : Text) : Rendering Unit := do
  let tags ← statementsOf text
  (tags.flatMap Tag.assignments).forM (assign renderer)

end Rendering
end TextTemplate
