/-
**Conditions.**

The condition of an `if` or `elif` statement may be a negation, a conjunction or a disjunction of
expressions. The words for these count at the top level only, and each part is an expression of its
own.

* `Condition.ofText` takes a condition apart;
* `Rendering.holds` evaluates its parts from left to right, and no more of them than are needed.
-/

import TextTemplate.Rendering.Basic
import TextTemplate.Text.TopLevel

namespace TextTemplate

/-- A condition and its parts. -/
inductive Condition where
  | negation (part : Text)
  | conjunction (parts : List Text)
  | disjunction (parts : List Text)
  | single (expression : Text)
deriving DecidableEq, Repr

/-- What follows a leading `not`. -/
def negated? (text : Text) : Option Text :=
  match Text.dropPrefix? ['n', 'o', 't'] text with
  | some (c :: rest) => if Text.isBlank c then some (c :: rest) else none
  | some [] | none => none

/-- Takes a condition apart: a leading `not` belongs to all of the rest, and the text is divided at
`and` before it is divided at `or`. -/
def Condition.ofText (text : Text) : Condition :=
  let text := text.trim
  match negated? text with
  | some rest => .negation rest.trim
  | none =>
    match text.splitTopLevel (Text.wordSeparator ['a', 'n', 'd']) with
    | first :: second :: more => .conjunction ((first :: second :: more).map Text.trim)
    | _ =>
      match text.splitTopLevel (Text.wordSeparator ['o', 'r']) with
      | first :: second :: more => .disjunction ((first :: second :: more).map Text.trim)
      | _ => .single text

namespace Rendering

/-- Whether an expression is true. -/
def askTruth (renderer : Renderer) (expression : Text) : Rendering Bool := do
  return (← ask renderer expression).truthy

/-- Whether all of some expressions are true; it stops at the first one that is not. -/
def allHold (renderer : Renderer) : List Text → Rendering Bool
  | [] => return true
  | part :: parts => do
    if ← askTruth renderer part then allHold renderer parts else return false

/-- Whether any of some expressions is true; it stops at the first one that is. -/
def anyHolds (renderer : Renderer) : List Text → Rendering Bool
  | [] => return false
  | part :: parts => do
    if ← askTruth renderer part then return true else anyHolds renderer parts

/-- Whether a condition holds. -/
def holds (renderer : Renderer) : Condition → Rendering Bool
  | .negation part => do return !(← askTruth renderer part)
  | .conjunction parts => allHold renderer parts
  | .disjunction parts => anyHolds renderer parts
  | .single expression => askTruth renderer expression

end Rendering
end TextTemplate
