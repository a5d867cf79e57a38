/-
**Rendering a text.**

A text is rendered in four passes, each over the result of the one before: its assignments are
carried out, its loops are expanded, its branches are chosen, and every tag that is left is replaced
by the text of its value. One repetition of a loop renders the body in the same way and expands the
loops of the result once more.

* `Rendering.substitute` is the last pass, and `Rendering.outputEdits` are its edits;
* `Rendering.render` are all four, with loops nested to a given depth at most;
* `Rendering.renderText` chooses a depth that the loops of the text itself cannot exceed.
-/

import TextTemplate.Keyword
import TextTemplate.Rendering.Branch
import TextTemplate.Rendering.Loop

namespace TextTemplate

/-- Whether a tag has no output: an empty one, or a statement that is a directive. -/
def isSilent (renderer : Renderer) (tag : Tag) : Bool :=
  tag.inner.isEmpty ||
    match tag.directive? with
    | some (keyword, _) => isDirective renderer.keywords keyword
    | none => false

namespace Rendering

/-- The text that takes the place of a tag. -/
def outputOf (renderer : Renderer) (tag : Tag) : Rendering Text :=
  if isSilent renderer tag then return []
  else do return (← ask renderer tag.inner).text

/-- The edits that replace every tag of a text by its output. -/
def outputEdits (renderer : Renderer) (text : Text) : Rendering (List Edit) := do
  let tags ← tagsOf text
  tags.mapM fun tag => do
    return Edit.mk tag.span (← outputOf renderer tag)

/-- Replaces every tag of a text by its output. -/
def substitute (renderer : Renderer) (text : Text) : Rendering Text := do
  return applyEdits text (← outputEdits renderer text)

/-- The four passes, given what one repetition of a loop does. -/
def passes (renderer : Renderer) (repetition : Text → Rendering Text) (text : Text) :
    Rendering Text := do
  runAssignments renderer text
  let expanded ← expandLoops renderer repetition text
  let chosen ← chooseBranches renderer expanded
  substitute renderer chosen

/-- One repetition of the body of a loop, in which loops are nested to a given depth at most. -/
def repetition (renderer : Renderer) : (depth : Nat) → Text → Rendering Text
  | 0, _ => throw .tooDeep
  | depth + 1, body => do
    let rendered ← passes renderer (repetition renderer depth) body
    expandLoops renderer (repetition renderer depth) rendered

/-- Renders a text whose loops are nested to a given depth at most. -/
def render (renderer : Renderer) (depth : Nat) (text : Text) : Rendering Text :=
  passes renderer (repetition renderer depth) text

/-- How much deeper than the loops of a text the loops may be nested that the values of its
expressions contain. -/
def spareDepth : Nat := 10000

/-- Renders a text. A loop takes more than one character, so the loops that stand in the text itself
are nested less deeply than it is long. -/
def renderText (renderer : Renderer) (text : Text) : Rendering Text :=
  render renderer (text.length + spareDepth) text

end Rendering
end TextTemplate
