/-
**Branches.**

An `if` statement, the `elif` and `else` statements that belong to it and its `endif` divide a text
into branches. The group is replaced by the first branch whose guard holds, in which the groups
inside are replaced in the same way.

* `groupBranches` lists the groups of a text in the order in which they are closed; statements that
  belong to no group are passed over;
* `Rendering.chooseBranches` replaces the outermost groups; `Rendering.branchEdits` are the edits of
  one level of nesting.
-/

import TextTemplate.Rendering.Condition

namespace TextTemplate

/-- What must hold for a branch to be taken. -/
inductive Guard where
  | always
  /-- A condition that is missing does not hold. -/
  | never
  | holds (condition : Text)
deriving DecidableEq, Repr

/-- The guard of an `if` or `elif` statement. -/
def Guard.ofArgument (argument : Text) : Guard :=
  if argument.isEmpty then .never else .holds argument

/-- A branch: its guard and its text. -/
structure Branch where
  guard : Guard
  body : Span
deriving DecidableEq, Repr

/-- A group of branches. -/
structure BranchGroup where
  span : Span
  branches : List Branch
deriving DecidableEq, Repr

/-- A group that is not closed yet: where it starts, the finished branches, the latest first, and
the guard and the start of the current one. -/
structure OpenGroup where
  start : Nat
  finished : List Branch
  guard : Guard
  bodyStart : Nat

namespace OpenGroup

/-- The branches with the current one ended before a tag, the latest first. -/
def endBranch (group : OpenGroup) (tag : Tag) : List Branch :=
  ⟨group.guard, ⟨group.bodyStart, tag.start.offset⟩⟩ :: group.finished

/-- The group that a tag opens. -/
def ofTag (tag : Tag) (guard : Guard) : OpenGroup :=
  ⟨tag.start.offset, [], guard, tag.stop.offset⟩

/-- The group behind a tag that begins another branch. -/
def next (group : OpenGroup) (tag : Tag) (guard : Guard) : OpenGroup :=
  ⟨group.start, group.endBranch tag, guard, tag.stop.offset⟩

/-- The group closed by a tag. -/
def close (group : OpenGroup) (tag : Tag) : BranchGroup :=
  ⟨⟨group.start, tag.stop.offset⟩, (group.endBranch tag).reverse⟩

end OpenGroup

/-- The groups of a list of tags, with the groups given that are open already, the innermost first.
-/
def groupBranches (opened : List OpenGroup) : List Tag → List BranchGroup
  | [] => []
  | tag :: tags =>
    match tag.directive?, opened with
    | some ("if", argument), opened =>
      groupBranches (.ofTag tag (.ofArgument argument) :: opened) tags
    | some ("elif", argument), group :: opened =>
      groupBranches (group.next tag (.ofArgument argument) :: opened) tags
    | some ("else", _), group :: opened => groupBranches (group.next tag .always :: opened) tags
    | some ("endif", _), group :: opened => group.close tag :: groupBranches opened tags
    | _, opened => groupBranches opened tags

namespace Rendering

/-- Whether a branch is taken. -/
def takes (renderer : Renderer) : Guard → Rendering Bool
  | .always => return true
  | .never => return false
  | .holds condition => holds renderer (Condition.ofText condition)

/-- The text of the first branch that is taken, nothing if there is none. -/
def chosenText (renderer : Renderer) (text : Text) : List Branch → Rendering Text
  | [] => return []
  | branch :: branches => do
    if ← takes renderer branch.guard then return branch.body.of text
    else chosenText renderer text branches

/-- The outermost groups of a list of tags. -/
def outermostGroups (tags : List Tag) : List BranchGroup :=
  outermost BranchGroup.span (groupBranches [] tags)

/-- The edits that replace the outermost groups of a text by their chosen branches, in which `inner`
replaces the groups inside. -/
def branchEdits (renderer : Renderer) (inner : Text → Rendering Text) (text : Text) :
    Rendering (List Edit) := do
  let tags ← statementsOf text
  (outermostGroups tags).mapM fun group => do
    return Edit.mk group.span (← inner (← chosenText renderer text group.branches))

/-- Replaces the outermost groups of a text by their chosen branches; `depth` bounds the nesting. -/
def branchLoop (renderer : Renderer) : (depth : Nat) → Text → Rendering Text
  | 0, _ => throw .tooDeep
  | depth + 1, text => do
    return applyEdits text (← branchEdits renderer (branchLoop renderer depth) text)

/-- Replaces the groups of a text by their chosen branches. A branch is shorter than its group, so
the length of the text bounds the nesting. -/
def chooseBranches (renderer : Renderer) (text : Text) : Rendering Text :=
  branchLoop renderer (text.length + 1) text

end Rendering
end TextTemplate
