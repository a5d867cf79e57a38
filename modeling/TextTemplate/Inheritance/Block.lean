/-
**Blocks.**

A `block` statement with a name and the `endblock` that matches it enclose the body of the block. Of
several blocks with one name the last one closed counts, at the place of the first one.

* `blocksOf` are the blocks of a text by name;
* `mergeEdits` and `mergeBlocks` put the bodies of a child into the blocks of its parent, where
  `super()` between braces stands for the body that is replaced.
-/

import TextTemplate.Bindings
import TextTemplate.Tag.Enclosure
import TextTemplate.Tag.Scan
import TextTemplate.Text.Search

namespace TextTemplate

/-- A block: the name and the two tags. -/
abbrev Block := Enclosure String

/-- What a tag does to a block. A block without a name opens nothing. -/
def blockRole (tag : Tag) : Role String :=
  match tag.directive? with
  | some ("block", argument) =>
    match argument.words with
    | name :: _ => .opens (String.ofList name)
    | [] => .neither
  | some ("endblock", _) => .closes
  | _ => .neither

/-- The blocks of a text by name. -/
def blocksOf (text : Text) : Except ScanError (Bindings Block) := do
  let tags ← scan text
  return Bindings.ofList ((pairTags blockRole [] tags).map fun block => (block.info, block))

/-- Passes blank characters and then a fixed text. -/
def passBlankThen? (part text : Text) : Option Text :=
  Text.dropPrefix? part text.trimStart

/-- Matches `super()` between a pair of double braces, with blanks inside the braces. -/
def superMatcher : Text.Matcher := fun text =>
  let rest? := do
    let rest ← Text.dropPrefix? ['{', '{'] text
    let rest ← passBlankThen? ['s', 'u', 'p', 'e', 'r', '(', ')'] rest
    passBlankThen? ['}', '}'] rest
  rest?.map fun rest => (text.take (text.length - rest.length), rest)

/-- The body of a child's block, with the body that it replaces in the place of each `super()`. -/
def overrideBody (replaced body : Text) : Text :=
  body.replaceMatches superMatcher fun _ => replaced

/-- The edit that overrides a block of the parent, if the child has a block of that name. -/
def overrideBlock? (parent child : Text) (blocks : Bindings Block) (block : Block) : Option Edit :=
  (Bindings.find? block.info blocks).map fun override =>
    ⟨block.body, overrideBody (block.body.of parent) (override.body.of child)⟩

/-- The edits that put the bodies of the child's blocks into the parent's blocks of the same names.
An overridden block takes those inside of it along. -/
def mergeEdits (parent child : Text) : Except ScanError (List Edit) := do
  let parentBlocks ← blocksOf parent
  let childBlocks ← blocksOf child
  return outermost Edit.span
    (parentBlocks.filterMap fun (_, block) => overrideBlock? parent child childBlocks block)

/-- The parent with the bodies of the child's blocks in its own blocks of the same names; nothing
else of the child is kept. -/
def mergeBlocks (parent child : Text) : Except ScanError Text := do
  return applyEdits parent (← mergeEdits parent child)

end TextTemplate
