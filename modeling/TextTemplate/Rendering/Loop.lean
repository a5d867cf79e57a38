/-
**Loops.**

A `for` statement and its `endfor` enclose the body of a loop, which is repeated for each item of a
value. The variable of the loop and the name `loop` are bound for each item, and get back the
bindings that they had before, whether the loop succeeds or fails.

* `Loop.ofArgument?` reads the head of a loop; a malformed head opens no loop;
* `Rendering.expandLoops` replaces the outermost loops of a text, given what one repetition does;
  `Rendering.loopEdits` are its edits.
-/

import TextTemplate.Rendering.Assignment
import TextTemplate.Tag.Enclosure

namespace TextTemplate

/-- The head of a loop: its variable and the expression that it runs over. -/
structure LoopHead where
  name : String
  iterable : Text
deriving DecidableEq, Repr

/-- Passes at least one blank character, and all that follow it. -/
def passBlank? : Text → Option Text
  | [] => none
  | c :: text => if Text.isBlank c then some (Text.trimStart text) else none

/-- Reads the head of a loop: a variable, `in` and an expression, with blanks between them. -/
def LoopHead.ofArgument? : Text → Option LoopHead
  | [] => none
  | c :: text => do
    guard (beginsVariable c)
    let rest ← passBlank? (text.dropWhile continuesVariable)
    let rest ← Text.dropPrefix? ['i', 'n'] rest
    let rest ← passBlank? rest
    guard !rest.isEmpty
    return ⟨String.ofList (c :: text.takeWhile continuesVariable), Text.trim rest⟩

/-- What a tag does to a loop. -/
def loopRole (tag : Tag) : Role LoopHead :=
  match tag.directive? with
  | some ("for", argument) =>
    match LoopHead.ofArgument? argument with
    | some head => .opens head
    | none => .neither
  | some ("endfor", _) => .closes
  | _ => .neither

/-- The name that tells a loop's body how far the loop is. -/
def loopName : String := "loop"

/-- What `loop` is bound to: the numbers of the items done and still to do, counted from one and
from zero, and whether the item is the first or the last one. -/
def loopInfo (index length : Nat) : Value :=
  .map [("index", .ofNat (index + 1)), ("index0", .ofNat index),
    ("revindex", .ofNat (length - index)), ("revindex0", .ofNat (length - index - 1)),
    ("first", .bool (index == 0)), ("last", .bool (index + 1 == length)), ("length", .ofNat length)]

namespace Rendering

/-- Binds the names of a loop for one item. -/
def enterItem (name : String) (index length : Nat) (item : Value) : Rendering Unit :=
  changeScope fun scope => (scope.set loopName (loopInfo index length)).set name item

/-- Repeats the body of a loop for each of the items from `index` on; `done` holds the texts so far,
the latest first. -/
def repeatBody (repetition : Rendering Text) (name : String) (length : Nat) :
    (index : Nat) → (done : List Text) → List Value → Rendering Text
  | _, done, [] => return done.reverse.flatten
  | index, done, item :: items => do
    enterItem name index length item
    let text ← repetition
    repeatBody repetition name length (index + 1) (text :: done) items

/-- Carries out a loop, and then gives its names their bindings back. -/
def runLoop (renderer : Renderer) (repetition : Rendering Text) (head : LoopHead) :
    Rendering Text := do
  let items := (← ask renderer head.iterable).items
  let before ← scope
  let outcome ← attempt (repeatBody repetition head.name items.length 0 [] items)
  changeScope fun scope =>
    (scope.restore loopName (before.get? loopName)).restore head.name (before.get? head.name)
  settle outcome

/-- The outermost loops of a list of tags. -/
def outermostLoops (tags : List Tag) : List (Enclosure LoopHead) :=
  outermost Enclosure.span (pairTags loopRole [] tags)

/-- The edits that replace the outermost loops of a text; `repetition` renders the text of a body
once. -/
def loopEdits (renderer : Renderer) (repetition : Text → Rendering Text) (text : Text) :
    Rendering (List Edit) := do
  let tags ← statementsOf text
  (outermostLoops tags).mapM fun loop => do
    return Edit.mk loop.span (← runLoop renderer (repetition (loop.body.of text)) loop.info)

/-- Replaces the outermost loops of a text. -/
def expandLoops (renderer : Renderer) (repetition : Text → Rendering Text) (text : Text) :
    Rendering Text := do
  return applyEdits text (← loopEdits renderer repetition text)

end Rendering
end TextTemplate
