/-
**Enclosures.**

Tags that open and tags that close match like brackets: a closing tag belongs to the last opening
one that is still open. What does not match is passed over.

* `pairTags` lists the matched pairs in the order in which they are closed.
-/

import TextTemplate.Tag

namespace TextTemplate

/-- What a tag does to an enclosure of some kind: it opens one with some information, closes one, or
has nothing to do with it. -/
inductive Role (α : Type u) where
  | opens (info : α)
  | closes
  | neither
deriving DecidableEq

/-- A matched pair of tags. -/
structure Enclosure (α : Type u) where
  info : α
  opening : Tag
  closing : Tag
deriving DecidableEq

namespace Enclosure

/-- The span from the opening tag to the closing one, both included. -/
def span (enclosure : Enclosure α) : Span :=
  ⟨enclosure.opening.start.offset, enclosure.closing.stop.offset⟩

/-- The span between the two tags. -/
def body (enclosure : Enclosure α) : Span :=
  ⟨enclosure.opening.stop.offset, enclosure.closing.start.offset⟩

end Enclosure

/-- The enclosures of a list of tags, with the opening tags given that are open already, the last
one first. -/
def pairTags (role : Tag → Role α) (opened : List (α × Tag)) : List Tag → List (Enclosure α)
  | [] => []
  | tag :: tags =>
    match role tag, opened with
    | .opens info, opened => pairTags role ((info, tag) :: opened) tags
    | .closes, (info, opening) :: opened =>
      ⟨info, opening, tag⟩ :: pairTags role opened tags
    | .closes, [] => pairTags role [] tags
    | .neither, opened => pairTags role opened tags

end TextTemplate
