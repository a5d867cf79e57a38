/-
**Tags.**

A tag is a piece of a template between delimiters: an expression between two pairs of braces, or a
statement between braces with percent signs inside. A statement starts with a keyword, and the rest
of it is the keyword's argument.

* `opens?` and `closes?` recognise the delimiters, which have two characters each;
* `splitKeyword?` divides the inside of a statement into keyword and argument;
* `Tag.directive?` does so for a statement tag and has no answer for an expression tag.
-/

import TextTemplate.Position
import TextTemplate.Span
import TextTemplate.Text.Blank

namespace TextTemplate

/-- What stands inside of a tag. -/
inductive TagKind where
  | expression
  | statement
deriving DecidableEq, Repr

/-- The delimiter that begins a tag. -/
def TagKind.opener : TagKind → Text
  | .expression => ['{', '{']
  | .statement => ['{', '%']

/-- The delimiter that ends a tag. -/
def TagKind.closer : TagKind → Text
  | .expression => ['}', '}']
  | .statement => ['%', '}']

/-- The kind of tag that two characters begin. -/
def opens? (c d : Char) : Option TagKind :=
  if c = '{' then
    if d = '{' then some .expression else if d = '%' then some .statement else none
  else none

/-- The kind of tag that two characters end. -/
def closes? (c d : Char) : Option TagKind :=
  if d = '}' then
    if c = '}' then some .expression else if c = '%' then some .statement else none
  else none

/-- A tag of a template: where it begins, where it ends and what stands between its delimiters. -/
structure Tag where
  kind : TagKind
  start : Position
  stop : Position
  body : Text
deriving DecidableEq, Repr

/-- Whether a character may begin a keyword. -/
def beginsKeyword (c : Char) : Bool :=
  c.isAlpha || c == '_'

/-- Whether a character may continue a keyword. -/
def continuesKeyword (c : Char) : Bool :=
  c.isAlphanum || c == '_'

/-- Divides the inside of a statement into its keyword and the argument after it, both without blank
characters around them; `none` if it does not begin with a keyword. -/
def splitKeyword? (inside : Text) : Option (String × Text) :=
  match inside.trim with
  | [] => none
  | c :: rest =>
    if beginsKeyword c then
      some (String.ofList (c :: rest.takeWhile continuesKeyword),
        Text.trim (rest.dropWhile continuesKeyword))
    else none

namespace Tag

/-- The bytes of a tag, delimiters included. -/
def span (tag : Tag) : Span := ⟨tag.start.offset, tag.stop.offset⟩

/-- The characters of a tag, delimiters included. -/
def text (tag : Tag) : Text := tag.kind.opener ++ tag.body ++ tag.kind.closer

/-- What stands between the delimiters, without blank characters around it. -/
def inner (tag : Tag) : Text := tag.body.trim

/-- The keyword and the argument of a statement tag. -/
def directive? (tag : Tag) : Option (String × Text) :=
  match tag.kind with
  | .statement => splitKeyword? tag.inner
  | .expression => none

end Tag
end TextTemplate
