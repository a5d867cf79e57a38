/-
**References to other templates.**

An `include` or `extends` statement names a template between quotes. The name is not empty and has
no quotes in it; a statement with any other argument refers to nothing.

* `quotedName?` reads the name;
* `firstReference?` is the first statement of a keyword that refers to a template.
-/

import TextTemplate.Tag.Scan

namespace TextTemplate

/-- Whether a character is a quote. -/
def isQuote (c : Char) : Bool :=
  c == '"' || c == '\''

/-- The name between two equal quotes that make up a whole argument. -/
def quotedName? : Text → Option String
  | [] => none
  | quote :: rest =>
    match rest.reverse with
    | [] => none
    | last :: name =>
      if isQuote quote && last == quote && !name.isEmpty && !name.any isQuote then
        some (String.ofList name.reverse)
      else none

/-- The template that a tag refers to, if it is a statement of the keyword. -/
def Tag.reference? (keyword : String) (tag : Tag) : Option String :=
  match tag.directive? with
  | some (word, argument) => if word = keyword then quotedName? argument else none
  | none => none

/-- The first tag of a text that refers to a template by the keyword, with the name of the template.
-/
def firstReference? (keyword : String) (text : Text) :
    Except ScanError (Option (Tag × String)) := do
  let tags ← scan text
  return tags.findSome? fun tag => (tag.reference? keyword).map (tag, ·)

end TextTemplate
