/-
**Stripping lines.**

A line that holds nothing but structural statements, with spaces and tabs around them, is removed
together with its line break.

* `isStructuralLine` recognises such a line;
* `stripLines` removes them from a text and keeps the other lines as they are.
-/

import TextTemplate.Keyword
import TextTemplate.Tag.Scan
import TextTemplate.Text.Search

namespace TextTemplate

/-- Whether a character is a space or a tab. -/
def isSpace (c : Char) : Bool :=
  c == ' ' || c == '\t'

/-- Whether a character ends a line. -/
def isLineEnd (c : Char) : Bool :=
  c == '\n' || c == '\r'

/-- Whether a tag is a structural statement. -/
def Tag.isStructural (extra : List String) (tag : Tag) : Bool :=
  match tag.directive? with
  | some (keyword, _) => TextTemplate.isStructural extra keyword
  | none => false

/-- Whether a text has only structural statements and spaces from an offset on. -/
def structuralFrom (extra : List String) (text : Text) (offset : Nat) : List Tag → Bool
  | [] => offset == text.byteSize
  | tag :: tags =>
    (text.slice offset tag.start.offset).all isSpace && tag.isStructural extra &&
      structuralFrom extra text tag.stop.offset tags

/-- Whether a line holds structural statements and nothing else. -/
def isStructuralLine (extra : List String) (line : Text) : Bool :=
  let line := line.stripWhile isSpace
  match scanStatements line with
  | .ok [] | .error _ => false
  | .ok tags => structuralFrom extra line 0 tags

/-- The text without its structural lines. -/
def stripLines (extra : List String) (text : Text) : Text :=
  (text.splitLines.filter fun line =>
    !isStructuralLine extra (line.dropRightWhile isLineEnd)).flatten

end TextTemplate
