/-
**Separators outside of quotes and brackets.**

A separator counts only where it stands in no quoted text and inside of no brackets. In a quoted
text a backslash takes the character after it along; a closing bracket without an opening one is
passed over.

* `findTopLevel` cuts a text at its first separator, `splitTopLevel` at each of them.
-/

import TextTemplate.Text.Blank
import TextTemplate.Text.Search

namespace TextTemplate.Text

/-- A separator: given the character before, if there is one, and the text from here on, the rest
behind the separator that stands here. -/
abbrev Separator := Option Char → Text → Option Text

/-- How far a text is from its top level: the number of open brackets and the open quote. -/
structure Nesting where
  brackets : Nat
  quote : Option Char
deriving DecidableEq, Repr

/-- Whether a character opens a bracket. -/
def opensBracket (c : Char) : Bool :=
  c == '(' || c == '[' || c == '{'

/-- Whether a character closes a bracket. -/
def closesBracket (c : Char) : Bool :=
  c == ')' || c == ']' || c == '}'

/-- Whether a character opens a quoted text. -/
def opensQuote (c : Char) : Bool :=
  c == '"' || c == '\''

/-- The nesting behind a character that stands in no quoted text. -/
def Nesting.step (nesting : Nesting) (c : Char) : Nesting :=
  if opensQuote c then { nesting with quote := some c }
  else if opensBracket c then { nesting with brackets := nesting.brackets + 1 }
  else if closesBracket c then { nesting with brackets := nesting.brackets - 1 }
  else nesting

/-- Looks for the first separator; `before` is the part passed so far, reversed. -/
def findFrom (separator : Separator) (nesting : Nesting) (before : Text) :
    Text → Option (Text × Text)
  | [] => none
  | c :: text =>
    match nesting.quote with
    | some quote =>
      if c = '\\' then
        match text with
        | [] => none
        | d :: text => findFrom separator nesting (d :: c :: before) text
      else if c = quote then
        findFrom separator { nesting with quote := none } (c :: before) text
      else findFrom separator nesting (c :: before) text
    | none =>
      if opensQuote c || opensBracket c || closesBracket c || nesting.brackets != 0 then
        findFrom separator (nesting.step c) (c :: before) text
      else
        match separator before.head? (c :: text) with
        | some rest => some (before.reverse, rest)
        | none => findFrom separator nesting (c :: before) text

/-- The parts of a text before and behind its first separator at the top level. -/
def findTopLevel (separator : Separator) (text : Text) : Option (Text × Text) :=
  findFrom separator ⟨0, none⟩ [] text

/-- Cuts a text at its separators at the top level; `steps` bounds their number. -/
def splitLoop (separator : Separator) : (steps : Nat) → Text → List Text
  | 0, text => [text]
  | steps + 1, text =>
    match findTopLevel separator text with
    | some (part, rest) => part :: splitLoop separator steps rest
    | none => [text]

/-- The parts of a text between its separators at the top level. -/
def splitTopLevel (separator : Separator) (text : Text) : List Text :=
  splitLoop separator text.length text

/-- The separator that is a single character. -/
def charSeparator (separator : Char) : Separator
  | _, c :: rest => if c = separator then some rest else none
  | _, [] => none

/-- The separator that is a word between blank characters, which belong to it. -/
def wordSeparator (word : Text) : Separator := fun _ text =>
  match text with
  | [] => none
  | c :: _ =>
    if isBlank c then
      match dropPrefix? word text.trimStart with
      | some (d :: rest) => if isBlank d then some (Text.trimStart rest) else none
      | some [] | none => none
    else none

/-- The separator that is an equals sign, but no part of a comparison. -/
def assignmentSeparator : Separator
  | before, '=' :: rest =>
    let compares := match before with
      | some c => c == '=' || c == '!' || c == '<' || c == '>'
      | none => false
    if compares || rest.head? == some '=' then none else some rest
  | _, _ => none

end TextTemplate.Text
