/-
**Reading an expression from left to right.**

A cursor is the rest of an expression together with the position where it begins.

* `Cursor.take?` passes a fixed text, `Cursor.keyword?` a word that ends there, and
  `Cursor.symbol?` a sign that does not continue into a longer one;
* `SyntaxError` is what can be wrong with an expression, with the position.
-/

import TextTemplate.Expr.Basic
import TextTemplate.Position
import TextTemplate.Text.Search

namespace TextTemplate

/-- What is wrong with an expression. -/
inductive SyntaxFault where
  /-- Some other text than the expected one. -/
  | unexpected (expected found : Text)
  /-- The end of the expression before the expected text. -/
  | unexpectedEnd (expected : Text)
  /-- A character with which no operand begins. -/
  | invalidIdentifier (found : Char)
  /-- A name that is missing. -/
  | missing (description : String)
  /-- Text behind the end of the expression. -/
  | leftOver (rest : Text)
  /-- Nesting beyond the depth that the length of the expression allows for, which never happens. -/
  | tooDeep
deriving DecidableEq, Repr

/-- A fault and the position where it was noticed. -/
structure SyntaxError where
  position : Position
  fault : SyntaxFault
deriving DecidableEq, Repr

/-- The wording of a fault. -/
def SyntaxFault.message : SyntaxFault → String
  | .unexpected expected found =>
    s!"Expected '{String.ofList expected}', found '{String.ofList found}'"
  | .unexpectedEnd expected => s!"Unexpected EOF (expected '{String.ofList expected}')"
  | .invalidIdentifier found => s!"Invalid identifier starting with '{found}'"
  | .missing description => s!"Expected {description}"
  | .leftOver rest =>
    "Parser error: Parser did not consume entire input. " ++
      s!"Remaining: '{String.ofList rest}'"
  | .tooDeep => "Parser error: expression nested too deeply"

/-- The wording of an error, with the place. -/
def SyntaxError.message (error : SyntaxError) : String :=
  s!"Parse error at {error.position.describe}: {error.fault.message}"

/-- Whether a character may begin a name. -/
def beginsName (c : Char) : Bool :=
  c.isAlpha || c == '_' || c == '$'

/-- Whether a character may continue a name. -/
def continuesName (c : Char) : Bool :=
  c.isAlphanum || c == '_' || c == '$'

/-- The rest of an expression and its position. -/
structure Cursor where
  rest : Text
  position : Position

namespace Cursor

/-- The cursor at the beginning of a text. -/
def ofText (text : Text) : Cursor := ⟨text, Position.start⟩

/-- The cursor behind some text, which the rest must begin with. -/
def behind (here : Cursor) (passed rest : Text) : Cursor :=
  ⟨rest, here.position.after passed⟩

/-- An error at the cursor. -/
def fail (here : Cursor) (fault : SyntaxFault) : Except SyntaxError α :=
  .error ⟨here.position, fault⟩

/-- Passes the characters that satisfy `p` and returns them. -/
def takeWhile (p : Char → Bool) (here : Cursor) : Text × Cursor :=
  let passed := here.rest.takeWhile p
  (passed, here.behind passed (here.rest.dropWhile p))

/-- Passes blank characters. -/
def skipBlank (here : Cursor) : Cursor :=
  (here.takeWhile Text.isBlank).2

/-- Passes a fixed text. -/
def take? (text : Text) (here : Cursor) : Option Cursor :=
  (Text.dropPrefix? text here.rest).map (here.behind text)

/-- Whether the character at the cursor satisfies `p`. -/
def sees (p : Char → Bool) (here : Cursor) : Bool :=
  match here.rest with
  | c :: _ => p c
  | [] => false

/-- Passes a word that no character of a name continues. -/
def keyword? (word : Text) (here : Cursor) : Option Cursor :=
  match here.take? word with
  | some next => if next.sees continuesName then none else some next
  | none => none

/-- Passes a sign that the character `longer` does not follow. -/
def symbol? (sign : Text) (longer : Char) (here : Cursor) : Option Cursor :=
  match here.take? sign with
  | some next => if next.sees (· == longer) then none else some next
  | none => none

/-- Passes a text that must come next, after blank characters. -/
def expect (text : Text) (here : Cursor) : Except SyntaxError Cursor :=
  let here := here.skipBlank
  match here.take? text with
  | some next => .ok next
  | none =>
    if here.rest.isEmpty then here.fail (.unexpectedEnd text)
    else here.fail (.unexpected text (here.rest.take (text.length + 10)))

/-- Passes a name after blank characters. -/
def identifier (here : Cursor) : Except SyntaxError (String × Cursor) :=
  let here := here.skipBlank
  match here.rest with
  | [] => here.fail (.missing "identifier")
  | c :: _ =>
    if beginsName c then
      let (name, next) := here.takeWhile continuesName
      .ok (String.ofList name, next)
    else here.fail (.invalidIdentifier c)

end Cursor
end TextTemplate
