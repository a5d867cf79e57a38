/-
**JSON documents.**

A document as it is written: the members of an object in their order, repeated names included. A
number without fraction and exponent is an integer if it lies between the least signed and the
greatest unsigned word; every other number is a float.

* `quote` writes a text between double quotes with the escapes that JSON asks for.
-/

import TextTemplate.Text.Basic

namespace TextTemplate

/-- A JSON document. -/
inductive Json where
  | null
  | bool (b : Bool)
  | int (n : Int)
  | float (x : Float)
  | string (s : String)
  | array (items : List Json)
  | object (members : List (String × Json))
deriving Inhabited

namespace Json

/-- A hexadecimal digit. -/
def hexDigit (n : Nat) : Char :=
  if n < 10 then Char.ofNat (48 + n) else Char.ofNat (87 + n)

/-- The form of one character between double quotes: control characters, the quote and the backslash
are escaped. -/
def quoteChar (c : Char) : Text :=
  if c = '"' then ['\\', '"']
  else if c = '\\' then ['\\', '\\']
  else if 32 ≤ c.toNat then [c]
  else if c = '\n' then ['\\', 'n']
  else if c = '\t' then ['\\', 't']
  else if c = '\r' then ['\\', 'r']
  else if c = '\x08' then ['\\', 'b']
  else if c = '\x0c' then ['\\', 'f']
  else ['\\', 'u', '0', '0', hexDigit (c.toNat / 16), hexDigit (c.toNat % 16)]

/-- A text between double quotes. -/
def quote (text : Text) : Text :=
  '"' :: text.flatMap quoteChar ++ ['"']

/-- The member of an object with a name, the last one if the name is repeated. -/
def member? (name : String) : Json → Option Json
  | .object members => (members.reverse.find? fun (other, _) => other == name).map Prod.snd
  | _ => none

end Json
end TextTemplate
