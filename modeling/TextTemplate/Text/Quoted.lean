/-
**Quoted texts.**

A quoted text stands between double quotes. A tab, a line break, a carriage return and a NUL have
short escapes, a backslash and a double quote are preceded by a backslash, and a character that is
not visible on its own is written by its code point in braces. A single quote stands for itself.

* `quotedChar` is the form of one character inside the quotes;
* `quoted` is the form of a text.
-/

import TextTemplate.Text.Basic
import TextTemplate.Text.Printable

namespace TextTemplate.Text

/-- The lower-case hexadecimal digits of a number, without leading zeros. -/
def hexDigits (n : Nat) : Text :=
  Nat.toDigits 16 n

/-- The form of one character inside quotes. -/
def quotedChar (c : Char) : Text :=
  match c with
  | '\x00' => ['\\', '0']
  | '\t' => ['\\', 't']
  | '\r' => ['\\', 'r']
  | '\n' => ['\\', 'n']
  | '\\' => ['\\', '\\']
  | '"' => ['\\', '"']
  | _ =>
    if extendsGrapheme c || !isPrintable c then
      ['\\', 'u', '{'] ++ hexDigits c.toNat ++ ['}']
    else [c]

/-- A text between double quotes. -/
def quoted (text : Text) : Text :=
  ['"'] ++ text.flatMap quotedChar ++ ['"']

end TextTemplate.Text
