/-
**Numbers written as text.**

* `readNatural?` reads decimal digits, `readInteger?` a word with an optional sign;
* `readFloat?` reads a decimal with an optional fraction and exponent, or the name of a special
  value, as the nearest float.

However long a text is, only so many of its digits are counted as decide the result: `digitsCapped`
stops at a cap that lies beyond every word, and `decimalOf` at more digits than a number half-way
between two floats can have.
-/

import TextTemplate.Number.Decimal
import TextTemplate.Number.Integer

namespace TextTemplate

/-- The value of a decimal digit. -/
def digitValue (c : Char) : Nat :=
  c.toNat - 48

/-- The number that decimal digits stand for, other characters counting as if they were digits. -/
def digitsValue (digits : Text) : Nat :=
  digits.foldl (fun n c => 10 * n + digitValue c) 0

/-- The number that decimal digits stand for. Once it has reached the cap, the digits that follow
are passed over. -/
def digitsCapped (cap : Nat) (digits : Text) : Nat :=
  digits.foldl (fun n c => if n < cap then 10 * n + digitValue c else n) 0

/-- Reads a nonempty text of decimal digits up to a cap. -/
def readDigits? (cap : Nat) (text : Text) : Option Nat :=
  if !text.isEmpty && text.all Char.isDigit then some (digitsCapped cap text) else none

/-- A number beyond every word, with a sign or without. -/
def wordCap : Nat := 18446744073709551616

/-- The number at which the exponent of a float stops growing. Exponents below ten times the cap
count in full, and a greater one for its first five or six digits. -/
def exponentCap : Nat := 65536

/-- A text without its sign, and whether the sign is a minus. -/
def splitSign : Text → Bool × Text
  | '-' :: text => (true, text)
  | '+' :: text => (false, text)
  | text => (false, text)

/-- Reads decimal digits after an optional plus sign. What is beyond every word stays so. -/
def readNatural? : Text → Option Nat
  | '+' :: text => readDigits? wordCap text
  | text => readDigits? wordCap text

/-- Reads a word: decimal digits after an optional sign. -/
def readInteger? (text : Text) : Option Int64 :=
  let (negative, digits) := splitSign text
  (readDigits? wordCap digits).bind fun n => Integer.checked? (if negative then -(n : Int) else n)

/-- Reads what follows the digits of a float: nothing, or an exponent. -/
def readExponent? : Text → Option Int
  | [] => some 0
  | e :: text =>
    if e = 'e' ∨ e = 'E' then
      let (negative, digits) := splitSign text
      (readDigits? exponentCap digits).map fun n => if negative then -(n : Int) else n
    else none

/-- Splits off the digits after a decimal point, if there is a point. -/
def splitFraction : Text → Text × Text
  | '.' :: text => text.span Char.isDigit
  | text => ([], text)

/-- More digits than a number half-way between two floats has. -/
def significantDigits : Nat := 800

/-- The decimal of some digits, the exponent being that of the last one. Of more than the
significant digits the others are replaced by a single one, unless they are zeros: this keeps the
decimal on its side of every number half-way between two floats. -/
def decimalOf (digits : Text) (exponent : Int) : Decimal :=
  let digits := digits.dropWhile (· == '0')
  let value := digitsValue (digits.take significantDigits)
  let rest := digits.drop significantDigits
  if rest.all (· == '0') then ⟨value, exponent + rest.length⟩
  else ⟨10 * value + 1, exponent + rest.length - 1⟩

/-- Reads a decimal with at least one digit before or after its point. -/
def readDecimal? (text : Text) : Option Decimal :=
  let (whole, text) := text.span Char.isDigit
  let (fraction, text) := splitFraction text
  if whole.isEmpty && fraction.isEmpty then none
  else (readExponent? text).map fun exponent =>
    decimalOf (whole ++ fraction) (exponent - fraction.length)

/-- Reads a float. The special values are named without regard to the case of the letters. -/
def readFloat? (text : Text) : Option Float :=
  let (negative, magnitude) := splitSign text
  let name := String.ofList (magnitude.map Char.toLower)
  if name = "inf" ∨ name = "infinity" then some (withSign negative infinityBits)
  else if name = "nan" then some (0.0 / 0.0)
  else (readDecimal? magnitude).map (Decimal.toFloat negative)

end TextTemplate
