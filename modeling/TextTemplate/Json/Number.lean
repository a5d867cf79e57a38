/-
**Numbers of JSON documents.**

The digits of a number are collected in an unsigned word. Digits that no longer fit are dropped, and
the exponent makes up for them. A float is the collected word times or divided by a power of ten,
both rounded: it may miss the nearest float by a unit in the last place.

* `readNumber?` reads the longest number at the front of a text and has no answer for a malformed
  number or one too large for a float.
-/

import TextTemplate.Json.Basic
import TextTemplate.Number.Read

namespace TextTemplate.Json

/-- The greatest unsigned word. -/
def greatestWord : Nat := 18446744073709551615

/-- The greatest exponent that is counted. -/
def greatestExponent : Nat := 2147483647

/-- The float nearest to a power of ten. -/
def powerOfTen (n : Nat) : Float :=
  nearest false (Nat.pow 10 n) 1

/-- Divides by the greatest power of ten until what is left of a negative exponent is a power of
ten, or nothing is left of the number. -/
def scaleDown (x : Float) : (steps shift : Nat) → Float
  | 0, _ => x
  | steps + 1, shift =>
    if shift ≤ 308 then x / powerOfTen shift
    else if x == 0.0 then x
    else scaleDown (x / powerOfTen 308) steps (shift - 308)

/-- The float of a word and a power of ten; none if it is too large. -/
def floatOfParts? (negative : Bool) (significand : Nat) (exponent : Int) : Option Float :=
  let x := nearest false significand 1
  let signed (x : Float) := if negative then -x else x
  if exponent < 0 then some (signed (scaleDown x 3 exponent.natAbs))
  else if exponent ≤ 308 then
    let product := x * powerOfTen exponent.toNat
    if product.isFinite then some (signed product) else none
  else if x == 0.0 then some (signed x)
  else none

/-- Collects digits in a word while they fit; the result has the word, the number of digits that
were collected and the text behind them. -/
def collectDigits (significand count : Nat) : Text → Nat × Nat × Text
  | [] => (significand, count, [])
  | c :: text =>
    if c.isDigit && 10 * significand + digitValue c ≤ greatestWord then
      collectDigits (10 * significand + digitValue c) (count + 1) text
    else (significand, count, c :: text)

/-- Collects the digits of an exponent; none if they exceed the greatest one. -/
def collectExponent (value : Nat) : Text → Option Nat × Text
  | [] => (some value, [])
  | c :: text =>
    if c.isDigit then
      if 10 * value + digitValue c ≤ greatestExponent then
        collectExponent (10 * value + digitValue c) text
      else (none, text.dropWhile Char.isDigit)
    else (some value, c :: text)

/-- Reads what follows the digits of a float: an exponent, or nothing. -/
def readExponent? (negative : Bool) (significand : Nat) (exponent : Int) (text : Text) :
    Option (Json × Text) :=
  match text with
  | [] => (floatOfParts? negative significand exponent).map fun x => (.float x, [])
  | e :: rest =>
    if e = 'e' ∨ e = 'E' then
      let (down, digits) := splitSign rest
      match digits with
      | [] => none
      | c :: after =>
        if c.isDigit then
          match collectExponent (digitValue c) after with
          | (some shift, rest) =>
            (floatOfParts? negative significand
              (if down then exponent - shift else exponent + shift)).map fun x => (.float x, rest)
          | (none, rest) =>
            if significand ≠ 0 ∧ !down then none
            else some (.float (if negative then -0.0 else 0.0), rest)
        else none
    else (floatOfParts? negative significand exponent).map fun x => (.float x, text)

/-- Reads the digits behind a decimal point, of which there must be one. -/
def readFraction? (negative : Bool) (significand : Nat) (exponent : Int) (text : Text) :
    Option (Json × Text) :=
  let (significand, count, rest) := collectDigits significand 0 text
  let (dropped, after) := rest.span Char.isDigit
  if count = 0 ∧ dropped.isEmpty then none
  else readExponent? negative significand (exponent - count) after

/-- The number of a word without fraction and exponent. Minus zero is a float. -/
def wholeNumber (negative : Bool) (significand : Nat) : Json :=
  if !negative then .int significand
  else if significand = 0 ∨ 9223372036854775808 < significand then
    .float (nearest true significand 1)
  else .int (-(significand : Int))

/-- Reads what follows the digits before the point. -/
def readRest? (negative : Bool) (significand : Nat) (dropped : Nat) (text : Text) :
    Option (Json × Text) :=
  match text with
  | '.' :: rest => readFraction? negative significand dropped rest
  | 'e' :: _ | 'E' :: _ => readExponent? negative significand dropped text
  | _ =>
    if dropped = 0 then some (wholeNumber negative significand, text)
    else (floatOfParts? negative significand dropped).map fun x => (.float x, text)

/-- Reads a number without its sign. A zero is followed by no other digit. -/
def readMagnitude? (negative : Bool) : Text → Option (Json × Text)
  | '0' :: text =>
    if (text.head?.map Char.isDigit).getD false then none else readRest? negative 0 0 text
  | c :: text =>
    if c.isDigit then
      let (significand, _, rest) := collectDigits (digitValue c) 0 text
      let (dropped, after) := rest.span Char.isDigit
      readRest? negative significand dropped.length after
    else none
  | [] => none

/-- Reads a number and returns what follows it. -/
def readNumber? : Text → Option (Json × Text)
  | '-' :: text => readMagnitude? true text
  | text => readMagnitude? false text

end TextTemplate.Json
