/-
**The text of a value.**

* `floatText` writes a float in the fewest digits that read back, always without an exponent, and
  without a point if it is a whole number below `10 ^ 15`;
* `Value.text` is what a value contributes to the output: nothing for null, and the elements of a
  list or a map one after the other, without brackets.
-/

import TextTemplate.Value.Basic

namespace TextTemplate

/-- An integer in decimal digits. -/
def integerText (n : Int) : Text :=
  if n < 0 then '-' :: Decimal.digitText n.natAbs else Decimal.digitText n.natAbs

/-- The text of a float that has no digits. -/
def specialText (x : Float) : Text :=
  if x.isNaN then ['N', 'a', 'N'] else if x < 0.0 then ['-', 'i', 'n', 'f'] else ['i', 'n', 'f']

/-- A float in decimal digits. -/
def floatText (x : Float) : Text :=
  match Binary.ofFloat? x with
  | none => specialText x
  | some b =>
    if b.isInteger && b.wholePart.1 < Nat.pow 10 15 then integerText b.truncate
    else
      let digits := (Decimal.shortest .up b).positional
      if b.negative then '-' :: digits else digits

namespace Value

mutual

/-- What a value contributes to the output. -/
def text : Value → Text
  | .null => []
  | .bool true => ['t', 'r', 'u', 'e']
  | .bool false => ['f', 'a', 'l', 's', 'e']
  | .int n => integerText n.toInt
  | .float x => floatText x
  | .string s => s.toList
  | .array items => [','].intercalate (itemTexts items)
  | .map entries => [',', ' '].intercalate (entryTexts entries)

/-- The texts of the elements of a list. -/
def itemTexts : List Value → List Text
  | [] => []
  | item :: items => text item :: itemTexts items

/-- The texts of the entries of a map, each with its name in front. -/
def entryTexts : List (String × Value) → List Text
  | [] => []
  | (name, value) :: entries => (name.toList ++ ':' :: ' ' :: text value) :: entryTexts entries

end

/-- The text of a value as a string. -/
def render (value : Value) : String :=
  String.ofList value.text

end Value
end TextTemplate
