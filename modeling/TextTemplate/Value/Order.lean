/-
**The order of values.**

* `Text.order` compares texts character by character;
* `compareFloats?` compares floats, with no answer where one of them is not a number;
* `Value.compare` compares two numbers by value and everything else by its text, with or without
  regard to the case of the letters.
-/

import TextTemplate.Text.LetterCase
import TextTemplate.Value.Text

namespace TextTemplate

/-- The order of texts: that of the first characters that differ, by code point, and a text before
its continuations. -/
def Text.order : Text → Text → Ordering
  | [], [] => .eq
  | [], _ :: _ => .lt
  | _ :: _, [] => .gt
  | c :: a, d :: b => (compare c.toNat d.toNat).then (Text.order a b)

/-- The order of two floats; none if one of them is not a number. -/
def compareFloats? (x y : Float) : Option Ordering :=
  if x < y then some .lt else if x == y then some .eq else if y < x then some .gt else none

namespace Value

/-- The order by text. -/
def compareTexts (caseSensitive : Bool) (a b : Value) : Ordering :=
  if caseSensitive then Text.order a.text b.text
  else Text.order (Text.toLower a.text) (Text.toLower b.text)

/-- The order that sorting uses: numbers by value, where what is not a number equals everything, and
all else by text. -/
def compare (caseSensitive : Bool) (a b : Value) : Ordering :=
  match a.number?, b.number? with
  | some x, some y => (compareFloats? x y).getD .eq
  | _, _ => compareTexts caseSensitive a b

end Value
end TextTemplate
