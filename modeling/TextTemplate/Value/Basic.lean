/-
**Values.**

What an expression evaluates to: nothing, a truth value, a number, a text, a list or a map from
names to values whose entries keep their order.

* `truthy` is the truth value that a condition sees;
* `asFloat?` and `asInteger?` are the numeric views, which texts that spell a number have too;
* `items` is what a loop runs over;
* `same` is equality that tells the kinds of numbers apart, `looseEq` the one that does not.
-/

import TextTemplate.Bindings
import TextTemplate.Number.Read
import TextTemplate.Text.Blank

namespace TextTemplate

/-- A value. -/
inductive Value where
  | null
  | bool (b : Bool)
  | int (n : Int64)
  | float (x : Float)
  | string (s : String)
  | array (items : List Value)
  | map (entries : List (String × Value))
deriving Inhabited

namespace Value

/-- A text as a value. -/
def ofText (text : Text) : Value :=
  .string (String.ofList text)

/-- A count as a value. -/
def ofNat (n : Nat) : Value :=
  match Integer.checked? n with
  | some k => .int k
  | none => .float (floatOfInt n)

/-- The truth value that a condition sees: false are nothing, zero, what is not a number and the
empty text. Lists and maps are true, even empty ones. -/
def truthy : Value → Bool
  | .null => false
  | .bool b => b
  | .int n => n != 0
  | .float x => x != 0.0 && !x.isNaN
  | .string s => s != ""
  | .array _ | .map _ => true

/-- Whether a value is nothing. -/
def isNull : Value → Bool
  | .null => true
  | _ => false

/-- Whether a value is a number of either kind. -/
def isNumber : Value → Bool
  | .int _ | .float _ => true
  | _ => false

/-- The text of a value that is a text. -/
def asString? : Value → Option String
  | .string s => some s
  | _ => none

/-- The float of a value that is a number. -/
def number? : Value → Option Float
  | .int n => some (Integer.toFloat n)
  | .float x => some x
  | _ => none

/-- A value as a float, if it is a number, a truth value or a text that spells a float. -/
def asFloat? : Value → Option Float
  | .int n => some (Integer.toFloat n)
  | .float x => some x
  | .bool b => some (if b then 1.0 else 0.0)
  | .string s => readFloat? (Text.trim s.toList)
  | _ => none

/-- A value as an integer: a float by its whole part, a text by the integer or the float that it
spells. -/
def asInteger? : Value → Option Int64
  | .int n => some n
  | .float x => some (Integer.ofFloat x)
  | .bool b => some (if b then 1 else 0)
  | .string s =>
    let text := Text.trim s.toList
    readInteger? text <|> (readFloat? text).map Integer.ofFloat
  | _ => none

/-- What a loop over a value runs over: the elements of a list, the values of a map, nothing for
null and the value itself otherwise. -/
def items : Value → List Value
  | .array items => items
  | .map entries => entries.map Prod.snd
  | .null => []
  | value => [value]

/-- The name of the kind of a value. -/
def typeName : Value → String
  | .null => "null"
  | .bool _ => "boolean"
  | .int _ | .float _ => "number"
  | .string _ => "string"
  | .array _ => "array"
  | .map _ => "map"

mutual

/-- Equality of values: integers differ from floats, and maps are equal if they bind the same names
to equal values in any order. -/
def same : Value → Value → Bool
  | .null, .null => true
  | .bool a, .bool b => a == b
  | .int a, .int b => a == b
  | .float a, .float b => a == b
  | .string a, .string b => a == b
  | .array a, .array b => sameItems a b
  | .map a, .map b => a.length == b.length && sameEntries a b
  | _, _ => false

/-- Equality of lists, element by element. -/
def sameItems : List Value → List Value → Bool
  | [], [] => true
  | a :: as, b :: bs => same a b && sameItems as bs
  | _, _ => false

/-- Whether a map binds each of some names to an equal value. -/
def sameEntries : List (String × Value) → List (String × Value) → Bool
  | [], _ => true
  | (name, a) :: rest, bs =>
    (match Bindings.find? name bs with
      | some b => same a b
      | none => false) && sameEntries rest bs

end

/-- Equality that compares numbers of different kinds by their float. -/
def looseEq : Value → Value → Bool
  | .int a, .int b => a == b
  | a, b =>
    match a.number?, b.number? with
    | some x, some y => x == y
    | _, _ => same a b

end Value
end TextTemplate
