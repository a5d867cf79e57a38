/-
**Values as JSON documents and back.**

* `Value.json` writes a value as compact JSON; a float always has a fraction or an exponent, and one
  without digits is written as null;
* `Value.ofJson` reads a document as a value: of a repeated name the first place and the last value
  count;
* `Json.canonical` sorts the members of every object by name, keeping the last of a repeated name,
  and `Value.ofTree` takes the result over as it is.
-/

import TextTemplate.Json.Read
import TextTemplate.Value.Order

namespace TextTemplate

/-- A float as a JSON number in the fewest digits that read back: without an exponent from `10 ^ -5`
on and below `10 ^ 16`, and then always with a fraction. -/
def jsonFloat (x : Float) : Text :=
  match Binary.ofFloat? x with
  | none => ['n', 'u', 'l', 'l']
  | some b =>
    let digits :=
      if b.mantissa = 0 then ['0', '.', '0']
      else
        let d := Decimal.shortest .even b
        if -5 < d.place ∧ d.place ≤ 16 then
          if 0 ≤ d.exponent then d.positional ++ ['.', '0'] else d.positional
        else d.scientific
    if b.negative then '-' :: digits else digits

namespace Value

mutual

/-- A value as compact JSON. -/
def json : Value → Text
  | .null => ['n', 'u', 'l', 'l']
  | .bool true => ['t', 'r', 'u', 'e']
  | .bool false => ['f', 'a', 'l', 's', 'e']
  | .int n => integerText n.toInt
  | .float x => jsonFloat x
  | .string s => Json.quote s.toList
  | .array items => '[' :: [','].intercalate (jsonItems items) ++ [']']
  | .map entries => '{' :: [','].intercalate (jsonEntries entries) ++ ['}']

/-- The elements of a list as JSON. -/
def jsonItems : List Value → List Text
  | [] => []
  | item :: items => json item :: jsonItems items

/-- The entries of a map as the members of an object. -/
def jsonEntries : List (String × Value) → List Text
  | [] => []
  | (name, value) :: entries =>
    (Json.quote name.toList ++ ':' :: json value) :: jsonEntries entries

end

/-- An integer of a document: a word if it fits, the nearest float otherwise. -/
def ofJsonInteger (n : Int) : Value :=
  match Integer.checked? n with
  | some k => .int k
  | none => .float (floatOfInt n)

mutual

/-- The value of a document. -/
def ofJson : Json → Value
  | .null => .null
  | .bool b => .bool b
  | .int n => ofJsonInteger n
  | .float x => .float x
  | .string s => .string s
  | .array items => .array (ofJsonItems items)
  | .object members => .map (Bindings.ofList (ofJsonMembers members))

/-- The values of the elements of an array. -/
def ofJsonItems : List Json → List Value
  | [] => []
  | item :: items => ofJson item :: ofJsonItems items

/-- The values of the members of an object, repeated names included. -/
def ofJsonMembers : List (String × Json) → List (String × Value)
  | [] => []
  | (name, member) :: members => (name, ofJson member) :: ofJsonMembers members

end

mutual

/-- The value of a document without repeated names. -/
def ofTree : Json → Value
  | .null => .null
  | .bool b => .bool b
  | .int n => ofJsonInteger n
  | .float x => .float x
  | .string s => .string s
  | .array items => .array (ofTreeItems items)
  | .object members => .map (ofTreeMembers members)

/-- The values of the elements of an array. -/
def ofTreeItems : List Json → List Value
  | [] => []
  | item :: items => ofTree item :: ofTreeItems items

/-- The values of the members of an object. -/
def ofTreeMembers : List (String × Json) → List (String × Value)
  | [] => []
  | (name, member) :: members => (name, ofTree member) :: ofTreeMembers members

end

end Value

namespace Json

/-- Inserts a member in the order of the names; a member of the same name is replaced. -/
def insertSorted (name : String) (value : Json) : List (String × Json) → List (String × Json)
  | [] => [(name, value)]
  | (other, old) :: rest =>
    match Text.order name.toList other.toList with
    | .lt => (name, value) :: (other, old) :: rest
    | .eq => (name, value) :: rest
    | .gt => (other, old) :: insertSorted name value rest

mutual

/-- The document with the members of every object sorted by name, the last one of each name. -/
def canonical : Json → Json
  | .array items => .array (canonicalItems items)
  | .object members => .object (canonicalMembers members [])
  | document => document

/-- The elements of an array, each with its objects sorted. -/
def canonicalItems : List Json → List Json
  | [] => []
  | item :: items => canonical item :: canonicalItems items

/-- Inserts members one after the other into sorted ones. -/
def canonicalMembers : List (String × Json) → List (String × Json) → List (String × Json)
  | [], sorted => sorted
  | (name, member) :: members, sorted =>
    canonicalMembers members (insertSorted name (canonical member) sorted)

end

end Json
end TextTemplate
