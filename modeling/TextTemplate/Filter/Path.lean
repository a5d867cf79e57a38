/-
**Members of values.**

* `Value.field` is the member after a point in an expression, `Value.at?` the element at a possibly
  negative index;
* `lookupPath` follows names between points, as the filters do that sort and select by an attribute.
-/

import TextTemplate.Text.Search
import TextTemplate.Value.Text

namespace TextTemplate

namespace Value

/-- The member of a value with a name: an entry of a map, an element of a list by its number, or the
length of a list or a text. -/
def field (target : Value) (name : String) : Value :=
  match target with
  | .map entries => (Bindings.find? name entries).getD .null
  | .array items =>
    match readNatural? name.toList with
    | some index => items[index]?.getD .null
    | none => if name = "length" then ofNat items.length else .null
  | .string s => if name = "length" then ofNat s.length else .null
  | _ => .null

/-- The place that an index names in a sequence of some length; a negative index counts from the
end. -/
def place? (index : Int64) (length : Nat) : Option Nat :=
  let place := if index < 0 then index.toInt + length else index.toInt
  if 0 ≤ place then some place.toNat else none

/-- The element of a list at an index. -/
def elementAt? (items : List α) (index : Value) : Option α :=
  index.asInteger?.bind fun n => (place? n items.length).bind fun place => items[place]?

/-- The member of a value selected by another value: an entry of a map by the text of the index, an
element of a list or a character of a text by its number. -/
def at? (target index : Value) : Value :=
  match target with
  | .map entries => (Bindings.find? index.render entries).getD .null
  | .array items => (elementAt? items index).getD .null
  | .string s => ((elementAt? s.toList index).map fun c => ofText [c]).getD .null
  | _ => .null

/-- Whether a value is a member of another one: a part of a text, an element of a list or a name
that a map binds. -/
def holds (container item : Value) : Bool :=
  match container with
  | .string s => Text.hasInfix item.text s.toList
  | .array items => items.any (looseEq · item)
  | .map entries => Bindings.contains item.render entries
  | _ => false

end Value

namespace Filter

/-- The member of a map or a list named by one part of a path. -/
def pathStep? (target : Value) (part : Text) : Option Value :=
  match target with
  | .map entries => Bindings.find? (String.ofList part) entries
  | .array items => (readNatural? part).bind fun index => items[index]?
  | _ => none

/-- Follows the parts of a path; null as soon as a member is missing. -/
def followPath (target : Value) : List Text → Value
  | [] => target
  | part :: parts =>
    match pathStep? target part with
    | some member => followPath member parts
    | none => .null

/-- The member of a value at the end of a path, whose parts stand between points; empty parts are
passed over. -/
def lookupPath (path : Text) (target : Value) : Value :=
  followPath target ((path.splitOn '.').filter fun part => !part.isEmpty)

end Filter
end TextTemplate
