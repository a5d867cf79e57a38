/-
**Filters on sequences.**

* `chunksOf` cuts a list into parts of a size, all of which but the last are full;
* `batch` fills up the last part on request, `slice` chooses the size from the number of parts;
* `sortBy` is stable, also in descending order;
* `sortItems`, `sortEntries` and `sortedNames` sort elements, entries and names.
-/

import TextTemplate.Filter.Arguments
import TextTemplate.Filter.Path
import TextTemplate.Value.Order

namespace TextTemplate.Filter

/-- Cuts a list into parts of a size; `steps` bounds the number of parts. -/
def chunkLoop (size : Nat) : (steps : Nat) → List α → List (List α)
  | _, [] => []
  | 0, items => [items]
  | steps + 1, item :: items =>
    (item :: items).take size :: chunkLoop size steps ((item :: items).drop size)

/-- Cuts a list into parts of a positive size; the last one holds what is left. -/
def chunksOf (size : Nat) (items : List α) : List (List α) :=
  chunkLoop size items.length items

/-- Appends copies of a filler up to a size. -/
def padTo (size : Nat) (filler : Value) (row : List Value) : List Value :=
  row ++ List.replicate (size - row.length) filler

/-- Cuts a list into rows of a size, of at least one. -/
def batch (size : Nat) (filler : Option Value) (items : List Value) : Value :=
  let size := max size 1
  .array ((chunksOf size items).map fun row =>
    .array (match filler with
      | some filler => padTo size filler row
      | none => row))

/-- Cuts a list into at most the given number of equal parts, the last one possibly shorter. -/
def slice (parts : Nat) (items : List Value) : Value :=
  let parts := max parts 1
  .array ((chunksOf ((items.length + parts - 1) / parts) items).map .array)

/-- Sorts by an order of keys, ascending or descending; what is equal keeps its place. -/
def sortBy (order : β → β → Ordering) (descending : Bool) (key : α → β) (items : List α) :
    List α :=
  items.mergeSort fun a b =>
    let ordering := order (key a) (key b)
    (if descending then ordering.swap else ordering).isLE

/-- Sorts values by themselves or by the member at the end of a path. -/
def sortItems (descending caseSensitive : Bool) (path : Option Text) (items : List Value) :
    List Value :=
  let key (item : Value) : Value :=
    match path with
    | some path => lookupPath path item
    | none => item
  sortBy (Value.compare caseSensitive) descending key items

/-- Sorts the entries of a map by name or by value. -/
def sortEntries (descending caseSensitive byValue : Bool) (entries : List (String × Value)) :
    List (String × Value) :=
  let key (entry : String × Value) : Value := if byValue then entry.2 else .string entry.1
  sortBy (Value.compare caseSensitive) descending key entries

/-- The names of a map in order, without regard to case. -/
def sortedNames (entries : List (String × Value)) : List Value :=
  sortItems false false none (entries.map fun (name, _) => .string name)

/-- The sum of the numeric views of values, where what has none counts as zero. The sum of no values
is minus zero. -/
def sumOf (items : List Value) : Float :=
  items.foldl (fun total item => total + item.asFloat?.getD 0.0) (-0.0)

/-- A float rounded to a number of decimal places; a number of places that does not fit in
thirty-two bits counts as none. -/
def roundTo (places : Int) (x : Float) : Float :=
  let places := if -2147483648 ≤ places ∧ places ≤ 2147483647 then places else 0
  let factor := integerPower 10.0 places
  roundHalfAway (x * factor) / factor

/-- The number of elements of a list, entries of a map or characters of a text. -/
def lengthOf : Value → Nat
  | .array items => items.length
  | .map entries => entries.length
  | .string s => s.length
  | _ => 0

/-- The first element of a list, or the first character of any other value's text. -/
def first (value : Value) : Value :=
  match value with
  | .array items => items.head?.getD .null
  | _ => Value.ofText (value.text.take 1)

/-- The last element of a list, or the last character of any other value's text. -/
def last (value : Value) : Value :=
  match value with
  | .array items => items.getLast?.getD .null
  | _ => Value.ofText value.text.getLast?.toList

/-- A value as a list: the names of a map in order, nothing for null and the characters of any other
value's text. -/
def toList (value : Value) : Value :=
  match value with
  | .array items => .array items
  | .map entries => .array (sortedNames entries)
  | .null => .array []
  | _ => .array (value.text.map fun c => Value.ofText [c])

/-- The elements of a list, or the characters of any other value's text, backwards. -/
def reverse (value : Value) : Value :=
  match value with
  | .array items => .array items.reverse
  | _ => Value.ofText value.text.reverse

/-- The arithmetic progression that the arguments of `range` describe: where it stops, or where it
starts and stops, or the step too. -/
def range (args : List Value) : Except String Value :=
  let integer (value : Value) : Int64 := value.asInteger?.getD 0
  let progression (start stop step : Int64) : Except String Value :=
    if step = 0 then .error "step must not be zero"
    else .ok (.array ((Integer.range start stop step).map .int))
  match args with
  | [] => .error "expected at least one argument"
  | [stop] => progression 0 (integer stop) 1
  | [start, stop] => progression (integer start) (integer stop) 1
  | start :: stop :: step :: _ => progression (integer start) (integer stop) (integer step)

end TextTemplate.Filter
