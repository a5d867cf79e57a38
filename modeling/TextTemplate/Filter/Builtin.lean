/-
**The built-in filters.**

* `applyBuiltin?` applies the filter of a name, whose ASCII case does not matter, and has no answer
  if there is no such filter;
* `selectBy` keeps or drops the elements that pass a test.
-/

import TextTemplate.Filter.Markup
import TextTemplate.Filter.Sequence
import TextTemplate.Filter.Test
import TextTemplate.Filter.Words
import TextTemplate.Value.Json

namespace TextTemplate.Filter

/-- Whether a value passes a test, or is true if no test is named. -/
def passes (test : Option Value) (args : List Value) (value : Value) : Except EvalError Bool :=
  match test with
  | some name => applyTest name.render value args
  | none => .ok value.truthy

/-- The elements for which the answer of a test on a part of them is `keep`. -/
def selectBy (keep : Bool) (part : Value → Value) (test : Option Value) (args : List Value) :
    List Value → Except EvalError (List Value)
  | [] => .ok []
  | item :: items => do
    let passed ← passes test args (part item)
    let rest ← selectBy keep part test args items
    .ok (if passed == keep then item :: rest else rest)

/-- The value, or the fallback if the value is nothing or the empty text, or, when `all` is set,
anything false or empty. -/
def defaultTo (fallback : Value) (all : Bool) (value : Value) : Value :=
  let empty :=
    match value with
    | .null => true
    | .array items => all && items.isEmpty
    | .map entries => all && entries.isEmpty
    | .string s => s == ""
    | other => all && !other.truthy
  if empty then fallback else value

/-- The text with occurrences of the first argument replaced by the second one, at most as many as
the third one says, unless it is negative. -/
def replaceIn (args : List Value) (text : Text) : Text :=
  let old := textArg args 0 []
  let new := textArg args 1 []
  let limit := integerArg args 2 (-1)
  if limit < 0 then Text.replaceAll old new text
  else Text.replaceUpTo (min limit.toInt.toNat (text.length + 1)) old new text

/-- The entries of a map as pairs, sorted. The first two arguments are whether case matters and what
to sort by, in this order if the first one is a truth value, and the other way round if not. -/
def sortedPairs (args : List Value) (value : Value) : Value :=
  match value with
  | .map entries =>
    let (caseSensitive, key) :=
      match args.head? with
      | some (.bool caseSensitive) => (caseSensitive, textArg args 1 ['k', 'e', 'y'])
      | _ => (flagArg args 1, textArg args 0 ['k', 'e', 'y'])
    let byValue := key.map Char.toLower == ['v', 'a', 'l', 'u', 'e']
    .array ((sortEntries (flagArg args 2) caseSensitive byValue entries).map fun (name, entry) =>
      .array [.string name, entry])
  | _ => .array []

/-- The result of a built-in filter that cannot fail. -/
def pureBuiltin? (name : String) (value : Value) (args : List Value) : Option Value :=
  match name with
  | "lower" => some (.ofText (Text.toLower value.text))
  | "upper" => some (.ofText (Text.toUpper value.text))
  | "string" => some (.ofText value.text)
  | "trim" => some (.ofText value.text.trim)
  | "title" => some (.ofText (titleCase true value.text.trim))
  | "capitalize" => some (.ofText (capitalize value.text.trim))
  | "abs" => some (.float (value.asFloat?.getD 0.0).abs)
  | "int" => some (.int (value.asInteger?.getD (integerArg args 0 0)))
  | "float" => some (.float (value.asFloat?.getD 0.0))
  | "length" | "count" => some (.ofNat (lengthOf value))
  | "first" => some (first value)
  | "last" => some (last value)
  | "join" => some (.ofText ((textArg args 0 []).intercalate (value.items.map Value.text)))
  | "list" => some (toList value)
  | "replace" => some (.ofText (replaceIn args value.text))
  | "reverse" => some (reverse value)
  | "round" => some (.float (roundTo (integerArg args 0 0).toInt (value.asFloat?.getD 0.0)))
  | "default" | "d" => some (defaultTo (args.head?.getD (.string "")) (flagArg args 1) value)
  | "escape" | "e" | "forceescape" => some (.ofText (escapeMarkup value.text))
  | "safe" => some value
  | "dump" => some (.ofText value.json)
  | "wordcount" => some (.ofNat value.text.words.length)
  | "nl2br" => some (.ofText (breakLines value.text))
  | "urlencode" => some (.ofText (encodeForm value.text))
  | "urlize" => some (.ofText (linkUrls value.text))
  | "striptags" => some (.ofText (stripTags (flagArg args 0) value.text))
  | "truncate" =>
    some (.ofText (truncate (countArg args 0 255) (flagArg args 1) (textArg args 2 ['.', '.', '.'])
      value.text))
  | "center" => some (.ofText (center (countArg args 0 80) value.text))
  | "indent" => some (.ofText (indent (countArg args 0 4) value.text))
  | "sum" => some (.float (sumOf value.items))
  | "batch" => some (batch (countArg args 0 1) args[1]? value.items)
  | "slice" => some (slice (countArg args 0 1) value.items)
  | "sort" =>
    some (.array
      (sortItems (flagArg args 0) (flagArg args 1) (args[2]?.map Value.text) value.items))
  | "dictsort" => some (sortedPairs args value)
  | _ => none

/-- The result of a built-in filter that applies a test, which may be unknown. -/
def testingBuiltin? (name : String) (value : Value) (args : List Value) :
    Option (Except EvalError Value) :=
  let select (keep : Bool) : Except EvalError Value :=
    .array <$> selectBy keep id args.head? (args.drop 1) value.items
  let selectByPath (keep : Bool) : Except EvalError Value :=
    .array <$> selectBy keep (lookupPath (textArg args 0 [])) args[1]? (args.drop 2) value.items
  match name with
  | "select" => some (select true)
  | "reject" => some (select false)
  | "selectattr" => some (selectByPath true)
  | "rejectattr" => some (selectByPath false)
  | _ => none

/-- The result of the built-in filter of a name, if there is one. -/
def applyBuiltin? (name : String) (value : Value) (args : List Value) :
    Option (Except EvalError Value) :=
  let name := lowerName name
  match pureBuiltin? name value args with
  | some result => some (.ok result)
  | none => testingBuiltin? name value args

end TextTemplate.Filter
