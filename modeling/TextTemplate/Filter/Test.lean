/-
**Tests.**

The words that follow `is` in an expression, and that select elements of a list by name. The case of
a name's ASCII letters does not matter.

* `applyTest` answers whether a value passes the test of a name.
-/

import TextTemplate.Expr.Error
import TextTemplate.Filter.Arguments
import TextTemplate.Value.Order

namespace TextTemplate.Filter

/-- The name of a test or filter with its ASCII letters in lower case. -/
def lowerName (name : String) : String :=
  String.ofList (name.toList.map Char.toLower)

/-- Whether one word divides another; zero divides nothing. -/
def divides (divisor n : Int64) : Bool :=
  divisor != 0 && Integer.rem? n divisor == some 0

/-- Whether a value passes the test of a name. -/
def applyTest (name : String) (value : Value) (args : List Value) : Except EvalError Bool :=
  let n : Int64 := value.asInteger?.getD 0
  match lowerName name with
  | "defined" => .ok !value.isNull
  | "undefined" | "none" | "null" => .ok value.isNull
  | "string" => .ok (value matches .string _)
  | "number" => .ok value.isNumber
  | "boolean" | "bool" => .ok (value matches .bool _)
  | "iterable" => .ok (value matches .array _ | .map _ | .string _)
  | "sequence" => .ok (value matches .array _ | .string _)
  | "mapping" => .ok (value matches .map _)
  | "callable" => .ok false
  | "odd" => .ok (n.toInt % 2 == 1)
  | "even" => .ok (n.toInt % 2 == 0)
  | "divisibleby" => .ok (divides (integerArg args 0 0) n)
  | "lower" => .ok (value.text == Text.toLower value.text)
  | "upper" => .ok (value.text == Text.toUpper value.text)
  | "equalto" | "eq" => .ok ((args.head?.map value.looseEq).getD false)
  | "sameas" => .ok ((args.head?.map fun other => other.same value).getD false)
  | "true" => .ok (value matches .bool true)
  | "false" => .ok (value matches .bool false)
  | other => .error (.refused "is" s!"unknown test '{other}'")

end TextTemplate.Filter
