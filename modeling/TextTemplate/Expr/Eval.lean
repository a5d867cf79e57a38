/-
**Evaluating expressions.**

Look-ups are lenient: an unbound name, a missing member and an index out of range are null. Unknown
filters and functions are errors.

* `arithmetic` is exact on integers as long as the result fits, and goes over to floats beyond;
* `compareValues` orders by the numeric views if both operands have one, otherwise by text;
* `evalExpr` is the value of an expression in a scope;
* `evaluate` is the value of a text that is an expression.
-/

import TextTemplate.Expr.Parser
import TextTemplate.Filter.Builtin
import TextTemplate.Scope

namespace TextTemplate

/-- Filters and functions that are added to the built-in ones and go before them. -/
structure Extensions where
  filters : Bindings (Value → List Value → Except EvalError Value)
  functions : Bindings (List Value → Except EvalError Value)

namespace Extensions

/-- Nothing added. -/
def none : Extensions := ⟨[], []⟩

/-- One more filter; an earlier one of the same name is replaced. -/
def addFilter (extensions : Extensions) (name : String)
    (filter : Value → List Value → Except EvalError Value) : Extensions :=
  { extensions with filters := Bindings.insert name filter extensions.filters }

/-- One more function; an earlier one of the same name is replaced. -/
def addFunction (extensions : Extensions) (name : String)
    (function : List Value → Except EvalError Value) : Extensions :=
  { extensions with functions := Bindings.insert name function extensions.functions }

end Extensions

/-- Arithmetic on floats; there is no quotient and no remainder by zero. -/
def floatArithmetic (op : ArithOp) (x y : Float) : Value :=
  match op with
  | .add => .float (x + y)
  | .sub => .float (x - y)
  | .mul => .float (x * y)
  | .div => if y == 0.0 then .null else .float (x / y)
  | .rem => if y == 0.0 then .null else .float (remainder x y)
  | .concat => .ofText (floatText x ++ floatText y)

/-- The exact result on integers, if it is an integer that fits. -/
def exactArithmetic? (op : ArithOp) (a b : Int64) : Option Int64 :=
  match op with
  | .add => Integer.add? a b
  | .sub => Integer.sub? a b
  | .mul => Integer.mul? a b
  | .rem => Integer.rem? a b
  | .div | .concat => none

/-- Arithmetic on integers: exact if possible, on floats otherwise. -/
def integerArithmetic (op : ArithOp) (a b : Int64) : Value :=
  match exactArithmetic? op a b with
  | some n => .int n
  | none => floatArithmetic op (Integer.toFloat a) (Integer.toFloat b)

/-- The value of a binary arithmetic operator. Texts are joined, also by a plus sign, lists are
appended, and everything else is a number, zero if need be. -/
def arithmetic (op : ArithOp) (left right : Value) : Value :=
  match op, left, right with
  | .concat, _, _ | .add, .string _, _ | .add, _, .string _ => .ofText (left.text ++ right.text)
  | .add, .array a, .array b => .array (a ++ b)
  | op, .int a, .int b => integerArithmetic op a b
  | op, left, right => floatArithmetic op (left.asFloat?.getD 0.0) (right.asFloat?.getD 0.0)

/-- The value of a sign in front of an operand. -/
def negate (operand : Value) : Value :=
  match operand with
  | .int n =>
    match Integer.neg? n with
    | some m => .int m
    | none => .float (-Integer.toFloat n)
  | value => .float (-value.asFloat?.getD 0.0)

/-- The order of two operands of a comparison; none if one of them is not a number but counts as
one. -/
def operandOrder? (left right : Value) : Option Ordering :=
  match left.asFloat?, right.asFloat? with
  | some x, some y => compareFloats? x y
  | _, _ => some (Text.order left.text right.text)

/-- The truth value of a comparison. -/
def compareValues (op : CompareOp) (left right : Value) : Bool :=
  match op with
  | .eq => left.looseEq right
  | .ne => !left.looseEq right
  | .lt => ((operandOrder? left right).map Ordering.isLT).getD false
  | .le => ((operandOrder? left right).map Ordering.isLE).getD false
  | .gt => ((operandOrder? left right).map Ordering.isGT).getD false
  | .ge => ((operandOrder? left right).map Ordering.isGE).getD false

/-- How an expression that is called although it is no name is described. -/
def describeCallee : Expr → String
  | .name name => name
  | .field target name => describeCallee target ++ "." ++ name
  | .index target _ => describeCallee target ++ "[]"
  | .literal value => value.typeName
  | .call callee _ => describeCallee callee ++ "()"
  | _ => "expression"

/-- The value of a call. The functions that are always there are `range`, and `super`, which is null
where it is not inside of a block that overrides another one. -/
def applyCall (extensions : Extensions) (callee : Expr) (args : List Value) :
    Except EvalError Value :=
  match callee with
  | .name name =>
    match Bindings.find? name extensions.functions with
    | some function => function args
    | none =>
      if name = "range" then (Filter.range args).mapError (.refused "range")
      else if name = "super" then .ok .null
      else .error (.unknownFunction name)
  | callee => .error (.notCallable (describeCallee callee))

/-- The value of a filter. -/
def applyFilter (extensions : Extensions) (name : String) (value : Value) (args : List Value) :
    Except EvalError Value :=
  match Bindings.find? name extensions.filters with
  | some filter => filter value args
  | none => (Filter.applyBuiltin? name value args).getD (.error (.unknownFilter name))

mutual

/-- The value of an expression in a scope. -/
def evalExpr (extensions : Extensions) (scope : Scope) : Expr → Except EvalError Value
  | .literal value => .ok value
  | .array items => .array <$> evalAll extensions scope items
  | .name name => .ok ((scope.get? name).getD .null)
  | .field target name => do
    let target ← evalExpr extensions scope target
    .ok (target.field name)
  | .index target index => do
    let target ← evalExpr extensions scope target
    let index ← evalExpr extensions scope index
    .ok (target.at? index)
  | .call callee args => do
    let args ← evalAll extensions scope args
    applyCall extensions callee args
  | .filter target name args => do
    let target ← evalExpr extensions scope target
    let args ← evalAll extensions scope args
    applyFilter extensions name target args
  | .not operand => do
    let operand ← evalExpr extensions scope operand
    .ok (.bool !operand.truthy)
  | .and left right => do
    let left ← evalExpr extensions scope left
    if left.truthy then
      let right ← evalExpr extensions scope right
      .ok (.bool right.truthy)
    else .ok (.bool false)
  | .or left right => do
    let left ← evalExpr extensions scope left
    if left.truthy then .ok (.bool true)
    else
      let right ← evalExpr extensions scope right
      .ok (.bool right.truthy)
  | .compare op left right => do
    let left ← evalExpr extensions scope left
    let right ← evalExpr extensions scope right
    .ok (.bool (compareValues op left right))
  | .member item container negated => do
    let item ← evalExpr extensions scope item
    let container ← evalExpr extensions scope container
    .ok (.bool (container.holds item != negated))
  | .test target name args negated => do
    let target ← evalExpr extensions scope target
    let args ← evalAll extensions scope args
    let passed ← Filter.applyTest name target args
    .ok (.bool (passed != negated))
  | .arith op left right => do
    let left ← evalExpr extensions scope left
    let right ← evalExpr extensions scope right
    .ok (arithmetic op left right)
  | .neg operand => do
    let operand ← evalExpr extensions scope operand
    .ok (negate operand)
  | .conditional value condition otherwise => do
    let condition ← evalExpr extensions scope condition
    if condition.truthy then evalExpr extensions scope value
    else
      match otherwise with
      | some other => evalExpr extensions scope other
      | none => .ok .null

/-- The values of several expressions, from left to right. -/
def evalAll (extensions : Extensions) (scope : Scope) : List Expr → Except EvalError (List Value)
  | [] => .ok []
  | expr :: exprs => do
    let value ← evalExpr extensions scope expr
    let values ← evalAll extensions scope exprs
    .ok (value :: values)

end

/-- What answers for the expressions of a template: the value of a text in a scope. -/
abbrev Evaluator := Text → Scope → Except EvalError Value

/-- The evaluator of the expression language. -/
def evaluate (extensions : Extensions) : Evaluator := fun text scope => do
  let expr ← (parseExpr text).mapError .malformed
  evalExpr extensions scope expr

end TextTemplate
