/-
**Expressions.**

The language inside of expression tags and of the arguments of directives.

* `Expr` is the tree of an expression;
* `testNames` are the words after `is` that name a test; any other operand of `is` is compared.
-/

import TextTemplate.Value.Basic

namespace TextTemplate

/-- The comparison operators. -/
inductive CompareOp where
  | eq
  | ne
  | lt
  | le
  | gt
  | ge
deriving DecidableEq, Repr

/-- The arithmetic operators; `concat` joins the texts of its operands. -/
inductive ArithOp where
  | add
  | sub
  | mul
  | div
  | rem
  | concat
deriving DecidableEq, Repr

/-- An expression. -/
inductive Expr where
  /-- A text, a number, a truth value or null. -/
  | literal (value : Value)
  /-- A list of expressions in brackets. -/
  | array (items : List Expr)
  /-- A name that is looked up in the scope. -/
  | name (name : String)
  /-- A member named after a point. -/
  | field (target : Expr) (name : String)
  /-- A member selected by a value in brackets. -/
  | index (target index : Expr)
  /-- A call with arguments. -/
  | call (callee : Expr) (args : List Expr)
  /-- A value piped through a filter. -/
  | filter (target : Expr) (name : String) (args : List Expr)
  | not (operand : Expr)
  | and (left right : Expr)
  | or (left right : Expr)
  | compare (op : CompareOp) (left right : Expr)
  /-- Membership, or its negation. -/
  | member (item container : Expr) (negated : Bool)
  /-- A test named after `is`, or its negation. -/
  | test (target : Expr) (name : String) (args : List Expr) (negated : Bool)
  | arith (op : ArithOp) (left right : Expr)
  | neg (operand : Expr)
  /-- One of two values by a condition; null without the second one. -/
  | conditional (value condition : Expr) (otherwise : Option Expr)
deriving Inhabited

/-- The names of the tests. -/
def testNames : List String :=
  ["defined", "undefined", "none", "null", "string", "number", "boolean", "bool", "iterable",
    "callable", "odd", "even", "divisibleby", "lower", "upper", "equalto", "sameas", "sequence",
    "mapping", "true", "false"]

end TextTemplate
