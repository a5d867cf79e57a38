/-
**Arguments of filters and tests.**

An argument that is missing or has no number in it counts as a default value.
-/

import TextTemplate.Value.Text

namespace TextTemplate.Filter

/-- The integer of an argument. -/
def integerArg (args : List Value) (index : Nat) (default : Int64) : Int64 :=
  ((args[index]?).bind Value.asInteger?).getD default

/-- The count of an argument; negative numbers count as zero. -/
def countArg (args : List Value) (index : Nat) (default : Int64) : Nat :=
  (integerArg args index default).toInt.toNat

/-- The truth value of an argument, false if it is missing. -/
def flagArg (args : List Value) (index : Nat) : Bool :=
  ((args[index]?).map Value.truthy).getD false

/-- The text of an argument. -/
def textArg (args : List Value) (index : Nat) (default : Text) : Text :=
  ((args[index]?).map Value.text).getD default

end TextTemplate.Filter
