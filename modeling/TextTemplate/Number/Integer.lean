/-
**Integers of sixty-four bits.**

* `checked?` gives an integer as a word if it fits; the checked operations are exact or absent;
* `saturate` takes an integer to the nearest word, `ofFloat` a float by way of its whole part;
* `range` is an arithmetic progression, one term after the other.
-/

import TextTemplate.Number.Binary

namespace TextTemplate.Integer

/-- The least word. -/
def least : Int := -9223372036854775808

/-- The greatest word. -/
def greatest : Int := 9223372036854775807

/-- An integer as a word, if it is between the least and the greatest one. -/
def checked? (n : Int) : Option Int64 :=
  if least ≤ n ∧ n ≤ greatest then some (Int64.ofInt n) else none

/-- A checked word is the integer itself. -/
theorem toInt_of_checked? {n : Int} {m : Int64} (given : checked? n = some m) : m.toInt = n := by
  unfold checked? at given
  split at given
  · rename_i fits
    obtain rfl := Option.some.inj given
    unfold least greatest at fits
    exact Int64.toInt_ofInt_of_le (by omega) (by omega)
  · cases given

/-- The word nearest to an integer. -/
def saturate (n : Int) : Int64 :=
  Int64.ofInt (max least (min greatest n))

/-- The exact sum, if it is a word. -/
def add? (a b : Int64) : Option Int64 :=
  checked? (a.toInt + b.toInt)

/-- The exact difference, if it is a word. -/
def sub? (a b : Int64) : Option Int64 :=
  checked? (a.toInt - b.toInt)

/-- The exact product, if it is a word. -/
def mul? (a b : Int64) : Option Int64 :=
  checked? (a.toInt * b.toInt)

/-- The exact negation, if it is a word. -/
def neg? (a : Int64) : Option Int64 :=
  checked? (-a.toInt)

/-- The remainder with the sign of the dividend. There is none for the divisor zero, nor where the
quotient is no word: the least word divided by minus one. -/
def rem? (a b : Int64) : Option Int64 :=
  if b = 0 then none
  else if (checked? (a.toInt.tdiv b.toInt)).isSome then checked? (a.toInt.tmod b.toInt)
  else none

/-- The word of a float: its whole part, or the nearest word; zero for what is not a number. -/
def ofFloat (x : Float) : Int64 :=
  match Binary.ofFloat? x with
  | some b => saturate b.truncate
  | none => if x.isNaN then 0 else if x < 0.0 then saturate least else saturate greatest

/-- The float nearest to a word. -/
def toFloat (a : Int64) : Float :=
  floatOfInt a.toInt

/-! ### Progressions -/

/-- Whether the terms of a progression have not yet reached its end. -/
def isAhead (stop step current : Int64) : Bool :=
  (0 < step && current < stop) || (step < 0 && stop < current)

/-- How far the end of a progression is away, in the direction of its step. -/
def distance (stop step current : Int64) : Nat :=
  if 0 < step then (stop.toInt - current.toInt).toNat else (current.toInt - stop.toInt).toNat

/-- Each step brings a progression closer to its end. -/
theorem distance_lt {stop step current next : Int64} (ahead : isAhead stop step current = true)
    (stepped : add? current step = some next) :
    distance stop step next < distance stop step current := by
  have moved : next.toInt = current.toInt + step.toInt := toInt_of_checked? stepped
  simp only [isAhead, Bool.or_eq_true, Bool.and_eq_true, decide_eq_true_eq,
    Int64.lt_iff_toInt_lt, Int64.toInt_zero] at ahead
  unfold distance
  simp only [Int64.lt_iff_toInt_lt, Int64.toInt_zero]
  split <;> omega

/-- The terms of a progression from `current` on, behind those `passed` before, of which the latest
comes first. The progression ends where `stop` is reached, or where the next term is no word. -/
def rangeFrom (stop step current : Int64) (passed : List Int64) : List Int64 :=
  if _ : isAhead stop step current = true then
    match _ : add? current step with
    | some next => rangeFrom stop step next (current :: passed)
    | none => (current :: passed).reverse
  else passed.reverse
termination_by distance stop step current
decreasing_by exact distance_lt ‹_› ‹_›

/-- The progression `start`, `start + step`, … up to but without `stop`. -/
def range (start stop step : Int64) : List Int64 :=
  rangeFrom stop step start []

end TextTemplate.Integer
