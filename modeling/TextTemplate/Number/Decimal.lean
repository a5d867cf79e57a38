/-
**Decimal numbers and the shortest one that reads back.**

* `Decimal.shortest` is the decimal with the fewest digits that a reader rounds back to a given
  float, and of those the nearest one;
* `Decimal.positional` and `Decimal.scientific` are its two written forms;
* `Decimal.toFloat` reads a decimal as the nearest float.
-/

import TextTemplate.Number.Binary
import TextTemplate.Text.Basic

namespace TextTemplate

/-- The number `digits · 10 ^ exponent`. -/
structure Decimal where
  digits : Nat
  exponent : Int
deriving DecidableEq, Repr

namespace Decimal

/-- Which of two equally near decimals is taken. -/
inductive Tie where
  | up
  | even
deriving DecidableEq, Repr

/-- The numbers that a reader rounds to one float, as a quotient over a common denominator: the
float itself is `middle / unit`, and the ends belong to the range if `closed`. -/
structure Rounding where
  low : Nat
  middle : Nat
  high : Nat
  unit : Nat
  closed : Bool

/-- The range of the numbers that round to a float. It ends half-way to the neighbours, and the
lower neighbour of a power of two is only half as far away. -/
def roundingOf (b : Binary) : Rounding :=
  let below := if b.mantissa = Nat.pow 2 52 ∧ leastExponent < b.exponent then 1 else 2
  let (scale, unit) := scaleByPower (b.exponent - 2) 1 1
  { low := (4 * b.mantissa - below) * scale
    middle := 4 * b.mantissa * scale
    high := (4 * b.mantissa + 2) * scale
    unit
    closed := b.mantissa % 2 = 0 }

/-- The least exponent `p` from `guess` on with `middle / unit < 10 ^ p`. -/
def pointPlace (middle unit : Nat) : (steps : Nat) → (guess : Int) → Int
  | 0, guess => guess
  | steps + 1, guess =>
    let reached :=
      if 0 ≤ guess then unit * Nat.pow 10 guess.toNat ≤ middle
      else unit ≤ middle * Nat.pow 10 (-guess).toNat
    if reached then pointPlace middle unit steps (guess + 1) else guess

/-- The multiple of `10 ^ exponent` next to the middle of a range that lies inside of it, if there
is one; of two the nearer one. -/
def onGrid? (tie : Tie) (range : Rounding) (exponent : Int) : Option Nat :=
  let (scale, unit) :=
    if 0 ≤ exponent then (1, range.unit * Nat.pow 10 exponent.toNat)
    else (Nat.pow 10 (-exponent).toNat, range.unit)
  let middle := range.middle * scale
  let inside (digits : Nat) : Bool :=
    if range.closed then
      range.low * scale ≤ digits * unit && digits * unit ≤ range.high * scale
    else range.low * scale < digits * unit && digits * unit < range.high * scale
  let lower := middle / unit
  let rest := middle % unit
  let preferUpper := 2 * rest > unit ||
    (2 * rest == unit && (tie == .up || lower % 2 == 1))
  match inside lower, inside (lower + 1) with
  | true, true => some (if preferUpper then lower + 1 else lower)
  | true, false => some lower
  | false, true => some (lower + 1)
  | false, false => none

/-- Looks for a decimal in a range on finer and finer grids, the first of them `10 ^ exponent`. -/
def search (tie : Tie) (range : Rounding) : (steps : Nat) → (exponent : Int) → Decimal
  | 0, exponent => ⟨range.middle, exponent⟩
  | steps + 1, exponent =>
    match onGrid? tie range exponent with
    | some digits => ⟨digits, exponent⟩
    | none => search tie range steps (exponent - 1)

/-- The same number without zeros at the end of its digits. -/
def normalise : (steps : Nat) → Decimal → Decimal
  | 0, d => d
  | steps + 1, d =>
    if d.digits ≠ 0 ∧ d.digits % 10 = 0 then normalise steps ⟨d.digits / 10, d.exponent + 1⟩ else d

/-- The decimal with the fewest digits that a reader rounds to the given number, which must not be
zero. Seventeen digits are always enough. -/
def shortest (tie : Tie) (b : Binary) : Decimal :=
  let range := roundingOf b
  let guess : Int := ((range.middle.log2 : Int) - range.unit.log2 - 1) * 30103 / 100000 - 1
  let place := pointPlace range.middle range.unit 5 guess
  normalise 17 (search tie range 18 (place - 1))

/-- The decimal digits of a number. -/
def digitText (n : Nat) : Text :=
  Nat.toDigits 10 n

/-- The place of the decimal point after the first digit: `d` is `0.ddd · 10 ^ d.place`. -/
def place (d : Decimal) : Int :=
  (digitText d.digits).length + d.exponent

/-- The decimal without an exponent; a point only where there are digits behind it. -/
def positional (d : Decimal) : Text :=
  let digits := digitText d.digits
  if 0 ≤ d.exponent then digits ++ List.replicate d.exponent.toNat '0'
  else if 0 < d.place then digits.take d.place.toNat ++ '.' :: digits.drop d.place.toNat
  else '0' :: '.' :: List.replicate (-d.place).toNat '0' ++ digits

/-- The decimal with one digit before the point and a signed exponent. -/
def scientific (d : Decimal) : Text :=
  let exponent := d.place - 1
  let sign := if exponent < 0 then '-' else '+'
  let mantissa :=
    match digitText d.digits with
    | first :: second :: rest => first :: '.' :: second :: rest
    | digits => digits
  mantissa ++ 'e' :: sign :: digitText exponent.natAbs

/-- The float nearest to a decimal with a sign. Beyond the range of the floats the exponent no
longer matters. -/
def toFloat (negative : Bool) (d : Decimal) : Float :=
  if d.digits = 0 then withSign negative 0
  else if 400 < d.place then withSign negative infinityBits
  else if d.place < -400 then withSign negative 0
  else if 0 ≤ d.exponent then nearest negative (d.digits * Nat.pow 10 d.exponent.toNat) 1
  else nearest negative d.digits (Nat.pow 10 (-d.exponent).toNat)

end Decimal
end TextTemplate
