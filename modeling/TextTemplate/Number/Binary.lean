/-
**Finite floats as binary fractions.**

* `Binary.ofFloat?` decodes a finite float into a sign, a mantissa and a power of two;
* `nearest` is the float nearest to a quotient of natural numbers, a tie going to the even mantissa;
* `Binary.truncate`, `roundHalfAway` and `remainder` are exact, as they work on the decoded numbers.
-/

namespace TextTemplate

/-- A finite number `± mantissa · 2 ^ exponent`. -/
structure Binary where
  negative : Bool
  mantissa : Nat
  exponent : Int
deriving DecidableEq, Repr

/-- The bits of positive infinity; the bits of the finite floats from zero on count up to them. -/
def infinityBits : Nat :=
  2047 * Nat.pow 2 52

/-- The least exponent of a float, that of the subnormal numbers. -/
def leastExponent : Int :=
  -1074

/-- The quotient of two natural numbers rounded to the nearest one, a tie going to the even one. -/
def roundedQuotient (num den : Nat) : Nat :=
  let quotient := num / den
  let twice := 2 * (num % den)
  if twice > den || (twice == den && quotient % 2 == 1) then quotient + 1 else quotient

/-- The two numbers scaled so that their quotient is multiplied by `2 ^ power`. -/
def scaleByPower (power : Int) (num den : Nat) : Nat × Nat :=
  if 0 ≤ power then (num * Nat.pow 2 power.toNat, den)
  else (num, den * Nat.pow 2 (-power).toNat)

/-- The greatest exponent `e` with `2 ^ e ≤ num / den`, for positive numbers. -/
def quotientLog (num den : Nat) : Int :=
  let guess : Int := (num.log2 : Int) - den.log2
  let (scaled, unit) := scaleByPower (-guess) num den
  if unit ≤ scaled then guess else guess - 1

/-- The bits of the float nearest to `num / den`. -/
def nearestBits (num den : Nat) : Nat :=
  if num = 0 then 0
  else
    let exponent := max (quotientLog num den - 52) leastExponent
    let (scaled, unit) := scaleByPower (-exponent) num den
    min infinityBits
      ((exponent - leastExponent).toNat * Nat.pow 2 52 + roundedQuotient scaled unit)

/-- The float with the given sign and the bits of a number that is not negative. -/
def withSign (negative : Bool) (bits : Nat) : Float :=
  Float.ofBits (UInt64.ofNat (if negative then bits + Nat.pow 2 63 else bits))

/-- The float nearest to `± num / den`; a tie goes to the even mantissa and what is too large is
infinite. -/
def nearest (negative : Bool) (num den : Nat) : Float :=
  withSign negative (nearestBits num den)

/-- The float nearest to an integer. -/
def floatOfInt (n : Int) : Float :=
  nearest (n < 0) n.natAbs 1

namespace Binary

/-- The parts of a finite float; `none` for the infinities and for what is not a number. -/
def ofFloat? (x : Float) : Option Binary :=
  let bits : Nat := x.toBits.toNat
  let field : Nat := bits / Nat.pow 2 52 % Nat.pow 2 11
  let fraction : Nat := bits % Nat.pow 2 52
  let negative : Bool := Nat.pow 2 63 ≤ bits
  if field = 2047 then none
  else if field = 0 then some ⟨negative, fraction, leastExponent⟩
  else some ⟨negative, fraction + Nat.pow 2 52, leastExponent + (field - 1 : Nat)⟩

/-- The number of whole units, and whether anything is left, without the sign. -/
def wholePart (b : Binary) : Nat × Bool :=
  let (num, den) := scaleByPower b.exponent b.mantissa 1
  (num / den, num % den == 0)

/-- Whether a number is an integer. -/
def isInteger (b : Binary) : Bool :=
  b.wholePart.2

/-- The integer toward zero. -/
def truncate (b : Binary) : Int :=
  if b.negative then -(b.wholePart.1 : Int) else b.wholePart.1

/-- The float of a binary number. -/
def toFloat (b : Binary) : Float :=
  let (num, den) := scaleByPower b.exponent b.mantissa 1
  nearest b.negative num den

end Binary

/-- The integer nearest to a float, a half going away from zero; infinities and what is not a number
are kept. -/
def roundHalfAway (x : Float) : Float :=
  match Binary.ofFloat? x with
  | none => x
  | some b =>
    let (num, den) := scaleByPower b.exponent b.mantissa 1
    nearest b.negative ((2 * num + den) / (2 * den)) 1

/-- The exact remainder of a division that rounds its quotient toward zero; the sign is that of the
dividend. -/
def remainder (x y : Float) : Float :=
  match Binary.ofFloat? x, Binary.ofFloat? y with
  | some a, some b =>
    let low := min a.exponent b.exponent
    let dividend := a.mantissa * Nat.pow 2 (a.exponent - low).toNat
    let divisor := b.mantissa * Nat.pow 2 (b.exponent - low).toNat
    if divisor = 0 then 0.0 / 0.0
    else Binary.toFloat ⟨a.negative, dividend % divisor, low⟩
  | some _, none => if y.isNaN then y else x
  | none, _ => 0.0 / 0.0

/-- The base raised to a natural power by repeated squaring, each product rounded. -/
def squaringPower (base : Float) : (steps n : Nat) → Float → Float
  | 0, _, product => product
  | steps + 1, n, product =>
    let product := if n % 2 = 1 then product * base else product
    if n / 2 = 0 then product else squaringPower (base * base) steps (n / 2) product

/-- An integer power of a float by repeated squaring; a negative power is the reciprocal of the
positive one. -/
def integerPower (base : Float) (n : Int) : Float :=
  let power := squaringPower base (n.natAbs + 1) n.natAbs 1.0
  if n < 0 then 1.0 / power else power

end TextTemplate
