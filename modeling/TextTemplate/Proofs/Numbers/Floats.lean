/-
**The order of the floats of integers.**

A float is compared by its sign, its exponent and its significand. For floats with a leading one these
are parts of its bits, so such floats are ordered as their bits with the sign.

* `unpack_withSign`: what the bits of a float with a leading one stand for;
* `Unpacks`, `Unpacks.compare_eq`: **floats are ordered as their bits with the sign**;
* `compareFloats?_floatOfInt`: **the floats of integers are ordered as the rounded integers**;
* `floatOfInt_eq_iff`: which integers have the same float.
-/

import Mathlib
import TextTemplate.Proofs.Numbers.FloatOrder
import TextTemplate.Proofs.Numbers.Rounding

namespace TextTemplate

open Float.Model (Format UnpackedFloat)
open Float.Model.UnpackedFloat

/-! ### Bits and their parts -/

theorem toNat_append {v w : Nat} (high : BitVec v) (low : BitVec w) :
    (high ++ low).toNat = high.toNat * 2 ^ w + low.toNat := by
  rw [BitVec.toNat_append, ← Nat.shiftLeft_add_eq_or_of_lt low.isLt, Nat.shiftLeft_eq]

/-- The sign of a number. -/
def signOf (negative : Bool) : Sign :=
  if negative then .negative else .positive

/-- The bits of a float, in three parts. -/
theorem ofNat_eq_packComponents {bits : Nat} (small : bits < 2 ^ 63) (negative : Bool) :
    (UInt64.ofNat (if negative then bits + Nat.pow 2 63 else bits)).toBitVec =
      packComponents .binary64 (signOf negative) (BitVec.ofNat 11 (bits / 2 ^ 52))
        (BitVec.ofNat 52 bits) := by
  have whole := Nat.div_add_mod bits (2 ^ 52)
  apply BitVec.eq_of_toNat_eq
  unfold packComponents
  rw [toNat_append, toNat_append, UInt64.toNat_toBitVec, UInt64.toNat_ofNat', BitVec.toNat_ofNat,
    BitVec.toNat_ofNat, Nat.pow_eq, Nat.mod_eq_of_lt (a := bits / 2 ^ 52) (by omega)]
  cases negative with
  | false =>
    show bits % 2 ^ 64 = (0 * 2 ^ 11 + bits / 2 ^ 52) * 2 ^ 52 + bits % 2 ^ 52
    omega
  | true =>
    show (bits + 2 ^ 63) % 2 ^ 64 = (1 * 2 ^ 11 + bits / 2 ^ 52) * 2 ^ 52 + bits % 2 ^ 52
    omega

section Parts

variable {exponent : Nat} (least : 1 ≤ exponent) (greatest : exponent < 2047)

include greatest

theorem toNat_exponent : (BitVec.ofNat 11 exponent).toNat = exponent := by
  rw [BitVec.toNat_ofNat]
  exact Nat.mod_eq_of_lt (by omega)

/-- The exponent with all bits is that of the infinities and of what is not a number. -/
theorem exponent_ne_ones : BitVec.ofNat 11 exponent ≠ -1#11 := by
  intro ones
  have field := toNat_exponent greatest
  have value : (-1#11).toNat = 2047 := rfl
  rw [ones] at field
  omega

/-- Unpacking a number and packing it again gives the same bits. -/
theorem pack_unpack_packComponents (sign : Sign) (fraction : BitVec 52) :
    pack .binary64 (unpack .binary64
        (packComponents .binary64 sign (BitVec.ofNat 11 exponent) fraction)) =
      packComponents .binary64 sign (BitVec.ofNat 11 exponent) fraction := by
  have number : @isNaNBits .binary64
      (packComponents .binary64 sign (BitVec.ofNat 11 exponent) fraction) = false := by
    unfold isNaNBits
    rw [unpackExponent_packComponents]
    exact decide_eq_false fun nan => exponent_ne_ones greatest nan.1
  rw [pack_unpack _ (by decide), number, if_neg Bool.false_ne_true]

include least

/-- The exponent zero is that of zero and of the numbers without a leading one. -/
theorem exponent_ne_zeros : BitVec.ofNat 11 exponent ≠ 0#11 := by
  intro zeros
  have field := toNat_exponent greatest
  have value : (0#11).toNat = 0 := rfl
  rw [zeros] at field
  omega

/-- **What an exponent and a fraction stand for**: the fraction gets a leading one. -/
theorem unpack_packComponents (sign : Sign) (fraction : Nat) :
    ∃ positive, unpack .binary64 (packComponents .binary64 sign (BitVec.ofNat 11 exponent)
        (BitVec.ofNat 52 fraction)) =
      .finite sign (2 ^ 52 + fraction % 2 ^ 52) ((exponent : Int) - 1075) positive := by
  have leading : (1#1 ++ BitVec.ofNat 52 fraction).toNat = 2 ^ 52 + fraction % 2 ^ 52 := by
    have one : (1#1).toNat = 1 := rfl
    rw [toNat_append, one, Nat.one_mul, BitVec.toNat_ofNat]
  have bias : Format.binary64.exponentBias = 1023 := rfl
  refine ⟨Nat.add_pos_left (Nat.two_pow_pos 52) _, ?_⟩
  unfold unpack
  simp only [unpackMantissa_packComponents, unpackExponent_packComponents,
    unpackSign_packComponents, Sign.ofBitVec_toBitVec]
  rw [if_neg (exponent_ne_ones greatest), if_neg (exponent_ne_zeros least greatest)]
  simp only [leading, toNat_exponent greatest, bias]
  rfl

end Parts

section Finite

variable {bits : Nat} (low : 2 ^ 52 ≤ bits) (high : bits < infinityBits)

include low high

theorem exponent_bounds : 1 ≤ bits / 2 ^ 52 ∧ bits / 2 ^ 52 < 2047 := by
  unfold infinityBits at high
  rw [Nat.pow_eq] at high
  omega

/-- **What the bits of a float with a leading one stand for.** -/
theorem unpack_withSign (negative : Bool) :
    ∃ positive, (withSign negative bits).toModel.unpack =
      .finite (signOf negative) (2 ^ 52 + bits % 2 ^ 52) ((bits / 2 ^ 52 : Nat) - 1075) positive := by
  obtain ⟨least, greatest⟩ := exponent_bounds low high
  show ∃ positive, unpack .binary64 (pack .binary64 (unpack .binary64
    (UInt64.ofNat (if negative then bits + Nat.pow 2 63 else bits)).toBitVec)) = _
  rw [ofNat_eq_packComponents (by omega), pack_unpack_packComponents greatest]
  exact unpack_packComponents least greatest (signOf negative) bits

end Finite

/-! ### The order of bits -/

/-- **What a float is**, by its bits with the sign: zero, or a number with a leading one. -/
inductive Unpacks : UnpackedFloat → Int → Prop
  | zero : Unpacks (.zero .positive) 0
  | positive {bits : Nat} (low : 2 ^ 52 ≤ bits) {nonzero} :
    Unpacks (.finite .positive (2 ^ 52 + bits % 2 ^ 52) ((bits / 2 ^ 52 : Nat) - 1075) nonzero) bits
  | negative {bits : Nat} (low : 2 ^ 52 ≤ bits) {nonzero} :
    Unpacks (.finite .negative (2 ^ 52 + bits % 2 ^ 52) ((bits / 2 ^ 52 : Nat) - 1075) nonzero) (-bits)

/-- Bits are ordered by the exponent first and then by the significand. -/
theorem compare_parts (k l : Nat) :
    (compare ((k / 2 ^ 52 : Nat) - 1075 : Int) ((l / 2 ^ 52 : Nat) - 1075)).then
      (compare (2 ^ 52 + k % 2 ^ 52) (2 ^ 52 + l % 2 ^ 52)) = compare k l := by
  cases exponents : compare ((k / 2 ^ 52 : Nat) - 1075 : Int) ((l / 2 ^ 52 : Nat) - 1075) with
  | lt =>
    have lower := Int.compare_eq_lt.mp exponents
    exact (Nat.compare_eq_lt.mpr (by omega)).symm
  | gt =>
    have higher := Int.compare_eq_gt.mp exponents
    exact (Nat.compare_eq_gt.mpr (by omega)).symm
  | eq =>
    have same := Int.compare_eq_eq.mp exponents
    rw [Ordering.eq_then]
    cases order : compare k l with
    | lt =>
      have lower := Nat.compare_eq_lt.mp order
      exact Nat.compare_eq_lt.mpr (by omega)
    | gt =>
      have higher := Nat.compare_eq_gt.mp order
      exact Nat.compare_eq_gt.mpr (by omega)
    | eq =>
      have equal := Nat.compare_eq_eq.mp order
      exact Nat.compare_eq_eq.mpr (by omega)

theorem compare_natCast (k l : Nat) : compare (k : Int) l = compare k l := by
  cases order : compare k l with
  | lt => exact Int.compare_eq_lt.mpr (Int.ofNat_lt.mpr (Nat.compare_eq_lt.mp order))
  | gt => exact Int.compare_eq_gt.mpr (Int.ofNat_lt.mpr (Nat.compare_eq_gt.mp order))
  | eq => exact Int.compare_eq_eq.mpr (Int.ofNat_inj.mpr (Nat.compare_eq_eq.mp order))

theorem compare_neg_neg (k l : Int) : compare (-k) (-l) = (compare k l).swap := by
  rw [Int.compare_swap]
  cases order : compare l k with
  | lt => exact Int.compare_eq_lt.mpr (Int.neg_lt_neg (Int.compare_eq_lt.mp order))
  | gt => exact Int.compare_eq_gt.mpr (Int.neg_lt_neg (Int.compare_eq_gt.mp order))
  | eq => exact Int.compare_eq_eq.mpr (congrArg _ (Int.compare_eq_eq.mp order).symm)

/-- **Floats are ordered as their bits with the sign.** -/
theorem Unpacks.compare_eq {u v : UnpackedFloat} {k l : Int} (first : Unpacks u k)
    (second : Unpacks v l) : u.compare v = some (compare k l) := by
  cases first with
  | zero =>
    cases second with
    | zero => rfl
    | positive low => exact congrArg some (Int.compare_eq_lt.mpr (by omega)).symm
    | negative low => exact congrArg some (Int.compare_eq_gt.mpr (by omega)).symm
  | positive low =>
    cases second with
    | zero => exact congrArg some (Int.compare_eq_gt.mpr (by omega)).symm
    | positive low' =>
      rw [compare_natCast, ← compare_parts]
      rfl
    | negative low' => exact congrArg some (Int.compare_eq_gt.mpr (by omega)).symm
  | negative low =>
    cases second with
    | zero => exact congrArg some (Int.compare_eq_lt.mpr (by omega)).symm
    | positive low' => exact congrArg some (Int.compare_eq_lt.mpr (by omega)).symm
    | negative low' =>
      rw [compare_neg_neg, compare_natCast, ← compare_parts]
      rfl

/-- A float is one thing only. -/
theorem Unpacks.unique {u : UnpackedFloat} {k l : Int} (first : Unpacks u k) (second : Unpacks u l) :
    k = l := by
  have same : compare k k = compare k l :=
    Option.some.inj ((first.compare_eq first).symm.trans (first.compare_eq second))
  exact Int.compare_eq_eq.mp (same.symm.trans (Int.compare_eq_eq.mpr rfl))

/-- **A comparison of such floats compares their bits with the sign.** -/
theorem Unpacks.compareFloats?_eq {x y : Float} {k l : Int} (first : Unpacks x.toModel.unpack k)
    (second : Unpacks y.toModel.unpack l) : compareFloats? x y = some (compare k l) :=
  (TextTemplate.compareFloats?_eq x y).trans (first.compare_eq second)

/-! ### The floats of integers -/

section Integers

variable {n m : Int}

theorem unpacks_floatOfInt (small : n.natAbs < 2 ^ 64) :
    Unpacks (floatOfInt n).toModel.unpack (roundedBits n) := by
  by_cases zero : n = 0
  · subst zero
    exact .zero
  · obtain ⟨low, high⟩ := nearestBits_bounds (Int.natAbs_pos.mpr zero) small
    unfold floatOfInt nearest roundedBits
    by_cases negative : n < 0
    · obtain ⟨positive, unpacked⟩ := unpack_withSign low high true
      rw [decide_eq_true negative, if_pos negative, unpacked]
      exact .negative low
    · obtain ⟨positive, unpacked⟩ := unpack_withSign low high false
      rw [decide_eq_false negative, if_neg negative, unpacked]
      exact .positive low

/-- **The floats of integers are ordered as the rounded integers.** -/
theorem compareFloats?_floatOfInt (small : n.natAbs < 2 ^ 64) (small' : m.natAbs < 2 ^ 64) :
    compareFloats? (floatOfInt n) (floatOfInt m) = some (compare (roundedBits n) (roundedBits m)) :=
  (unpacks_floatOfInt small).compareFloats?_eq (unpacks_floatOfInt small')

/-- The float of an integer has the rounded bits, and the sign in front. -/
theorem floatOfInt_eq_withSign (small : n.natAbs < 2 ^ 64) :
    floatOfInt n = withSign (roundedBits n < 0) (roundedBits n).natAbs := by
  unfold floatOfInt nearest roundedBits
  by_cases negative : n < 0
  · have bounds := nearestBits_bounds (n := n.natAbs) (by omega) small
    rw [if_pos negative, Int.natAbs_neg, Int.natAbs_natCast, decide_eq_true negative,
      decide_eq_true (by omega)]
  · rw [if_neg negative, Int.natAbs_natCast, decide_eq_false negative, decide_eq_false (by omega)]

/-- **Integers have the same float if they are rounded to the same bits.** -/
theorem floatOfInt_eq_iff (small : n.natAbs < 2 ^ 64) (small' : m.natAbs < 2 ^ 64) :
    floatOfInt n = floatOfInt m ↔ roundedBits n = roundedBits m := by
  constructor
  · intro same
    have unpacked := unpacks_floatOfInt small
    rw [same] at unpacked
    exact unpacked.unique (unpacks_floatOfInt small')
  · intro same
    rw [floatOfInt_eq_withSign small, floatOfInt_eq_withSign small', same]

end Integers

end TextTemplate
