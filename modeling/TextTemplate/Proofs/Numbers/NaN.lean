/-
**Floats that are numbers.**

An operation unpacks the bits of its operands and packs its result. Only what is not a number is packed
into the bits of what is not a number, so it is enough to look at the unpacked floats.

* `isNaN_unpack_pack`: packing keeps numbers numbers;
* `isNaN_neg`, `isNaN_div`: negation keeps them, and so does division by a number that is finite and
  not zero;
* `isNaN_nearest`: **rounding a quotient gives a number**, an infinity if the quotient is too large.
-/

import Mathlib
import TextTemplate.Proofs.Numbers.Floats

namespace TextTemplate

open Float.Model (Format UnpackedFloat)
open Float.Model.UnpackedFloat

/-! ### Bits -/

theorem isNaN_unpack (bits : BitVec Format.binary64.numBits) :
    (unpack .binary64 bits).isNaN = isNaNBits bits := by
  unfold unpack isNaNBits
  simp only
  split
  · rename_i ones
    split
    · rename_i zero
      exact (decide_eq_false fun nan => nan.2 zero).symm
    · rename_i other
      exact (decide_eq_true ⟨ones, other⟩).symm
  · rename_i other
    have number : false = decide (unpackExponent bits = -1#11 ∧ unpackMantissa bits ≠ 0#52) :=
      (decide_eq_false fun nan => other nan.1).symm
    split
    · split
      · exact number
      · exact number
    · exact number

/-- The exponent and the fraction decide what is not a number. -/
theorem isNaNBits_packComponents (sign : Sign) (exponent : BitVec 11) (fraction : BitVec 52) :
    @isNaNBits .binary64 (packComponents .binary64 sign exponent fraction) =
      decide (exponent = -1#11 ∧ fraction ≠ 0#52) := by
  unfold isNaNBits
  rw [unpackExponent_packComponents, unpackMantissa_packComponents]

/-- **Packing keeps numbers numbers.** -/
theorem isNaN_unpack_pack {u : UnpackedFloat} (number : u.isNaN = false) :
    (unpack .binary64 (pack .binary64 u)).isNaN = false := by
  rw [isNaN_unpack]
  cases u with
  | notANumber => cases number
  | infinity sign =>
    exact (isNaNBits_packComponents ..).trans (decide_eq_false fun nan => nan.2 rfl)
  | zero sign =>
    exact (isNaNBits_packComponents ..).trans (decide_eq_false fun nan => nan.2 rfl)
  | finite sign mantissa exponent =>
    unfold pack
    simp only
    split
    · exact (isNaNBits_packComponents ..).trans (decide_eq_false fun nan => nan.2 rfl)
    · rename_i small
      split
      · refine (isNaNBits_packComponents ..).trans (decide_eq_false fun nan => ?_)
        refine exponent_ne_ones ?_ nan.1
        have bits : (2 : Nat) ^ Format.binary64.exponentBits = 2048 := rfl
        omega
      · exact (isNaNBits_packComponents ..).trans (decide_eq_false fun nan => absurd nan.1 (by decide))

/-! ### Operations -/

section Unpacked

variable {u : UnpackedFloat}

theorem unpacked_isNaN_neg (u : UnpackedFloat) : u.neg.isNaN = u.isNaN := by
  cases u with
  | notANumber => rfl
  | infinity sign => rfl
  | zero sign => rfl
  | finite sign mantissa exponent => rfl

/-- What is not a number comes of zero over zero or of two infinities. -/
theorem unpacked_isNaN_div (number : u.isNaN = false) (sign : Sign) (mantissa : Nat) (exponent : Int)
    (positive : 0 < mantissa) :
    (div .binary64 u (.finite sign mantissa exponent positive)).isNaN = false := by
  cases u with
  | notANumber => cases number
  | infinity sign' => rfl
  | zero sign' => rfl
  | finite sign' mantissa' exponent' =>
    simp only [div, roundWithAccuracy]
    split
    · rfl
    · rfl

theorem unpacked_isNaN_of_isFinite (finite : u.isFinite = true) : u.isNaN = false := by
  cases u with
  | notANumber => cases finite
  | infinity sign => rfl
  | zero sign => rfl
  | finite sign mantissa exponent => rfl

end Unpacked

section Floats

variable {x y : Float}

theorem isNaN_neg (number : x.isNaN = false) : (-x).isNaN = false :=
  isNaN_unpack_pack ((unpacked_isNaN_neg x.toModel.unpack).trans number)

/-- A number of either sign. -/
theorem isNaN_signed (negative : Bool) (number : x.isNaN = false) :
    (if negative then -x else x).isNaN = false := by
  cases negative with
  | false => exact number
  | true => exact isNaN_neg number

/-- **A quotient is a number**, if the divisor is finite and not zero. -/
theorem isNaN_div (number : x.isNaN = false) {sign : Sign} {mantissa : Nat} {exponent : Int}
    {positive : 0 < mantissa} (divisor : y.toModel.unpack = .finite sign mantissa exponent positive) :
    (x / y).isNaN = false := by
  refine isNaN_unpack_pack ?_
  rw [divisor]
  exact unpacked_isNaN_div number sign mantissa exponent positive

theorem isNaN_of_isFinite (finite : x.isFinite = true) : x.isNaN = false :=
  unpacked_isNaN_of_isFinite (u := x.toModel.unpack) finite

end Floats

/-! ### Rounding -/

theorem nearestBits_le_infinityBits (num den : Nat) : nearestBits num den ≤ infinityBits := by
  unfold nearestBits
  split
  · exact Nat.zero_le _
  · exact Nat.min_le_left _ _

/-- The bits up to those of the infinity are bits of numbers. -/
theorem isNaN_withSign (negative : Bool) {bits : Nat} (le : bits ≤ infinityBits) :
    (withSign negative bits).isNaN = false := by
  rw [infinityBits, Nat.pow_eq] at le
  refine isNaN_unpack_pack ?_
  rw [ofNat_eq_packComponents (by omega), isNaN_unpack, isNaNBits_packComponents]
  refine decide_eq_false fun nan => nan.2 ?_
  -- only the bits of the infinity itself have the greatest exponent
  have exponent := congrArg BitVec.toNat nan.1
  have ones : (-1#11).toNat = 2047 := rfl
  rw [BitVec.toNat_ofNat, ones] at exponent
  have infinite : bits = 2047 * 2 ^ 52 := by omega
  rw [infinite]
  rfl

/-- **Rounding a quotient gives a number.** -/
theorem isNaN_nearest (negative : Bool) (num den : Nat) : (nearest negative num den).isNaN = false :=
  isNaN_withSign negative (nearestBits_le_infinityBits num den)

end TextTemplate
