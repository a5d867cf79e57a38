/-
**The order of floats.**

Two floats are compared by what their bits stand for. Only what is not a number is in no order, and
the two zeros are the only floats that are equal without being the same.

* `compareFloats?_eq`: the order of two floats is that of what their bits stand for;
* `compareFloats?_swap`: **the order the other way round is the reverse one**;
* `compareFloats?_self`: a number is equal to itself;
* `floatText_eq_of_beq`: **equal floats have the same text**.
-/

import Mathlib
import TextTemplate.Value.Order

namespace TextTemplate

open Float.Model (UnpackedFloat)
open Float.Model.UnpackedFloat

/-! ### The order the other way round -/

theorem compare_sign_swap (s t : Sign) : compare t s = (compare s t).swap := by
  cases s <;> cases t <;> rfl

/-- Exponents, and significands where the exponents are the same. -/
theorem compare_parts_swap (e f : Int) (m n : Nat) :
    (compare f e).then (compare n m) = ((compare e f).then (compare m n)).swap := by
  have exponents : compare f e = (compare e f).swap := Std.OrientedCmp.eq_swap
  have significands : compare n m = (compare m n).swap := Std.OrientedCmp.eq_swap
  rw [Ordering.swap_then, exponents, significands]

theorem unpacked_compare_swap (u v : UnpackedFloat) : v.compare u = (u.compare v).map Ordering.swap := by
  cases u with
  | notANumber =>
    cases v with
    | infinity t => cases t <;> rfl
    | finite t => cases t <;> rfl
    | _ => rfl
  | infinity s =>
    cases v with
    | infinity t => exact congrArg some (compare_sign_swap s t)
    | finite t => cases s <;> cases t <;> rfl
    | _ => cases s <;> rfl
  | zero s =>
    cases v with
    | infinity t => cases t <;> rfl
    | finite t => cases t <;> rfl
    | _ => rfl
  | finite s m e =>
    cases v with
    | infinity t => cases s <;> cases t <;> rfl
    | finite t n f =>
      cases s <;> cases t
      · exact congrArg some (congrArg Ordering.swap (compare_parts_swap e f m n))
      · rfl
      · rfl
      · exact congrArg some (compare_parts_swap e f m n)
    | _ => cases s <;> rfl

theorem unpacked_compare_self {u : UnpackedFloat} (number : u.isNaN = false) :
    u.compare u = some .eq := by
  cases u with
  | notANumber => cases number
  | infinity s => cases s <;> rfl
  | zero s => rfl
  | finite s m e =>
    have equal : (compare e e).then (compare m m) = .eq := by
      rw [Int.compare_eq_eq.mpr rfl, Nat.compare_eq_eq.mpr rfl]
      rfl
    cases s with
    | positive => exact congrArg some equal
    | negative => exact congrArg some (congrArg Ordering.swap equal)

/-! ### Floats -/

section Floats

variable (x y : Float)

theorem lt_iff_unpacked : x < y ↔ x.toModel.unpack.compare y.toModel.unpack = some .lt := by
  show decide ((x.toModel.unpack.compare y.toModel.unpack == some .lt) = true) = true ↔ _
  rw [decide_eq_true_iff, beq_iff_eq]

theorem beq_iff_unpacked :
    (x == y) = true ↔ x.toModel.unpack.compare y.toModel.unpack = some .eq := by
  show (x.toModel.unpack.compare y.toModel.unpack == some .eq) = true ↔ _
  rw [beq_iff_eq]

/-- **The order of two floats is that of what their bits stand for.** -/
theorem compareFloats?_eq : compareFloats? x y = x.toModel.unpack.compare y.toModel.unpack := by
  unfold compareFloats?
  simp only [lt_iff_unpacked, beq_iff_unpacked]
  rw [unpacked_compare_swap x.toModel.unpack y.toModel.unpack]
  cases x.toModel.unpack.compare y.toModel.unpack with
  | none => rfl
  | some ordering => cases ordering <;> rfl

/-- **The order the other way round is the reverse one.** -/
theorem compareFloats?_swap : compareFloats? y x = (compareFloats? x y).map Ordering.swap := by
  rw [compareFloats?_eq, compareFloats?_eq]
  exact unpacked_compare_swap _ _

theorem compareFloats?_eq_eq_iff : compareFloats? x y = some .eq ↔ (x == y) = true := by
  rw [compareFloats?_eq]
  exact (beq_iff_unpacked x y).symm

end Floats

variable {x y : Float}

/-- A number is equal to itself. -/
theorem compareFloats?_self (number : x.isNaN = false) : compareFloats? x x = some .eq :=
  (compareFloats?_eq x x).trans (unpacked_compare_self number)

theorem eq_of_bits (same : x.toModel.toBits.toBitVec = y.toModel.toBits.toBitVec) : x = y := by
  obtain ⟨⟨k, valid⟩⟩ := x
  obtain ⟨⟨l, valid'⟩⟩ := y
  obtain rfl : k = l := UInt64.toBitVec_inj.mp same
  rfl

/-- **Equal floats have the same text**: they are the same, or the two zeros. -/
theorem floatText_eq_of_beq (equal : (x == y) = true) : floatText x = floatText y := by
  have zero : (0.0 : Float).toModel.toBits.toBitVec = packedZero .binary64 .positive := by
    decide +kernel
  have minusZero : (-0.0 : Float).toModel.toBits.toBitVec = packedZero .binary64 .negative := by
    decide +kernel
  have zeros : floatText 0.0 = floatText (-0.0) := by decide +kernel
  obtain ⟨-, -, same | ⟨positive, negative⟩ | ⟨negative, positive⟩⟩ :=
    (unpack_beq_unpack_iff x.toModel.valid y.toModel.valid).mp equal
  · rw [eq_of_bits same]
  · rw [eq_of_bits (positive.trans zero.symm), eq_of_bits (negative.trans minusZero.symm), zeros]
  · rw [eq_of_bits (negative.trans minusZero.symm), eq_of_bits (positive.trans zero.symm), zeros]

end TextTemplate
