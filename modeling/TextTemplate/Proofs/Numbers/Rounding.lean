/-
**Rounding integers to floats.**

The bits of a float are its exponent and, below that, its significand without the leading one. So they
grow with the number, also where a rounded significand goes over into the next exponent.

* `nearestBits_one`: the bits of the float nearest to a natural number;
* `nearestBits_mono`: **rounding keeps the order**;
* `nearestBits_lt`: **up to the fifty-third power of two, different numbers have different bits**;
* `roundedBits`: the bits of the float nearest to an integer, with the sign of the integer.
-/

import Mathlib.Algebra.Group.Nat.Defs
import TextTemplate.Number.Integer

namespace TextTemplate

/-! ### Rounded quotients -/

section Quotients

variable {num num' den : Nat}

theorem le_roundedQuotient (num den : Nat) : num / den ≤ roundedQuotient num den := by
  simp only [roundedQuotient]
  split
  · exact Nat.le_succ _
  · exact Nat.le_refl _

theorem roundedQuotient_le (num den : Nat) : roundedQuotient num den ≤ num / den + 1 := by
  simp only [roundedQuotient]
  split
  · exact Nat.le_refl _
  · exact Nat.le_succ _

theorem roundedQuotient_one (num : Nat) : roundedQuotient num 1 = num := by
  simp [roundedQuotient, Nat.mod_one]

/-- A greater number has no lesser quotient, rounded. -/
theorem roundedQuotient_mono (den : Nat) (le : num ≤ num') :
    roundedQuotient num den ≤ roundedQuotient num' den := by
  have quotients : num / den ≤ num' / den := Nat.div_le_div_right le
  by_cases same : num / den = num' / den
  · -- with the same quotient, the remainder is no lesser
    have whole := Nat.div_add_mod num den
    have whole' := Nat.div_add_mod num' den
    rw [same] at whole
    have rests : num % den ≤ num' % den := by omega
    simp only [roundedQuotient, same, Bool.or_eq_true, decide_eq_true_eq, Bool.and_eq_true,
      beq_iff_eq]
    split
    · rename_i up
      exact Nat.le_of_eq (if_pos (by omega)).symm
    · split <;> omega
  · have up := roundedQuotient_le num den
    have down := le_roundedQuotient num' den
    omega

end Quotients

/-! ### The bits of natural numbers -/

/-- The rounded significand of the float nearest to a natural number, with its leading one. -/
def significand (n : Nat) : Nat :=
  roundedQuotient (n * 2 ^ (52 - n.log2)) (2 ^ (n.log2 - 52))

section Bits

variable {m n : Nat}

/-- A significand has fifty-three digits, or it is rounded up to the least number with one more. -/
theorem significand_bounds (positive : 0 < n) :
    2 ^ 52 ≤ significand n ∧ significand n ≤ 2 ^ 53 := by
  have low : 2 ^ n.log2 ≤ n := Nat.log2_self_le (Nat.pos_iff_ne_zero.mp positive)
  have high : n < 2 ^ (n.log2 + 1) := Nat.lt_log2_self
  have down := le_roundedQuotient (n * 2 ^ (52 - n.log2)) (2 ^ (n.log2 - 52))
  have up := roundedQuotient_le (n * 2 ^ (52 - n.log2)) (2 ^ (n.log2 - 52))
  have scaled : 2 ^ 52 * 2 ^ (n.log2 - 52) = 2 ^ n.log2 * 2 ^ (52 - n.log2) := by
    rw [← Nat.pow_add, ← Nat.pow_add]
    congr 1
    omega
  have least : 2 ^ 52 ≤ n * 2 ^ (52 - n.log2) / 2 ^ (n.log2 - 52) := by
    rw [Nat.le_div_iff_mul_le (Nat.two_pow_pos _), scaled]
    exact Nat.mul_le_mul_right _ low
  have greatest : n * 2 ^ (52 - n.log2) / 2 ^ (n.log2 - 52) < 2 ^ 53 := by
    have scaled' : 2 ^ 53 * 2 ^ (n.log2 - 52) = 2 ^ (n.log2 + 1) * 2 ^ (52 - n.log2) := by
      rw [← Nat.pow_add, ← Nat.pow_add]
      congr 1
      omega
    rw [Nat.div_lt_iff_lt_mul (Nat.two_pow_pos _), scaled']
    exact Nat.mul_lt_mul_of_pos_right high (Nat.two_pow_pos _)
  unfold significand
  omega

theorem quotientLog_one (positive : 0 < n) : quotientLog n 1 = n.log2 := by
  have low : 2 ^ n.log2 ≤ n := Nat.log2_self_le (Nat.pos_iff_ne_zero.mp positive)
  have least : Nat.log2 1 = 0 := rfl
  simp only [quotientLog, least, scaleByPower, Nat.pow_eq]
  by_cases zero : n.log2 = 0
  · rw [zero] at low ⊢
    simpa using Nat.pos_iff_ne_zero.mp positive
  · have negative : ¬ (0 : Int) ≤ -((n.log2 : Int) - (0 : Nat)) := by omega
    have exponent : (- -((n.log2 : Int) - (0 : Nat))).toNat = n.log2 := by omega
    rw [if_neg negative, exponent, Nat.one_mul, if_pos low]
    omega

/-- **The bits of the float nearest to a natural number**: the exponent, and the significand without its
leading one. -/
theorem nearestBits_one (positive : 0 < n) :
    nearestBits n 1 = min infinityBits ((n.log2 + 1022) * 2 ^ 52 + significand n) := by
  have exponent : max ((n.log2 : Int) - 52) leastExponent = n.log2 - 52 := by
    unfold leastExponent
    omega
  have bits : ((n.log2 : Int) - 52 - leastExponent).toNat = n.log2 + 1022 := by
    unfold leastExponent
    omega
  have scaled : scaleByPower (-((n.log2 : Int) - 52)) n 1 =
      (n * 2 ^ (52 - n.log2), 2 ^ (n.log2 - 52)) := by
    unfold scaleByPower
    by_cases small : n.log2 ≤ 52
    · have power : (-((n.log2 : Int) - 52)).toNat = 52 - n.log2 := by omega
      rw [if_pos (by omega), power, Nat.sub_eq_zero_of_le small]
      rfl
    · have power : (- -((n.log2 : Int) - 52)).toNat = n.log2 - 52 := by omega
      have none : 52 - n.log2 = 0 := by omega
      rw [if_neg (by omega), power, none, Nat.one_mul, Nat.pow_zero, Nat.mul_one]
      rfl
  unfold nearestBits
  rw [if_neg (Nat.pos_iff_ne_zero.mp positive), quotientLog_one positive]
  simp only [exponent, scaled, bits]
  rfl

theorem nearestBits_zero : nearestBits 0 1 = 0 := rfl

theorem log2_le_log2 (positive : 0 < m) (le : m ≤ n) : m.log2 ≤ n.log2 :=
  (Nat.le_log2 (by omega)).mpr (Nat.le_trans (Nat.log2_self_le (Nat.pos_iff_ne_zero.mp positive)) le)

/-- A significand of the next exponent goes on where that of the last one ends. -/
theorem bits_le_of_log2_lt (positive : 0 < m) (positive' : 0 < n) (lower : m.log2 < n.log2) :
    (m.log2 + 1022) * 2 ^ 52 + significand m ≤ (n.log2 + 1022) * 2 ^ 52 + significand n := by
  have high := (significand_bounds positive).2
  have low := (significand_bounds positive').1
  omega

/-- **Rounding keeps the order.** -/
theorem nearestBits_mono (le : m ≤ n) : nearestBits m 1 ≤ nearestBits n 1 := by
  by_cases zero : m = 0
  · rw [zero, nearestBits_zero]
    exact Nat.zero_le _
  · have positive : 0 < m := Nat.pos_of_ne_zero zero
    have positive' : 0 < n := Nat.lt_of_lt_of_le positive le
    rw [nearestBits_one positive, nearestBits_one positive']
    refine Nat.le_min.mpr ⟨Nat.min_le_left _ _, Nat.le_trans (Nat.min_le_right _ _) ?_⟩
    by_cases lower : m.log2 < n.log2
    · exact bits_le_of_log2_lt positive positive' lower
    · have same : m.log2 = n.log2 := Nat.le_antisymm (log2_le_log2 positive le) (Nat.le_of_not_lt lower)
      have scaled : m * 2 ^ (52 - n.log2) ≤ n * 2 ^ (52 - n.log2) := Nat.mul_le_mul_right _ le
      have ordered : significand m ≤ significand n := by
        unfold significand
        rw [same]
        exact roundedQuotient_mono _ scaled
      omega

/-- A number of up to sixty-four digits has a float with a leading one, which is finite. -/
theorem nearestBits_of_lt (positive : 0 < n) (small : n < 2 ^ 64) :
    nearestBits n 1 = (n.log2 + 1022) * 2 ^ 52 + significand n ∧ n.log2 ≤ 63 := by
  have digits : n.log2 < 64 := (Nat.log2_lt (Nat.pos_iff_ne_zero.mp positive)).mpr small
  have high := (significand_bounds positive).2
  refine ⟨?_, Nat.le_of_lt_succ digits⟩
  rw [nearestBits_one positive]
  refine Nat.min_eq_right ?_
  simp only [infinityBits, Nat.pow_eq]
  omega

theorem nearestBits_bounds (positive : 0 < n) (small : n < 2 ^ 64) :
    2 ^ 52 ≤ nearestBits n 1 ∧ nearestBits n 1 < infinityBits := by
  obtain ⟨bits, digits⟩ := nearestBits_of_lt positive small
  have bounds := significand_bounds positive
  simp only [bits, infinityBits, Nat.pow_eq]
  omega

/-- A number of up to fifty-three digits is its own significand. -/
theorem significand_of_small (small : n.log2 ≤ 52) : significand n = n * 2 ^ (52 - n.log2) := by
  unfold significand
  rw [Nat.sub_eq_zero_of_le small, Nat.pow_zero, roundedQuotient_one]

/-- **Up to the fifty-third power of two, different numbers have different bits.** -/
theorem nearestBits_lt (lt : m < n) (small : n ≤ 2 ^ 53) : nearestBits m 1 < nearestBits n 1 := by
  have positive' : 0 < n := Nat.zero_lt_of_lt lt
  by_cases zero : m = 0
  · rw [zero, nearestBits_zero]
    have bounds := nearestBits_bounds positive' (by omega)
    omega
  · have positive : 0 < m := Nat.pos_of_ne_zero zero
    have digits : m.log2 < 53 := (Nat.log2_lt zero).mpr (by omega)
    have exact := significand_of_small (Nat.le_of_lt_succ digits)
    rw [(nearestBits_of_lt positive (by omega)).1, (nearestBits_of_lt positive' (by omega)).1]
    by_cases lower : m.log2 < n.log2
    · have high : m < 2 ^ (m.log2 + 1) := Nat.lt_log2_self
      have scaled : m * 2 ^ (52 - m.log2) < 2 ^ (m.log2 + 1) * 2 ^ (52 - m.log2) :=
        Nat.mul_lt_mul_of_pos_right high (Nat.two_pow_pos _)
      rw [← Nat.pow_add, show m.log2 + 1 + (52 - m.log2) = 53 by omega] at scaled
      have low := (significand_bounds positive').1
      omega
    · have same : n.log2 = m.log2 :=
        Nat.le_antisymm (Nat.le_of_not_lt lower) (log2_le_log2 positive (Nat.le_of_lt lt))
      have exact' := significand_of_small (n := n) (by omega)
      have scaled : m * 2 ^ (52 - m.log2) < n * 2 ^ (52 - m.log2) :=
        Nat.mul_lt_mul_of_pos_right lt (Nat.two_pow_pos _)
      rw [same] at exact' ⊢
      omega

end Bits

/-! ### The bits of integers -/

/-- The bits of the float nearest to an integer, with the sign of the integer. -/
def roundedBits (n : Int) : Int :=
  if n < 0 then -(nearestBits n.natAbs 1 : Int) else nearestBits n.natAbs 1

section Integers

variable {a b : Int}

/-- **Rounding keeps the order of integers.** -/
theorem roundedBits_mono (le : a ≤ b) : roundedBits a ≤ roundedBits b := by
  unfold roundedBits
  by_cases negative : a < 0
  · rw [if_pos negative]
    by_cases negative' : b < 0
    · have ordered : nearestBits b.natAbs 1 ≤ nearestBits a.natAbs 1 := nearestBits_mono (by omega)
      rw [if_pos negative']
      omega
    · rw [if_neg negative']
      omega
  · have ordered : nearestBits a.natAbs 1 ≤ nearestBits b.natAbs 1 := nearestBits_mono (by omega)
    rw [if_neg negative, if_neg (by omega)]
    omega

theorem lt_of_roundedBits_lt (less : roundedBits a < roundedBits b) : a < b :=
  Int.not_le.mp fun le => Int.not_le.mpr less (roundedBits_mono le)

/-- Integers of up to fifty-three digits are told apart. -/
theorem roundedBits_lt (lt : a < b) (small : a.natAbs ≤ 2 ^ 53) (small' : b.natAbs ≤ 2 ^ 53) :
    roundedBits a < roundedBits b := by
  have zero := nearestBits_zero
  unfold roundedBits
  by_cases negative : a < 0
  · rw [if_pos negative]
    have positive : nearestBits 0 1 < nearestBits a.natAbs 1 := nearestBits_lt (by omega) small
    by_cases negative' : b < 0
    · have ordered : nearestBits b.natAbs 1 < nearestBits a.natAbs 1 :=
        nearestBits_lt (by omega) small
      rw [if_pos negative']
      omega
    · rw [if_neg negative']
      omega
  · have ordered : nearestBits a.natAbs 1 < nearestBits b.natAbs 1 := nearestBits_lt (by omega) small'
    rw [if_neg negative, if_neg (by omega)]
    omega

theorem eq_of_roundedBits_eq (same : roundedBits a = roundedBits b) (small : a.natAbs ≤ 2 ^ 53)
    (small' : b.natAbs ≤ 2 ^ 53) : a = b := by
  rcases Int.lt_trichotomy a b with less | equal | greater
  · exact absurd same (Int.ne_of_lt (roundedBits_lt less small small'))
  · exact equal
  · exact absurd same (Int.ne_of_gt (roundedBits_lt greater small' small))

end Integers

end TextTemplate
