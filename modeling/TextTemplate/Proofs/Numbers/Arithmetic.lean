/-
**Arithmetic on integers.**

Two integers are added, subtracted and multiplied exactly as long as the result is a word, and where
it is none the result is a float; so nothing wraps around. The remainder of a division is always a
word, but it is found together with the quotient, which is none where the least word is divided by
minus one.

* `Fits`, `checked?_eq_some_iff`: an integer is a word, and is given as one;
* `rem?_eq_some_iff`: **which remainders there are**;
* `Value.IsExact`: a value is an integer as exactly as values can be;
* `eval_on_integers`: **what the operators give for integers**.
-/

import TextTemplate.Expr.Eval
import TextTemplate.Proofs.Numbers.Digits

namespace TextTemplate

/-! ### Integers that are words -/

namespace Integer

/-- **An integer is a word**: it is between the least and the greatest one. -/
def Fits (n : Int) : Prop :=
  least ≤ n ∧ n ≤ greatest

instance (n : Int) : Decidable (Fits n) :=
  inferInstanceAs (Decidable (least ≤ n ∧ n ≤ greatest))

/-- **The quotient of two words is none**: the least word is divided by minus one. -/
def Overflows (a b : Int64) : Prop :=
  a.toInt = least ∧ b.toInt = -1

instance (a b : Int64) : Decidable (Overflows a b) :=
  inferInstanceAs (Decidable (a.toInt = least ∧ b.toInt = -1))

variable {a b m : Int64} {n : Int}

theorem fits_toInt (a : Int64) : Fits a.toInt := by
  have low := Int64.le_toInt a
  have high := Int64.toInt_lt a
  unfold Fits least greatest
  omega

theorem toInt_ofInt (fits : Fits n) : (Int64.ofInt n).toInt = n := by
  unfold Fits least greatest at fits
  exact Int64.toInt_ofInt_of_le (by omega) (by omega)

theorem checked?_of_fits (fits : Fits n) : checked? n = some (Int64.ofInt n) :=
  if_pos fits

theorem checked?_of_not_fits (large : ¬ Fits n) : checked? n = none :=
  if_neg large

/-- **A checked word is the integer itself.** -/
theorem checked?_eq_some_iff : checked? n = some m ↔ m.toInt = n := by
  refine ⟨toInt_of_checked?, ?_⟩
  rintro rfl
  exact checked?_toInt m

theorem checked?_eq_none_iff : checked? n = none ↔ ¬ Fits n := by
  refine ⟨fun missing fits => ?_, checked?_of_not_fits⟩
  rw [checked?_of_fits fits] at missing
  cases missing

theorem toInt_eq_zero_iff : b.toInt = 0 ↔ b = 0 :=
  Int64.toInt_inj (y := 0)

/-! ### Quotients and remainders -/

/-- A quotient is a word, but for one pair of words. -/
theorem fits_tdiv_iff (divisor : b ≠ 0) : Fits (a.toInt.tdiv b.toInt) ↔ ¬ Overflows a b := by
  have fits := fits_toInt a
  have nonzero : b.toInt ≠ 0 := fun zero => divisor (toInt_eq_zero_iff.mp zero)
  unfold Fits Overflows least greatest at *
  by_cases minusOne : b.toInt = -1
  · rw [minusOne, Int.tdiv_neg, Int.tdiv_one]
    omega
  · by_cases one : b.toInt = 1
    · rw [one, Int.tdiv_one]
      omega
    · -- a divisor of two or more halves the dividend
      have halved : (a.toInt.tdiv b.toInt).natAbs ≤ a.toInt.natAbs / 2 := by
        rw [Int.natAbs_tdiv]
        exact Nat.div_le_div_left (by omega) (by decide)
      omega

/-- A remainder is a word. -/
theorem fits_tmod (a b : Int64) : Fits (a.toInt.tmod b.toInt) := by
  have fits := fits_toInt a
  have smaller : (a.toInt.tmod b.toInt).natAbs ≤ a.toInt.natAbs := by
    rw [Int.natAbs_tmod]
    exact Nat.mod_le _ _
  have upward : 0 ≤ a.toInt → 0 ≤ a.toInt.tmod b.toInt := Int.tmod_nonneg b.toInt
  have downward : 0 ≤ -a.toInt → 0 ≤ -a.toInt.tmod b.toInt := fun sign => by
    rw [← Int.neg_tmod]
    exact Int.tmod_nonneg b.toInt sign
  unfold Fits least greatest at *
  omega

/-- **Which remainders there are**: those with the sign of the dividend, but for the divisor zero and
for the pair of words that has no quotient. -/
theorem rem?_eq_some_iff :
    rem? a b = some m ↔ b ≠ 0 ∧ ¬ Overflows a b ∧ m.toInt = a.toInt.tmod b.toInt := by
  unfold rem?
  by_cases zero : b = 0
  · rw [if_pos zero]
    simp [zero]
  · rw [if_neg zero]
    by_cases overflows : Overflows a b
    · have missing := checked?_eq_none_iff.mpr fun fits => (fits_tdiv_iff zero).mp fits overflows
      rw [missing]
      simp [overflows]
    · obtain ⟨quotient, given⟩ := Option.ne_none_iff_exists'.mp fun missing =>
        checked?_eq_none_iff.mp missing ((fits_tdiv_iff zero).mpr overflows)
      rw [given, Option.isSome_some, if_pos rfl, checked?_eq_some_iff]
      simp [zero, overflows]

theorem rem?_of_not_overflows (divisor : b ≠ 0) (fits : ¬ Overflows a b) :
    rem? a b = some (Int64.ofInt (a.toInt.tmod b.toInt)) :=
  rem?_eq_some_iff.mpr ⟨divisor, fits, toInt_ofInt (fits_tmod a b)⟩

theorem rem?_eq_none_iff : rem? a b = none ↔ b = 0 ∨ Overflows a b := by
  constructor
  · intro missing
    by_cases zero : b = 0
    · exact .inl zero
    · by_cases overflows : Overflows a b
      · exact .inr overflows
      · rw [rem?_of_not_overflows zero overflows] at missing
        cases missing
  · intro absent
    refine Option.eq_none_iff_forall_ne_some.mpr fun m given => ?_
    obtain ⟨divisor, fits, -⟩ := rem?_eq_some_iff.mp given
    exact absent.elim divisor fits

end Integer

open Integer

/-! ### Values of operators -/

/-- **A value is an integer as exactly as values can be**: it is the word of the integer, or a float if
the integer is no word. -/
def Value.IsExact (value : Value) (n : Int) : Prop :=
  (∃ m : Int64, m.toInt = n ∧ value = .int m) ∨ (¬ Fits n ∧ ∃ x, value = .float x)

variable {a b : Int64} {n : Int} {op : ArithOp}

/-- Where an operator checks a result, and goes over to floats otherwise, its value is exact. -/
theorem isExact_of_checked (exact : exactArithmetic? op a b = checked? n)
    (floats : ∀ x y, ∃ z, floatArithmetic op x y = .float z) : (integerArithmetic op a b).IsExact n := by
  unfold integerArithmetic
  rw [exact]
  cases given : checked? n with
  | some m => exact .inl ⟨m, checked?_eq_some_iff.mp given, rfl⟩
  | none => exact .inr ⟨checked?_eq_none_iff.mp given, floats _ _⟩

theorem isExact_negate (a : Int64) : (negate (.int a)).IsExact (-a.toInt) := by
  unfold negate neg?
  simp only
  cases given : checked? (-a.toInt) with
  | some m => exact .inl ⟨m, checked?_eq_some_iff.mp given, rfl⟩
  | none => exact .inr ⟨checked?_eq_none_iff.mp given, _, rfl⟩

/-- Zero as a float is equal to zero, and minus one is not. -/
theorem toFloat_zero_beq : (toFloat 0 == 0.0) = true := by decide +kernel

theorem toFloat_minus_one_beq : (toFloat (-1) == 0.0) = false := by decide +kernel

theorem rem_zero (a : Int64) : integerArithmetic .rem a 0 = .null := by
  have missing : exactArithmetic? .rem a 0 = none := rem?_eq_none_iff.mpr (.inl rfl)
  unfold integerArithmetic
  rw [missing]
  show (if toFloat 0 == 0.0 then Value.null else .float (remainder (toFloat a) (toFloat 0))) = .null
  rw [if_pos toFloat_zero_beq]

/-- The remainder is a word if the quotient is one. -/
theorem rem_of_not_overflows (divisor : b ≠ 0) (fits : ¬ Overflows a b) :
    ∃ m : Int64, m.toInt = a.toInt.tmod b.toInt ∧ integerArithmetic .rem a b = .int m := by
  have given : exactArithmetic? .rem a b = some _ := rem?_of_not_overflows divisor fits
  refine ⟨_, toInt_ofInt (fits_tmod a b), ?_⟩
  unfold integerArithmetic
  rw [given]

/-- The remainder is a float if the quotient is no word, although it is zero. -/
theorem rem_of_overflows (overflows : Overflows a b) :
    ∃ x, integerArithmetic .rem a b = .float x := by
  have missing : exactArithmetic? .rem a b = none := rem?_eq_none_iff.mpr (.inr overflows)
  obtain rfl : b = -1 := Int64.toInt_inj.mp overflows.2
  unfold integerArithmetic
  rw [missing]
  refine ⟨remainder (toFloat a) (toFloat (-1)), ?_⟩
  show (if toFloat (-1) == 0.0 then Value.null else .float (remainder (toFloat a) (toFloat (-1)))) = _
  rw [if_neg (by rw [toFloat_minus_one_beq]; exact Bool.false_ne_true)]

/-- One word divides another if the remainder is zero and there is a quotient. -/
theorem divides_iff : Filter.divides b a = true ↔ b ≠ 0 ∧ b.toInt ∣ a.toInt ∧ ¬ Overflows a b := by
  unfold Filter.divides
  rw [Bool.and_eq_true, beq_iff_eq, bne_iff_ne, rem?_eq_some_iff]
  have zero : (0 : Int64).toInt = a.toInt.tmod b.toInt ↔ b.toInt ∣ a.toInt :=
    eq_comm.trans Int.dvd_iff_tmod_eq_zero.symm
  rw [zero]
  constructor
  · rintro ⟨divisor, -, fits, divides⟩
    exact ⟨divisor, divides, fits⟩
  · rintro ⟨divisor, divides, fits⟩
    exact ⟨divisor, divisor, fits, divides⟩

/-! ### Expressions -/

section Expressions

variable {extensions : Extensions} {scope : Scope} {left right : Expr}
  (first : evalExpr extensions scope left = .ok (.int a))
  (second : evalExpr extensions scope right = .ok (.int b))

include first

theorem evalExpr_neg : evalExpr extensions scope (.neg left) = .ok (negate (.int a)) := by
  rw [evalExpr, first]
  rfl

include second

/-- An operator other than `~` goes to the integers. -/
theorem evalExpr_arith (noText : op ≠ .concat) :
    evalExpr extensions scope (.arith op left right) = .ok (integerArithmetic op a b) := by
  rw [evalExpr, first, second]
  cases op <;> first | contradiction | rfl

theorem evalExpr_divisibleby : evalExpr extensions scope (.test left "divisibleby" [right] false) =
    .ok (.bool (Filter.divides b a)) := by
  rw [evalExpr, evalAll, evalAll, first, second]
  show Except.ok (Value.bool (Filter.divides b a != false)) = _
  rw [Bool.bne_false]

/-- **What the operators give for integers.** Sums, differences, products and negations are exact where
they are words, and floats otherwise. A remainder is a word with the sign of the dividend, null for the
divisor zero, and a float for the least word and minus one; and but for this pair, a word is divisible
by the divisors of its integer. -/
theorem eval_on_integers :
    (∃ sum, evalExpr extensions scope (.arith .add left right) = .ok sum ∧
      sum.IsExact (a.toInt + b.toInt)) ∧
    (∃ difference, evalExpr extensions scope (.arith .sub left right) = .ok difference ∧
      difference.IsExact (a.toInt - b.toInt)) ∧
    (∃ product, evalExpr extensions scope (.arith .mul left right) = .ok product ∧
      product.IsExact (a.toInt * b.toInt)) ∧
    (∃ negation, evalExpr extensions scope (.neg left) = .ok negation ∧
      negation.IsExact (-a.toInt)) ∧
    (∃ rest, evalExpr extensions scope (.arith .rem left right) = .ok rest ∧
      (b = 0 → rest = .null) ∧
      (b ≠ 0 → ¬ Overflows a b → ∃ m : Int64, m.toInt = a.toInt.tmod b.toInt ∧ rest = .int m) ∧
      (Overflows a b → ∃ x, rest = .float x)) ∧
    evalExpr extensions scope (.test left "divisibleby" [right] false) =
      .ok (.bool (decide (b ≠ 0 ∧ b.toInt ∣ a.toInt ∧ ¬ Overflows a b))) := by
  have binary {op : ArithOp} (noText : op ≠ .concat) := evalExpr_arith first second noText
  refine ⟨⟨_, binary (by decide), ?_⟩, ⟨_, binary (by decide), ?_⟩, ⟨_, binary (by decide), ?_⟩,
    ⟨_, evalExpr_neg first, isExact_negate a⟩, ⟨_, binary (by decide), ?_, ?_, ?_⟩, ?_⟩
  · exact isExact_of_checked rfl fun x y => ⟨_, rfl⟩
  · exact isExact_of_checked rfl fun x y => ⟨_, rfl⟩
  · exact isExact_of_checked rfl fun x y => ⟨_, rfl⟩
  · rintro rfl
    exact rem_zero a
  · exact rem_of_not_overflows
  · exact rem_of_overflows
  · rw [evalExpr_divisibleby first second,
      Bool.eq_iff_iff.mpr (divides_iff.trans decide_eq_true_iff.symm)]

end Expressions

/-- The greatest word and one: the sum is no word, and one divides everything. -/
theorem eval_on_greatest_and_one :
    (∃ sum, evalExpr .none ⟨[]⟩ (.arith .add (.literal (.int 9223372036854775807))
        (.literal (.int 1))) = .ok sum ∧ sum.IsExact 9223372036854775808) ∧
      evalExpr .none ⟨[]⟩ (.test (.literal (.int 9223372036854775807)) "divisibleby"
        [.literal (.int 1)] false) = .ok (.bool true) := by
  have first : evalExpr .none ⟨[]⟩ (.literal (.int 9223372036854775807)) =
      .ok (.int 9223372036854775807) := rfl
  have second : evalExpr .none ⟨[]⟩ (.literal (.int 1)) = .ok (.int 1) := rfl
  have value : (9223372036854775807 : Int64).toInt + (1 : Int64).toInt = 9223372036854775808 := by
    decide +kernel
  have divides : (1 : Int64) ≠ 0 ∧ (1 : Int64).toInt ∣ (9223372036854775807 : Int64).toInt ∧
      ¬ Overflows 9223372036854775807 1 := by decide +kernel
  obtain ⟨sum, -, -, -, -, test⟩ := eval_on_integers first second
  rw [value] at sum
  rw [decide_eq_true divides] at test
  exact ⟨sum, test⟩

/-- **The remainder of the least word and minus one is zero, but as a value it is no word**, and the test
says that minus one does not divide the least word. -/
theorem eval_on_least_and_minus_one :
    let scope := Scope.ofContext (Context.ofList [("a", .int (-9223372036854775808)), ("b", .int (-1))])
    Int.tmod (-9223372036854775808) (-1) = 0 ∧ (-1 : Int) ∣ -9223372036854775808 ∧
      (∃ x, evalExpr .none scope (.arith .rem (.name "a") (.name "b")) = .ok (.float x)) ∧
      evalExpr .none scope (.test (.name "a") "divisibleby" [.name "b"] false) = .ok (.bool false) := by
  intro scope
  have overflows : Overflows (-9223372036854775808) (-1) := by decide +kernel
  have known : evalExpr .none scope (.name "a") = .ok (.int (-9223372036854775808)) := rfl
  have known' : evalExpr .none scope (.name "b") = .ok (.int (-1)) := rfl
  refine ⟨by decide +kernel, by decide +kernel, ?_, ?_⟩
  · obtain ⟨x, rest⟩ := rem_of_overflows overflows
    exact ⟨x, by rw [evalExpr_arith known known' (by decide), rest]⟩
  · have not_divides : Filter.divides (-1) (-9223372036854775808) = false :=
      eq_false_of_ne_true fun divides => (divides_iff.mp divides).2.2 overflows
    rw [evalExpr_divisibleby known known', not_divides]

end TextTemplate
