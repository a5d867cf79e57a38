/-
**Decimal digits of a natural number.**

* `digitsValue_digitText`: the digits of a number stand for the number;
* `exists_digitText_eq_cons`: the first digit is no zero unless the number is zero;
* `readInteger?_digitText`: **the digits of a word are read as the word**.
-/

import TextTemplate.Number.Decimal
import TextTemplate.Number.Read

namespace TextTemplate

open Decimal (digitText)

theorem isDigit_of_mem_digitText {n : Nat} {c : Char} (member : c ∈ digitText n) :
    c.isDigit = true :=
  Nat.isDigit_of_mem_toDigits (by decide) (by decide) member

theorem all_isDigit_digitText (n : Nat) : (digitText n).all Char.isDigit = true :=
  List.all_eq_true.mpr fun _ member => isDigit_of_mem_digitText member

/-- The first digit of a number is no zero, unless the number is zero. -/
theorem exists_digitText_eq_cons (n : Nat) :
    ∃ c rest, digitText n = c :: rest ∧ c.isDigit = true ∧ (c = '0' → n = 0 ∧ rest = []) := by
  induction n using Nat.strongRecOn with
  | _ n ih =>
    have unfolded : digitText n = if n < 10 then [n.digitChar]
        else digitText (n / 10) ++ [(n % 10).digitChar] := Nat.toDigits_eq_if (by decide)
    by_cases small : n < 10
    · rw [if_pos small] at unfolded
      refine ⟨n.digitChar, [], unfolded, by simp [small], fun zero => ⟨?_, rfl⟩⟩
      exact Nat.digitChar_eq_zero.mp zero
    · obtain ⟨c, rest, begins, digit, zero⟩ := ih (n / 10) (by omega)
      rw [if_neg small, begins] at unfolded
      refine ⟨c, rest ++ [(n % 10).digitChar], unfolded, digit, fun isZero => ?_⟩
      have tens := (zero isZero).1
      omega

/-- The value that digits add to the digits before them. -/
theorem foldl_digitValue (digits : Text) (before : Nat) :
    digits.foldl (fun n c => 10 * n + digitValue c) before = Nat.ofDigitChars 10 digits before := by
  rw [Nat.ofDigitChars_eq_foldl]
  rfl

/-- **The digits of a number stand for the number.** -/
theorem digitsValue_digitText (n : Nat) : digitsValue (digitText n) = n := by
  rw [digitsValue, foldl_digitValue]
  exact Nat.ofDigitChars_ten_toDigits

/-- More digits never make a number smaller. -/
theorem le_foldl_digitValue (digits : Text) (before : Nat) :
    before ≤ digits.foldl (fun n c => 10 * n + digitValue c) before := by
  induction digits generalizing before with
  | nil => exact Nat.le_refl before
  | cons c digits ih =>
    have step : before ≤ 10 * before + digitValue c := by omega
    exact Nat.le_trans step (ih _)

/-- Digits below the cap count in full. -/
theorem foldl_capped {cap : Nat} {digits : Text} {before : Nat}
    (below : digits.foldl (fun n c => 10 * n + digitValue c) before < cap) :
    digits.foldl (fun n c => if n < cap then 10 * n + digitValue c else n) before =
      digits.foldl (fun n c => 10 * n + digitValue c) before := by
  induction digits generalizing before with
  | nil => rfl
  | cons c digits ih =>
    have small : before < cap :=
      Nat.lt_of_le_of_lt (le_foldl_digitValue (c :: digits) before) below
    rw [List.foldl_cons, if_pos small, ih below, List.foldl_cons]

theorem readDigits?_digitText {cap n : Nat} (below : n < cap) :
    readDigits? cap (digitText n) = some n := by
  obtain ⟨c, rest, begins, -, -⟩ := exists_digitText_eq_cons n
  have filled : (digitText n).isEmpty = false := by rw [begins]; rfl
  have value : digitsCapped cap (digitText n) = n := by
    have same := digitsValue_digitText n
    rw [digitsValue] at same
    rw [digitsCapped, foldl_capped (by rw [same]; exact below), same]
  rw [readDigits?, filled, all_isDigit_digitText, value]
  rfl

/-- Digits have no sign. -/
theorem splitSign_digitText (n : Nat) : splitSign (digitText n) = (false, digitText n) := by
  obtain ⟨c, rest, begins, digit, -⟩ := exists_digitText_eq_cons n
  rw [begins]
  have notMinus : c ≠ '-' := by rintro rfl; exact absurd digit (by decide)
  have notPlus : c ≠ '+' := by rintro rfl; exact absurd digit (by decide)
  rw [splitSign] <;> simp_all

/-- The words are the integers that fit. -/
theorem Integer.checked?_toInt (n : Int64) : Integer.checked? n.toInt = some n := by
  have lower := n.le_toInt
  have upper := n.toInt_lt
  have fits : Integer.least ≤ n.toInt ∧ n.toInt ≤ Integer.greatest := by
    constructor
    · exact lower
    · rw [Integer.greatest]
      omega
  rw [Integer.checked?, if_pos fits, Int64.ofInt_toInt]

/-- **The digits of a word are read as the word.** -/
theorem readInteger?_digitText {n : Int64} (natural : 0 ≤ n.toInt) :
    readInteger? (digitText n.toInt.toNat) = some n := by
  have upper := n.toInt_lt
  have below : n.toInt.toNat < wordCap := by
    rw [wordCap]
    omega
  have value : ((n.toInt.toNat : Nat) : Int) = n.toInt := Int.toNat_of_nonneg natural
  rw [readInteger?, splitSign_digitText]
  simp only [readDigits?_digitText below, Option.bind_some, Bool.false_eq_true, if_false, value,
    Integer.checked?_toInt]

end TextTemplate
