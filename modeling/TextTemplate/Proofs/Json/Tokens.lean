/-
**Strings and integers of JSON documents, written and read.**

* `readString?_quote`: a text between double quotes is read as the text, whatever its characters
  are;
* `EndsNumber`: what may follow a number without continuing it;
* `readNumber?_integerText`: **the text of a word is read as the word**, whatever follows it that
  does not continue a number.
-/

import Mathlib.Data.List.TakeDrop
import TextTemplate.Proofs.Numbers.Digits
import TextTemplate.Value.Json

namespace TextTemplate.Json

/-! ### Strings -/

variable {done rest : Text}

/-- An escape of one letter. -/
theorem readString?_escape {letter c : Char} (noUnit : letter ≠ 'u')
    (escaped : escapedChar? letter = some c) :
    readString? done ('\\' :: letter :: rest) = readString? (c :: done) rest := by
  rw [readString?.eq_def]
  simp [noUnit, escaped]

/-- A character that is written as it is. -/
theorem readString?_plain {c : Char} (noQuote : c ≠ '"') (noEscape : c ≠ '\\')
    (visible : 32 ≤ c.toNat) : readString? done (c :: rest) = readString? (c :: done) rest := by
  have noControl : ¬ c.toNat < 32 := Nat.not_lt.mpr visible
  rw [readString?.eq_def]
  simp [noQuote, noEscape, noControl]

theorem codeUnit?_hexDigit :
    ∀ n < 32, codeUnit? '0' '0' (hexDigit (n / 16)) (hexDigit (n % 16)) = some n := by
  decide

/-- A control character, written by its code point. -/
theorem readString?_control {c : Char} (control : c.toNat < 32) :
    readString? done ('\\' :: 'u' :: '0' :: '0' :: hexDigit (c.toNat / 16) ::
      hexDigit (c.toNat % 16) :: rest) = readString? (c :: done) rest := by
  have notLeading : isLeading c.toNat = false := by simp [isLeading]; omega
  have notTrailing : isTrailing c.toNat = false := by simp [isTrailing]; omega
  rw [readString?.eq_def]
  simp [codeUnit?_hexDigit c.toNat control, notLeading, notTrailing]

/-- The form of a character is read as the character. -/
theorem readString?_quoteChar (c : Char) :
    readString? done (quoteChar c ++ rest) = readString? (c :: done) rest := by
  by_cases quote : c = '"'
  · subst quote
    exact readString?_escape (by decide) rfl
  by_cases escape : c = '\\'
  · subst escape
    exact readString?_escape (by decide) rfl
  rw [quoteChar, if_neg quote, if_neg escape]
  split
  · exact readString?_plain quote escape ‹_›
  -- the control characters that have an escape of one letter, and all others
  split
  · subst c; exact readString?_escape (by decide) rfl
  split
  · subst c; exact readString?_escape (by decide) rfl
  split
  · subst c; exact readString?_escape (by decide) rfl
  split
  · subst c; exact readString?_escape (by decide) rfl
  split
  · subst c; exact readString?_escape (by decide) rfl
  · exact readString?_control (by omega)

theorem readString?_quoteChars (text : Text) :
    readString? done (text.flatMap quoteChar ++ '"' :: rest) =
      some (String.ofList (done.reverse ++ text), rest) := by
  induction text generalizing done with
  | nil =>
    rw [List.flatMap_nil, List.nil_append, readString?.eq_def]
    simp
  | cons c text ih =>
    rw [List.flatMap_cons, List.append_assoc, readString?_quoteChar, ih]
    simp

/-- **A text between double quotes is read as the text.** -/
theorem readString?_quote (s : String) :
    readString? [] (s.toList.flatMap quoteChar ++ '"' :: rest) = some (s, rest) := by
  rw [readString?_quoteChars]
  simp

theorem quote_append (text rest : Text) :
    quote text ++ rest = '"' :: (text.flatMap quoteChar ++ '"' :: rest) := by
  simp [quote]

/-! ### Integers -/

/-- **What may follow a number**: the end of the text, or a character that does not continue it. -/
def EndsNumber (rest : Text) : Prop :=
  ∀ c ∈ rest.head?, c.isDigit = false ∧ c ≠ '.' ∧ c ≠ 'e' ∧ c ≠ 'E'

/-- Digits whose number is a word are collected to the end. -/
theorem collectDigits_append {digits : Text} (digital : digits.all Char.isDigit = true)
    (before count : Nat)
    (fits : digits.foldl (fun n c => 10 * n + digitValue c) before ≤ greatestWord)
    (ends : EndsNumber rest) :
    collectDigits before count (digits ++ rest) =
      (digits.foldl (fun n c => 10 * n + digitValue c) before, count + digits.length, rest) := by
  induction digits generalizing before count with
  | nil =>
    cases rest with
    | nil => rfl
    | cons c rest =>
      have noDigit := (ends c rfl).1
      rw [List.nil_append, collectDigits, noDigit, Bool.false_and, if_neg Bool.false_ne_true]
      rfl
  | cons c digits ih =>
    obtain ⟨digit, digital⟩ := Bool.and_eq_true_iff.mp digital
    have room : 10 * before + digitValue c ≤ greatestWord :=
      Nat.le_trans (le_foldl_digitValue digits _) fits
    have counts : (c.isDigit && decide (10 * before + digitValue c ≤ greatestWord)) = true := by
      rw [digit, decide_eq_true room]
      rfl
    rw [List.cons_append, collectDigits, if_pos counts, ih digital _ _ fits, List.length_cons,
      List.foldl_cons]
    congr 2
    omega

theorem span_isDigit_of_endsNumber (ends : EndsNumber rest) :
    rest.span Char.isDigit = ([], rest) := by
  cases rest with
  | nil => rfl
  | cons c rest =>
    have noDigit := (ends c rfl).1
    rw [List.span_eq_takeWhile_dropWhile, List.takeWhile_cons_of_neg (by simp [noDigit]),
      List.dropWhile_cons_of_neg (by simp [noDigit])]

/-- Digits without fraction and exponent are a whole number. -/
theorem readRest?_of_endsNumber (negative : Bool) (significand : Nat) (ends : EndsNumber rest) :
    readRest? negative significand 0 rest = some (wholeNumber negative significand, rest) := by
  cases rest with
  | nil => rfl
  | cons c rest =>
    obtain ⟨-, noPoint, noExponent, noExponent'⟩ := ends c rfl
    rw [readRest?.eq_def]
    simp [noPoint, noExponent, noExponent']

/-- The digits of a word are read as a whole number. -/
theorem readMagnitude?_digitText (negative : Bool) {n : Nat} (fits : n ≤ greatestWord)
    (ends : EndsNumber rest) :
    readMagnitude? negative (Decimal.digitText n ++ rest) =
      some (wholeNumber negative n, rest) := by
  obtain ⟨c, digits, begins, digit, zero⟩ := exists_digitText_eq_cons n
  have value := digitsValue_digitText n
  have digital := all_isDigit_digitText n
  rw [begins] at value digital ⊢
  by_cases isZero : c = '0'
  · obtain ⟨rfl, rfl⟩ := zero isZero
    subst isZero
    have noDigit : (rest.head?.map Char.isDigit).getD false = false := by
      cases rest with
      | nil => rfl
      | cons d rest => exact (ends d rfl).1
    rw [List.singleton_append, readMagnitude?, noDigit, if_neg Bool.false_ne_true,
      readRest?_of_endsNumber negative 0 ends]
  · have number : digits.foldl (fun n c => 10 * n + digitValue c) (digitValue c) = n := by
      rw [digitsValue, List.foldl_cons] at value
      simpa using value
    have collected := collectDigits_append (Bool.and_eq_true_iff.mp digital).2
      (digitValue c) 0 (by rw [number]; exact fits) ends
    rw [List.cons_append, readMagnitude?.eq_def]
    simp only [digit, collected, number, span_isDigit_of_endsNumber ends,
      List.length_nil, if_true, readRest?_of_endsNumber negative n ends]

/-- **The text of a word is read as the word.** -/
theorem readNumber?_integerText (n : Int64) (ends : EndsNumber rest) :
    readNumber? (integerText n.toInt ++ rest) = some (.int n.toInt, rest) := by
  have lower := n.le_toInt
  have upper := n.toInt_lt
  have fits : n.toInt.natAbs ≤ greatestWord := by
    rw [greatestWord]
    omega
  rw [integerText]
  split
  · rename_i negative
    have small : ¬ (n.toInt.natAbs = 0 ∨ 9223372036854775808 < n.toInt.natAbs) := by omega
    have opposite : -((n.toInt.natAbs : Nat) : Int) = n.toInt := by omega
    rw [List.cons_append, readNumber?, readMagnitude?_digitText true fits ends, wholeNumber,
      Bool.not_true, if_neg Bool.false_ne_true, if_neg small, opposite]
  · rename_i natural
    have same : ((n.toInt.natAbs : Nat) : Int) = n.toInt := by omega
    have unsigned : readNumber? (Decimal.digitText n.toInt.natAbs ++ rest) =
        readMagnitude? false (Decimal.digitText n.toInt.natAbs ++ rest) := by
      obtain ⟨c, digits, begins, digit, -⟩ := exists_digitText_eq_cons n.toInt.natAbs
      have noSign : c ≠ '-' := by rintro rfl; exact absurd digit (by decide)
      rw [begins, List.cons_append, readNumber?.eq_def]
      simp [noSign]
    rw [unsigned, readMagnitude?_digitText false fits ends, wholeNumber, Bool.not_false, if_pos rfl,
      same]

end TextTemplate.Json
