/-
**Names in expressions.**

* `IsName`: a text is a name;
* `EndsName`: no name goes on at a text, so that a name before it is read up to there
  (`takeWhile_append_of_endsName`);
* `isBlank_of_continuesName`: the characters of names are not blank.
-/

import TextTemplate.Expr.Cursor
import TextTemplate.Text.Blank

namespace TextTemplate

/-! ### The characters of names -/

theorem asciiCode_of_continuesName {c : Char} (continues : continuesName c = true) :
    (0x30 ≤ c.toNat ∧ c.toNat ≤ 0x39) ∨ (0x41 ≤ c.toNat ∧ c.toNat ≤ 0x5a) ∨ c.toNat = 0x5f ∨
      (0x61 ≤ c.toNat ∧ c.toNat ≤ 0x7a) ∨ c.toNat = 0x24 := by
  have either : ((((c.isUpper || c.isLower) || c.isDigit) || c == '_') || c == '$') = true := continues
  simp only [Bool.or_eq_true, beq_iff_eq] at either
  rcases either with (((upper | lower) | digit) | rfl) | rfl
  · obtain ⟨low, high⟩ := of_decide_eq_true upper
    exact Or.inr (Or.inl ⟨UInt32.le_iff_toNat_le.mp low, UInt32.le_iff_toNat_le.mp high⟩)
  · obtain ⟨low, high⟩ := Bool.and_eq_true_iff.mp lower
    exact Or.inr (Or.inr (Or.inr (Or.inl ⟨UInt32.le_iff_toNat_le.mp (of_decide_eq_true low),
      UInt32.le_iff_toNat_le.mp (of_decide_eq_true high)⟩)))
  · exact Or.inl (Char.isDigit_iff_toNat.mp digit)
  · decide
  · decide

theorem isBlank_of_continuesName {c : Char} (continues : continuesName c = true) :
    Text.isBlank c = false := by
  have code := asciiCode_of_continuesName continues
  rw [Bool.eq_false_iff]
  intro blank
  obtain ⟨range, member, low, high⟩ := Text.inRanges_iff.mp blank
  simp only [Text.blankRanges, List.mem_cons, List.not_mem_nil, or_false] at member
  rcases member with rfl | rfl | rfl | rfl | rfl | rfl | rfl | rfl | rfl | rfl <;>
    (simp only at low high; omega)

theorem continuesName_of_isBlank {c : Char} (blank : Text.isBlank c = true) :
    continuesName c = false := by
  rw [Bool.eq_false_iff]
  intro continues
  rw [isBlank_of_continuesName continues] at blank
  cases blank

theorem continuesName_of_isAlpha {c : Char} (letter : c.isAlpha = true) : continuesName c = true := by
  show (((c.isAlpha || c.isDigit) || c == '_') || c == '$') = true
  rw [letter, Bool.true_or, Bool.true_or, Bool.true_or]

theorem continuesName_of_beginsName {c : Char} (begins : beginsName c = true) :
    continuesName c = true := by
  have either : ((c.isAlpha || c == '_') || c == '$') = true := begins
  show (((c.isAlpha || c.isDigit) || c == '_') || c == '$') = true
  simp only [Bool.or_eq_true] at either ⊢
  exact either.imp_left (Or.imp_left Or.inl)

theorem continuesName_of_isDigit {c : Char} (digit : c.isDigit = true) : continuesName c = true := by
  show (((c.isAlpha || c.isDigit) || c == '_') || c == '$') = true
  rw [digit, Bool.or_true, Bool.true_or, Bool.true_or]

theorem not_isDigit_of_beginsName {c : Char} (begins : beginsName c = true) : c.isDigit = false := by
  have either : (((c.isUpper || c.isLower) || c == '_') || c == '$') = true := begins
  rw [Bool.eq_false_iff]
  intro digit
  have code : 0x30 ≤ c.toNat ∧ c.toNat ≤ 0x39 := Char.isDigit_iff_toNat.mp digit
  simp only [Bool.or_eq_true, beq_iff_eq] at either
  rcases either with ((upper | lower) | rfl) | rfl
  · have low := UInt32.le_iff_toNat_le.mp (of_decide_eq_true upper).1
    have low' : 0x41 ≤ c.toNat := low
    omega
  · have low := UInt32.le_iff_toNat_le.mp (of_decide_eq_true (Bool.and_eq_true_iff.mp lower).1)
    have low' : 0x61 ≤ c.toNat := low
    omega
  · exact absurd digit (by decide)
  · exact absurd digit (by decide)

theorem not_isAlpha_of_isDigit {c : Char} (digit : c.isDigit = true) : c.isAlpha = false := by
  rw [Bool.eq_false_iff]
  intro letter
  have begins : beginsName c = true := by
    show ((c.isAlpha || c == '_') || c == '$') = true
    rw [letter, Bool.true_or, Bool.true_or]
  rw [not_isDigit_of_beginsName begins] at digit
  cases digit

/-! ### Names -/

/-- A name made of ASCII letters, digits, underscores and dollar signs, without a digit first. -/
structure IsName (name : Text) : Prop where
  first : ∃ c ∈ name.head?, beginsName c = true
  all : ∀ c ∈ name, continuesName c = true

instance (name : Text) : Decidable (IsName name) :=
  decidable_of_iff (name.head?.any beginsName = true ∧ name.all continuesName = true) <| by
    rw [Option.any_eq_true, List.all_eq_true]
    exact ⟨fun ⟨first, all⟩ => ⟨first, all⟩, fun valid => ⟨valid.first, valid.all⟩⟩

/-- **No name goes on at a text.** -/
def EndsName (text : Text) : Prop :=
  ∀ c ∈ text.head?, continuesName c = false

section EndsName

variable {name text : Text} (continues : ∀ c ∈ name, continuesName c = true) (ends : EndsName text)

include continues ends

theorem takeWhile_append_of_endsName : (name ++ text).takeWhile continuesName = name := by
  rw [List.takeWhile_append_of_pos continues]
  cases text with
  | nil => rw [List.takeWhile_nil, List.append_nil]
  | cons c text => rw [List.takeWhile_cons_of_neg (by simp [ends c rfl]), List.append_nil]

theorem dropWhile_append_of_endsName : (name ++ text).dropWhile continuesName = text := by
  rw [List.dropWhile_append_of_pos continues]
  cases text with
  | nil => rfl
  | cons c text => exact List.dropWhile_cons_of_neg (by simp [ends c rfl])

end EndsName

end TextTemplate
