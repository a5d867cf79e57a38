/-
**Floats of parsed documents.**

A float of a document is a rounded integer, times or over a power of ten. The power is finite and not
zero, and a product that is too large is refused. So every float that is read is a number.

* `Json.Numeric`: all floats of a document are numbers;
* `isNaN_of_floatOfParts?`: a word and a power of ten give a number;
* `readsNumeric_readValue?`: reading gives numeric documents, at any depth;
* `numeric_of_parse?`: **the document of a text is numeric**.
-/

import Mathlib
import TextTemplate.Json.Read
import TextTemplate.Proofs.Numbers.NaN

namespace TextTemplate.Json

/-- **A document whose floats are numbers.** -/
inductive Numeric : Json → Prop
  | null : Numeric .null
  | bool (b : Bool) : Numeric (.bool b)
  | int (n : Int) : Numeric (.int n)
  | float {x : Float} (number : x.isNaN = false) : Numeric (.float x)
  | string (s : String) : Numeric (.string s)
  | array {items : List Json} (each : ∀ item ∈ items, Numeric item) : Numeric (.array items)
  | object {members : List (String × Json)} (each : ∀ member ∈ members, Numeric member.2) :
    Numeric (.object members)

/-! ### Powers of ten -/

/-- The powers of ten up to a finite one are finite, and not zero. -/
theorem bits_of_power {n greatest : Nat} (le : n ≤ greatest)
    (finite : nearestBits (Nat.pow 10 greatest) 1 < infinityBits) :
    2 ^ 52 ≤ nearestBits (Nat.pow 10 n) 1 ∧ nearestBits (Nat.pow 10 n) 1 < infinityBits := by
  have one : 2 ^ 52 ≤ nearestBits 1 1 := (nearestBits_bounds (by decide) (by decide)).1
  have above : nearestBits 1 1 ≤ nearestBits (Nat.pow 10 n) 1 :=
    nearestBits_mono (Nat.pow_pos (by decide))
  have below : nearestBits (Nat.pow 10 n) 1 ≤ nearestBits (Nat.pow 10 greatest) 1 :=
    nearestBits_mono (Nat.pow_le_pow_right (by decide) le)
  exact ⟨Nat.le_trans one above, Nat.lt_of_le_of_lt below finite⟩

theorem isNaN_div_powerOfTen {x : Float} (number : x.isNaN = false) {n : Nat} (small : n ≤ 308) :
    (x / powerOfTen n).isNaN = false := by
  obtain ⟨low, high⟩ := bits_of_power small (by decide +kernel)
  obtain ⟨positive, divisor⟩ := unpack_withSign low high false
  exact isNaN_div number divisor

theorem isNaN_scaleDown {x : Float} (number : x.isNaN = false) (steps shift : Nat) :
    (scaleDown x steps shift).isNaN = false := by
  induction steps generalizing x shift with
  | zero => exact number
  | succ steps ih =>
    rw [scaleDown]
    split
    · rename_i small
      exact isNaN_div_powerOfTen number small
    · split
      · exact number
      · exact ih (isNaN_div_powerOfTen number (Nat.le_refl 308)) _

/-- **A word and a power of ten give a number**, if they give a float at all. -/
theorem isNaN_of_floatOfParts? {negative : Bool} {significand : Nat} {exponent : Int} {x : Float}
    (given : floatOfParts? negative significand exponent = some x) : x.isNaN = false := by
  have number := isNaN_nearest false significand 1
  simp only [floatOfParts?] at given
  split at given
  · obtain rfl := Option.some.inj given
    exact isNaN_signed negative (isNaN_scaleDown number 3 exponent.natAbs)
  · split at given
    · split at given
      · rename_i finite
        obtain rfl := Option.some.inj given
        exact isNaN_signed negative (isNaN_of_isFinite finite)
      · cases given
    · split at given
      · obtain rfl := Option.some.inj given
        exact isNaN_signed negative number
      · cases given

/-! ### Numbers -/

section Numbers

variable {negative : Bool} {significand dropped : Nat} {exponent : Int} {text rest : Text}
  {document : Json}

theorem numeric_of_map_floatOfParts?
    (read : ((floatOfParts? negative significand exponent).map fun x => (Json.float x, text)) =
      some (document, rest)) : document.Numeric := by
  obtain ⟨x, given, same⟩ := Option.map_eq_some_iff.mp read
  cases same
  exact .float (isNaN_of_floatOfParts? given)

theorem numeric_of_readExponent?
    (read : readExponent? negative significand exponent text = some (document, rest)) :
    document.Numeric := by
  unfold readExponent? at read
  split at read
  · exact numeric_of_map_floatOfParts? read
  · split at read
    · simp only at read
      split at read
      · cases read
      · split at read
        · split at read
          · exact numeric_of_map_floatOfParts? read
          · split at read
            · cases read
            · -- an exponent beyond all bounds leaves nothing of the number, but its sign
              obtain ⟨rfl, rfl⟩ := Prod.mk.inj (Option.some.inj read)
              refine .float ?_
              cases negative with
              | false => decide +kernel
              | true => decide +kernel
        · cases read
    · exact numeric_of_map_floatOfParts? read

theorem numeric_of_readFraction?
    (read : readFraction? negative significand exponent text = some (document, rest)) :
    document.Numeric := by
  simp only [readFraction?] at read
  split at read
  · cases read
  · exact numeric_of_readExponent? read

theorem numeric_wholeNumber (negative : Bool) (significand : Nat) :
    (wholeNumber negative significand).Numeric := by
  unfold wholeNumber
  split
  · exact .int _
  · split
    · exact .float (isNaN_nearest true significand 1)
    · exact .int _

theorem numeric_of_readRest?
    (read : readRest? negative significand dropped text = some (document, rest)) :
    document.Numeric := by
  unfold readRest? at read
  split at read
  · exact numeric_of_readFraction? read
  · exact numeric_of_readExponent? read
  · exact numeric_of_readExponent? read
  · split at read
    · obtain ⟨rfl, rfl⟩ := Prod.mk.inj (Option.some.inj read)
      exact numeric_wholeNumber negative significand
    · exact numeric_of_map_floatOfParts? read

theorem numeric_of_readMagnitude? (read : readMagnitude? negative text = some (document, rest)) :
    document.Numeric := by
  unfold readMagnitude? at read
  split at read
  · split at read
    · cases read
    · exact numeric_of_readRest? read
  · split at read
    · exact numeric_of_readRest? read
    · cases read
  · cases read

/-- **A number that is read is a word or a float that is a number.** -/
theorem numeric_of_readNumber? (read : readNumber? text = some (document, rest)) :
    document.Numeric := by
  unfold readNumber? at read
  split at read
  · exact numeric_of_readMagnitude? read
  · exact numeric_of_readMagnitude? read

end Numbers

/-! ### Documents -/

section Documents

variable {read : Text → Option (Json × Text)} {steps depth : Nat} {text rest : Text} {document : Json}

theorem numeric_of_readScalar? (given : readScalar? text = some (document, rest)) :
    document.Numeric := by
  unfold readScalar? at given
  split at given
  · cases given
    exact .null
  · cases given
    exact .bool true
  · cases given
    exact .bool false
  · obtain ⟨⟨s, after⟩, -, same⟩ := Option.map_eq_some_iff.mp given
    cases same
    exact .string s
  · exact numeric_of_readNumber? given

/-- **What a reader of documents gives is numeric.** -/
def ReadsNumeric (read : Text → Option (Json × Text)) : Prop :=
  ∀ text document rest, read text = some (document, rest) → document.Numeric

theorem numeric_of_readItems? (reads : ReadsNumeric read) {done items : List Json}
    (before : ∀ item ∈ done, item.Numeric) (given : readItems? read steps done text = some (items, rest)) :
    ∀ item ∈ items, item.Numeric := by
  induction steps generalizing done text with
  | zero => cases given
  | succ steps ih =>
    rw [readItems?] at given
    split at given
    · cases given
    · rename_i item after first
      have all : ∀ each ∈ item :: done, each.Numeric :=
        List.forall_mem_cons.mpr ⟨reads _ _ _ first, before⟩
      split at given
      · exact ih all given
      · cases given
        exact fun each member => all each (List.mem_reverse.mp member)
      · cases given

theorem numeric_of_readMembers? (reads : ReadsNumeric read) {done members : List (String × Json)}
    (before : ∀ member ∈ done, member.2.Numeric)
    (given : readMembers? read steps done text = some (members, rest)) :
    ∀ member ∈ members, member.2.Numeric := by
  induction steps generalizing done text with
  | zero => cases given
  | succ steps ih =>
    rw [readMembers?] at given
    split at given
    · cases given
    · rename_i name behind named
      split at given
      · cases given
      · rename_i value after first
        have all : ∀ each ∈ (name, value) :: done, each.2.Numeric :=
          List.forall_mem_cons.mpr ⟨reads _ _ _ first, before⟩
        split at given
        · exact ih all given
        · cases given
          exact fun each member => all each (List.mem_reverse.mp member)
        · cases given

theorem readsNumeric_readArray? (reads : ReadsNumeric read) :
    ReadsNumeric (readArray? steps read) := by
  intro text document rest given
  unfold readArray? at given
  split at given
  · cases given
    exact .array fun item member => absurd member List.not_mem_nil
  · obtain ⟨⟨items, after⟩, found, same⟩ := Option.map_eq_some_iff.mp given
    cases same
    exact .array (numeric_of_readItems? reads (fun item member => absurd member List.not_mem_nil) found)

theorem readsNumeric_readObject? (reads : ReadsNumeric read) :
    ReadsNumeric (readObject? steps read) := by
  intro text document rest given
  unfold readObject? at given
  split at given
  · cases given
    exact .object fun item member => absurd member List.not_mem_nil
  · obtain ⟨⟨members, after⟩, found, same⟩ := Option.map_eq_some_iff.mp given
    cases same
    exact .object (numeric_of_readMembers? reads (fun item member => absurd member List.not_mem_nil) found)

/-- **Reading gives numeric documents**, at any depth. -/
theorem readsNumeric_readValue? (steps depth : Nat) : ReadsNumeric (readValue? steps depth) := by
  induction depth with
  | zero =>
    intro text document rest given
    unfold readValue? at given
    split at given
    · cases given
    · cases given
    · exact numeric_of_readScalar? given
  | succ depth ih =>
    intro text document rest given
    unfold readValue? at given
    split at given
    · exact readsNumeric_readArray? ih _ _ _ given
    · exact readsNumeric_readObject? ih _ _ _ given
    · exact numeric_of_readScalar? given

/-- **The document of a text is numeric.** -/
theorem numeric_of_parse? (parsed : parse? text = some document) : document.Numeric := by
  unfold parse? at parsed
  split at parsed
  · rename_i whole after given
    split at parsed
    · cases parsed
      exact readsNumeric_readValue? _ _ _ _ _ given
    · cases parsed
  · cases parsed

end Documents
end TextTemplate.Json
