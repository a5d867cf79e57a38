/-
**Texts and byte offsets.**

A text is a list of characters. A place in it is named by its byte offset, the number of UTF-8 bytes
before it, and only the offsets between two characters name a place.

* `exists_append_of_byteSize_le`: of two fronts of a text the shorter one begins the other;
* `splitAt?_eq_some_iff`: a text splits at an offset exactly into a front part of that many bytes
  and the part after it;
* `slice?_eq_some_iff`: a slice is the middle of three parts;
* `replaceRange?_eq_some`: replacing a range keeps the parts around it.
-/

namespace TextTemplate

/-- A text as the list of its characters. -/
abbrev Text := List Char

namespace Text

/-- The number of bytes of a text in UTF-8. -/
def byteSize (text : Text) : Nat :=
  text.foldr (fun c size => c.utf8Size + size) 0

@[simp] theorem byteSize_nil : byteSize [] = 0 := rfl

@[simp] theorem byteSize_cons (c : Char) (text : Text) :
    byteSize (c :: text) = c.utf8Size + byteSize text := rfl

@[simp] theorem byteSize_append (front rest : Text) :
    byteSize (front ++ rest) = byteSize front + byteSize rest := by
  induction front with
  | nil => simp
  | cons c front ih => simp [ih, Nat.add_assoc]

@[simp] theorem byteSize_reverse (text : Text) : byteSize text.reverse = byteSize text := by
  induction text with
  | nil => rfl
  | cons c text ih => simp [ih, Nat.add_comm]

theorem byteSize_eq_zero_iff {text : Text} : text.byteSize = 0 ↔ text = [] := by
  cases text with
  | nil => simp
  | cons c text =>
    have positive := c.utf8Size_pos
    simp only [byteSize_cons, reduceCtorEq, iff_false]
    omega

/-- Of two ways to divide a text, the one with the shorter front divides the front of the other. -/
theorem exists_append_of_byteSize_le {front rest front' rest' : Text}
    (same : front ++ rest = front' ++ rest') (shorter : front.byteSize ≤ front'.byteSize) :
    ∃ between, front' = front ++ between ∧ rest = between ++ rest' := by
  rcases List.append_eq_append_iff.mp same with ⟨between, longer, tail⟩ | ⟨between, longer, tail⟩
  · exact ⟨between, longer, tail⟩
  · have empty : between = [] := by
      rw [longer, byteSize_append] at shorter
      exact byteSize_eq_zero_iff.mp (by omega)
    subst empty
    refine ⟨[], ?_, ?_⟩
    · rw [longer, List.append_nil, List.append_nil]
    · rw [tail]
      rfl

/-- Of two ways to divide a text with fronts of one size, both are the same. -/
theorem append_inj_of_byteSize {front rest front' rest' : Text}
    (same : front ++ rest = front' ++ rest') (size : front.byteSize = front'.byteSize) :
    front = front' ∧ rest = rest' := by
  obtain ⟨between, rfl, rfl⟩ := exists_append_of_byteSize_le same (Nat.le_of_eq size)
  rw [byteSize_append] at size
  obtain rfl := byteSize_eq_zero_iff.mp (show between.byteSize = 0 by omega)
  exact ⟨(List.append_nil _).symm, rfl⟩

/-- Moves characters from `after` to the reversed `before` until `offset` bytes are used up. -/
def splitAfter? : Nat → Text → Text → Option (Text × Text)
  | 0, before, after => some (before.reverse, after)
  | _ + 1, _, [] => none
  | offset + 1, before, c :: after =>
    if c.utf8Size ≤ offset + 1 then splitAfter? (offset + 1 - c.utf8Size) (c :: before) after
    else none

/-- Splits a text at a byte offset; `none` if the offset lies beyond the end or inside a
character. -/
def splitAt? (offset : Nat) (text : Text) : Option (Text × Text) :=
  splitAfter? offset [] text

theorem splitAfter?_zero_eq_some_iff {before after front rest : Text} :
    splitAfter? 0 before after = some (front, rest) ↔
      ∃ moved, front = before.reverse ++ moved ∧ after = moved ++ rest ∧ byteSize moved = 0 := by
  have whole : splitAfter? 0 before after = some (before.reverse, after) := by
    cases after <;> rfl
  rw [whole, Option.some.injEq, Prod.mk.injEq]
  constructor
  · rintro ⟨rfl, rfl⟩
    exact ⟨[], (List.append_nil _).symm, rfl, rfl⟩
  · rintro ⟨moved, rfl, rfl, size⟩
    obtain rfl := byteSize_eq_zero_iff.mp size
    exact ⟨(List.append_nil _).symm, rfl⟩

/-- A front part that is not empty begins with the first character. -/
theorem exists_cons_of_append {c : Char} {after moved rest : Text} (split : c :: after = moved ++ rest)
    (filled : 0 < moved.byteSize) : ∃ moved', moved = c :: moved' ∧ after = moved' ++ rest := by
  cases moved with
  | nil => exact absurd filled (Nat.lt_irrefl 0)
  | cons d moved =>
    obtain ⟨rfl, rfl⟩ := List.cons.inj split
    exact ⟨moved, rfl, rfl⟩

theorem splitAfter?_eq_some_iff {offset : Nat} {before after front rest : Text} :
    splitAfter? offset before after = some (front, rest) ↔
      ∃ moved, front = before.reverse ++ moved ∧ after = moved ++ rest ∧
        byteSize moved = offset := by
  induction after generalizing offset before with
  | nil =>
    cases offset with
    | zero => exact splitAfter?_zero_eq_some_iff
    | succ n =>
      constructor
      · simp [splitAfter?]
      · rintro ⟨moved, rfl, split, size⟩
        obtain ⟨rfl, rfl⟩ := List.append_eq_nil_iff.mp split.symm
        simp at size
  | cons c after ih =>
    cases offset with
    | zero => exact splitAfter?_zero_eq_some_iff
    | succ n =>
      rw [splitAfter?]
      split
      · rename_i fits
        rw [ih]
        constructor
        · rintro ⟨moved, rfl, rfl, size⟩
          exact ⟨c :: moved, by simp, by simp, by simp only [byteSize_cons]; omega⟩
        · rintro ⟨moved, rfl, split, size⟩
          obtain ⟨moved, rfl, rfl⟩ := exists_cons_of_append split (by omega)
          simp only [byteSize_cons] at size
          exact ⟨moved, by simp, rfl, by omega⟩
      · rename_i tooWide
        constructor
        · simp
        · rintro ⟨moved, rfl, split, size⟩
          obtain ⟨moved, rfl, rfl⟩ := exists_cons_of_append split (by omega)
          simp only [byteSize_cons] at size
          omega

/-- A text splits at an offset exactly into a front part of that many bytes and the rest. -/
theorem splitAt?_eq_some_iff {offset : Nat} {text front rest : Text} :
    splitAt? offset text = some (front, rest) ↔
      text = front ++ rest ∧ byteSize front = offset := by
  simp [splitAt?, splitAfter?_eq_some_iff]

/-- The characters between two byte offsets; `none` if they are out of order or one of them is no
place in the text. -/
def slice? (start stop : Nat) (text : Text) : Option Text :=
  if start ≤ stop then do
    let (_, rest) ← splitAt? start text
    let (middle, _) ← splitAt? (stop - start) rest
    some middle
  else none

/-- The characters between two byte offsets, nothing where `slice?` has no answer. -/
def slice (start stop : Nat) (text : Text) : Text :=
  (slice? start stop text).getD []

theorem slice?_eq_some_iff {start stop : Nat} {text middle : Text} :
    slice? start stop text = some middle ↔
      ∃ front rest, text = front ++ middle ++ rest ∧ byteSize front = start ∧
        byteSize (front ++ middle) = stop := by
  unfold slice?
  split
  · rename_i ordered
    simp only [Option.bind_eq_bind, Option.bind_eq_some_iff, Prod.exists, splitAt?_eq_some_iff,
      Option.some.injEq]
    constructor
    · rintro ⟨front, _, ⟨rfl, atStart⟩, m, rest, ⟨rfl, size⟩, rfl⟩
      exact ⟨front, rest, by simp, atStart, by simp; omega⟩
    · rintro ⟨front, rest, rfl, atStart, atStop⟩
      simp only [byteSize_append] at atStop
      exact ⟨front, middle ++ rest, ⟨by simp, atStart⟩, middle, rest, ⟨rfl, by omega⟩, rfl⟩
  · rename_i unordered
    simp only [reduceCtorEq, false_iff, not_exists, not_and]
    rintro front rest rfl rfl
    simp only [byteSize_append]
    omega

/-- Puts `replacement` in place of the characters between two byte offsets; `none` where `slice?`
has no answer. -/
def replaceRange? (start stop : Nat) (replacement text : Text) : Option Text :=
  if start ≤ stop then do
    let (front, rest) ← splitAt? start text
    let (_, after) ← splitAt? (stop - start) rest
    some (front ++ replacement ++ after)
  else none

/-- Replacing a range keeps what stands before and after it. -/
theorem replaceRange?_eq_some {start stop : Nat} {replacement text result : Text}
    (replaced : replaceRange? start stop replacement text = some result) :
    ∃ front middle rest, text = front ++ middle ++ rest ∧ byteSize front = start ∧
      byteSize (front ++ middle) = stop ∧ result = front ++ replacement ++ rest := by
  unfold replaceRange? at replaced
  split at replaced
  · rename_i ordered
    simp only [Option.bind_eq_bind, Option.bind_eq_some_iff, Prod.exists, splitAt?_eq_some_iff,
      Option.some.injEq] at replaced
    obtain ⟨front, _, ⟨rfl, atStart⟩, middle, after, ⟨rfl, size⟩, rfl⟩ := replaced
    exact ⟨front, middle, after, by simp, atStart, by simp; omega, rfl⟩
  · simp at replaced

end Text
end TextTemplate
