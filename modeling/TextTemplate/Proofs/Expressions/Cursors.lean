/-
**Cursors of the parser.**

What the parser does at a cursor depends on the text behind it only, not on the position.

* `exists_of_bind_eq_ok`, `eq_error_of_bind`: a step of the parser and the steps after it;
* `Cursor.take?_eq_some_iff`, `Cursor.expect_eq_ok_iff`, `Cursor.identifier_eq_ok_iff`: when a fixed
  text, a closing sign and a name are passed;
* `Cursor.At`: a cursor stands before a text, up to blank characters.
-/

import Mathlib.Data.List.DropRight
import Mathlib.Data.List.Infix
import TextTemplate.Expr.Parser
import TextTemplate.Proofs.Expressions.Names
import TextTemplate.Proofs.Matches
import TextTemplate.Text.Blank

namespace TextTemplate

/-! ### Steps of the parser -/

theorem ok_bind {ε α β : Type} (value : α) (next : α → Except ε β) :
    (Except.ok value >>= next) = next value := rfl

/-- A step that gives a result comes first, and the rest gives it from there. -/
theorem exists_of_bind_eq_ok {ε α β : Type} {first : Except ε α} {second : α → Except ε β}
    {result : β} (ok : first >>= second = .ok result) :
    ∃ value, first = .ok value ∧ second value = .ok result := by
  cases first with
  | error error => cases ok
  | ok value => exact ⟨value, rfl, ok⟩

/-- A step fails, or it gives a result and the rest fails from there. -/
theorem eq_error_of_bind {ε α β : Type} {first : Except ε α} {second : α → Except ε β} {error : ε}
    (failed : first >>= second = .error error) :
    first = .error error ∨ ∃ value, first = .ok value ∧ second value = .error error := by
  cases first with
  | error error' =>
    cases failed
    exact .inl rfl
  | ok value => exact .inr ⟨value, rfl, failed⟩

/-! ### What is passed at a cursor -/

namespace Text

theorem trimStart_trimStart (text : Text) : text.trimStart.trimStart = text.trimStart :=
  List.dropWhile_idempotent Text.isBlank text

theorem trimStart_of_not_isBlank {c : Char} {text : Text} (visible : isBlank c = false) :
    trimStart (c :: text) = c :: text := by
  rw [trimStart, List.dropWhile_cons_of_neg (by simp [visible])]

end Text

/-- No blanks stand in front of a name. -/
theorem IsName.trimStart_append {name : Text} (valid : IsName name) (text : Text) :
    Text.trimStart (name ++ text) = name ++ text := by
  obtain ⟨c, isFirst, begins⟩ := valid.first
  obtain ⟨name', rfl⟩ := List.head?_eq_some_iff.mp isFirst
  exact Text.trimStart_of_not_isBlank (isBlank_of_continuesName (continuesName_of_beginsName begins))

namespace Cursor

variable {here next : Cursor} {word : Text}

theorem take?_eq_some_iff : here.take? word = some next ↔
    ∃ rest, here.rest = word ++ rest ∧ here.behind word rest = next := by
  simp only [take?, Option.map_eq_some_iff, Text.dropPrefix?_eq_some_iff]

theorem rest_of_take? (taken : here.take? word = some next) : here.rest = word ++ next.rest := by
  obtain ⟨rest, begins, rfl⟩ := take?_eq_some_iff.mp taken
  exact begins

theorem exists_of_character {c : Char} (taken : here.take? [c] = some next) :
    ∃ rest, here.rest = c :: rest ∧ next = ⟨rest, here.position.step c⟩ := by
  obtain ⟨rest, begins, rfl⟩ := take?_eq_some_iff.mp taken
  exact ⟨rest, begins, rfl⟩

theorem rest_of_character {c : Char} (taken : here.take? [c] = some next) :
    here.rest = c :: next.rest :=
  rest_of_take? taken

theorem skipBlank_skipBlank (here : Cursor) : here.skipBlank.skipBlank = here.skipBlank := by
  have stands : here.skipBlank.rest.takeWhile Text.isBlank = [] := by
    rw [List.takeWhile_eq_nil_iff]
    intro filled
    exact List.dropWhile_get_zero_not Text.isBlank here.rest filled
  have rest_eq : here.skipBlank.skipBlank.rest = here.skipBlank.rest :=
    Text.trimStart_trimStart here.rest
  have position_eq : here.skipBlank.skipBlank.position = here.skipBlank.position := by
    show here.skipBlank.position.after (here.skipBlank.rest.takeWhile Text.isBlank) = _
    rw [stands]
    rfl
  exact congrArg₂ Cursor.mk rest_eq position_eq

theorem expect_eq_ok_iff {c : Char} :
    here.expect [c] = .ok next ↔ here.skipBlank.take? [c] = some next := by
  rw [expect]
  cases here.skipBlank.take? [c] with
  | some next' => simp
  | none =>
    simp only [reduceCtorEq, iff_false]
    split <;> exact fun ok => by cases ok

theorem identifier_eq_ok_iff {name : String} : here.identifier = .ok (name, next) ↔
    here.skipBlank.sees beginsName = true ∧
      ∃ run, here.skipBlank.takeWhile continuesName = (run, next) ∧ String.ofList run = name := by
  rw [identifier, sees]
  cases here.skipBlank.rest with
  | nil => simp [fail]
  | cons c rest =>
    by_cases begins : beginsName c = true
    · simp [begins, Prod.ext_iff, and_comm]
    · simp [begins, fail]

end Cursor

/-! ### Cursors before a text -/

namespace Cursor

/-- **The cursor stands before a text**, up to blank characters. -/
def At (here : Cursor) (text : Text) : Prop :=
  here.rest.trimStart = text.trimStart

namespace At

variable {here : Cursor} {text : Text}

theorem rest_skipBlank (stands : here.At text) : here.skipBlank.rest = text.trimStart :=
  stands

theorem skipBlank_eq (stands : here.At text) :
    here.skipBlank = ⟨text.trimStart, here.skipBlank.position⟩ := by
  rw [← stands.rest_skipBlank]

theorem skipBlank (stands : here.At text) : here.skipBlank.At text := by
  unfold At
  rw [stands.rest_skipBlank, Text.trimStart_trimStart]

theorem of_blank (stands : here.At (' ' :: text)) : here.At text :=
  stands

theorem of_rest (same : here.rest = text) : here.At text := by
  unfold At
  rw [same]

end At

variable {here : Cursor} {front rest : Text}

theorem at_behind (here : Cursor) (front rest : Text) : (here.behind front rest).At rest := rfl

theorem at_ofText (text : Text) : (ofText text).At text := rfl

theorem take?_of_rest (begins : here.rest = front ++ rest) :
    here.take? front = some (here.behind front rest) := by
  rw [take?, Text.dropPrefix?_eq_some_iff.mpr begins]
  rfl

theorem take?_of_head {c d : Char} (begins : here.rest = d :: rest) (other : c ≠ d) :
    here.take? [c] = none := by
  have differs : (c == d) = false := beq_false_of_ne other
  rw [take?, begins, Text.dropPrefix?, List.isPrefixOf?, differs]
  rfl

theorem sees_behind (ends : EndsName rest) : (here.behind front rest).sees continuesName = false := by
  cases rest with
  | nil => rfl
  | cons c rest => exact ends c rfl

theorem keyword?_of_rest (begins : here.rest = front ++ rest) (ends : EndsName rest) :
    here.keyword? front = some (here.behind front rest) := by
  rw [keyword?, take?_of_rest begins]
  simp [sees_behind ends]

/-- Another word than the one that stands there is not passed. -/
theorem keyword?_of_ne {word : Text} (continues : word.all continuesName = true)
    (other : here.rest.takeWhile continuesName ≠ word) : here.keyword? word = none := by
  cases dropped : Text.dropPrefix? word here.rest with
  | none =>
    rw [keyword?, take?, dropped]
    rfl
  | some rest =>
    have begins := Text.dropPrefix?_eq_some_iff.mp dropped
    rw [keyword?, take?_of_rest begins]
    refine if_pos ?_
    by_contra unseen
    refine other ?_
    rw [begins]
    refine takeWhile_append_of_endsName (List.all_eq_true.mp continues) fun c first => ?_
    obtain ⟨rest, rfl⟩ := List.head?_eq_some_iff.mp first
    exact Bool.not_eq_true _ |>.mp unseen

/-- A word and a blank. -/
theorem At.keyword {text : Text} (stands : here.At text) (word : Text)
    (begins : text.trimStart = word ++ ' ' :: rest) :
    ∃ next, here.skipBlank.keyword? word = some next ∧ next.At rest := by
  refine ⟨here.skipBlank.behind word (' ' :: rest), ?_, At.of_blank (At.of_rest rfl)⟩
  refine keyword?_of_rest (stands.rest_skipBlank.trans begins) fun c first => ?_
  cases first
  rfl

theorem identifier_of_at {name : Text} (valid : IsName name) (ends : EndsName rest)
    (stands : here.At (name ++ rest)) :
    ∃ next, here.identifier = .ok (String.ofList name, next) ∧ next.At rest := by
  obtain ⟨c, isFirst, begins⟩ := valid.first
  obtain ⟨name', rfl⟩ := List.head?_eq_some_iff.mp isFirst
  have rest_eq : here.skipBlank.rest = c :: name' ++ rest :=
    stands.rest_skipBlank.trans (valid.trimStart_append rest)
  have sees : here.skipBlank.sees beginsName = true := by
    rw [Cursor.sees, rest_eq]
    exact begins
  refine ⟨here.skipBlank.behind (c :: name') rest, ?_, At.of_rest rfl⟩
  refine identifier_eq_ok_iff.mpr ⟨sees, c :: name', ?_, rfl⟩
  rw [takeWhile, rest_eq, takeWhile_append_of_endsName valid.all ends,
    dropWhile_append_of_endsName valid.all ends]

theorem expect_of_at {c : Char} (visible : Text.isBlank c = false) (stands : here.At (c :: rest)) :
    ∃ next, here.expect [c] = .ok next ∧ next.At rest := by
  have begins : here.skipBlank.rest = [c] ++ rest := by
    rw [stands.rest_skipBlank, Text.trimStart_of_not_isBlank visible]
    rfl
  exact ⟨here.skipBlank.behind [c] rest, expect_eq_ok_iff.mpr (take?_of_rest begins), At.of_rest rfl⟩

end Cursor

end TextTemplate
