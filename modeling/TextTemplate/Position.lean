/-
**Positions in a text.**

A position counts the bytes before it, the line breaks before it and the characters since the last
of these. `Position.after` is the position behind a text, and counts as one would expect
(`after_offset`).
-/

import TextTemplate.Text.Basic

namespace TextTemplate

/-- A place in a text: its byte offset, its row and its column, all counted from zero. Columns count
characters. -/
structure Position where
  offset : Nat
  row : Nat
  column : Nat
deriving DecidableEq, Repr, Inhabited

namespace Position

/-- The start of a text. -/
def start : Position := ⟨0, 0, 0⟩

/-- The position behind one more character. -/
def step (here : Position) (c : Char) : Position :=
  if c = '\n' then ⟨here.offset + c.utf8Size, here.row + 1, 0⟩
  else ⟨here.offset + c.utf8Size, here.row, here.column + 1⟩

/-- The position behind some more text. -/
def after (here : Position) (text : Text) : Position :=
  text.foldl step here

@[simp] theorem after_nil (here : Position) : here.after [] = here := rfl

@[simp] theorem after_cons (here : Position) (c : Char) (text : Text) :
    here.after (c :: text) = (here.step c).after text := rfl

theorem after_append (here : Position) (front rest : Text) :
    here.after (front ++ rest) = (here.after front).after rest := by
  simp [after]

@[simp] theorem step_offset (here : Position) (c : Char) :
    (here.step c).offset = here.offset + c.utf8Size := by
  unfold step
  split <;> rfl

/-- The offset behind a text counts its bytes. -/
theorem after_offset (here : Position) (text : Text) :
    (here.after text).offset = here.offset + text.byteSize := by
  induction text generalizing here with
  | nil => simp
  | cons c text ih => simp [ih, Nat.add_assoc]

/-- The position as a reader counts it, from one. -/
def describe (here : Position) : String :=
  s!"line {here.row + 1}, column {here.column + 1}"

end Position
end TextTemplate
