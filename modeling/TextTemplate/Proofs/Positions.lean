/-
**What positions count.**

Nothing is said here of how a position is kept while a text is read: the bytes, the line breaks and
the last line are those of the text in front of it.

* `IsLastLine`: what stands behind the last line break of a text, or all of it;
* `Position.Measures`: a position counts the text in front of it;
* `measures_after`: **the position behind a text counts that text**, character by character
  (`Position.Measures.step`);
* `IsPlaceBehind`: the line and the column behind a text, as a reader is told them.
-/

import TextTemplate.Position

namespace TextTemplate

/-- **The last line of a text**: what stands behind the last line break, or all of the text if there
is none. -/
structure IsLastLine (text line : Text) : Prop where
  unbroken : '\n' ∉ line
  behind : text = line ∨ ∃ before, text = before ++ '\n' :: line

/-- **A position counts a text**: its bytes, its line breaks and the characters of its last line. -/
structure Position.Measures (here : Position) (front : Text) : Prop where
  offset : here.offset = front.byteSize
  row : here.row = front.count '\n'
  column : ∃ line, IsLastLine front line ∧ here.column = line.length

/-- **The place behind a text, as a reader counts it**: the lines from one, and from one the characters
of the last line. -/
def IsPlaceBehind (front : Text) (place : String) : Prop :=
  ∃ line, IsLastLine front line ∧
    place = "line " ++ toString (front.count '\n' + 1) ++ ", column " ++ toString (line.length + 1)

namespace IsLastLine

variable {text line : Text}

/-- A line break begins an empty line. -/
theorem concat_break (text : Text) : IsLastLine (text ++ ['\n']) [] :=
  ⟨List.not_mem_nil, .inr ⟨text, rfl⟩⟩

/-- Any other character goes on with the line. -/
theorem concat {c : Char} (last : IsLastLine text line) (other : c ≠ '\n') :
    IsLastLine (text ++ [c]) (line ++ [c]) := by
  refine ⟨fun broken => ?_, ?_⟩
  · rcases List.mem_append.mp broken with inside | atEnd
    · exact last.unbroken inside
    · exact other (List.mem_singleton.mp atEnd).symm
  · rcases last.behind with rfl | ⟨before, rfl⟩
    · exact .inl rfl
    · exact .inr ⟨before, by simp⟩

end IsLastLine

namespace Position.Measures

/-- One more character is counted. -/
theorem step {here : Position} {front : Text} (measures : here.Measures front) (c : Char) :
    (here.step c).Measures (front ++ [c]) := by
  obtain ⟨line, last, columns⟩ := measures.column
  have offset : (here.step c).offset = (front ++ [c]).byteSize := by
    rw [step_offset, measures.offset, Text.byteSize_append, Text.byteSize_cons, Text.byteSize_nil]
    rfl
  by_cases broken : c = '\n'
  · subst broken
    refine ⟨offset, ?_, [], .concat_break front, ?_⟩
    · simp [Position.step, measures.row]
    · simp [Position.step]
  · refine ⟨offset, ?_, line ++ [c], last.concat broken, ?_⟩
    · simp [Position.step, broken, measures.row]
    · simp [Position.step, broken, columns]

/-- Some more text is counted. -/
theorem after {here : Position} {front : Text} (measures : here.Measures front) (text : Text) :
    (here.after text).Measures (front ++ text) := by
  induction text generalizing here front with
  | nil =>
    rw [List.append_nil]
    exact measures
  | cons c text ih =>
    have counted := ih (measures.step c)
    rw [List.append_assoc] at counted
    exact counted

/-- A reader is told the place behind the text that is counted. -/
theorem isPlaceBehind {here : Position} {front : Text} (measures : here.Measures front) :
    IsPlaceBehind front here.describe := by
  obtain ⟨line, last, columns⟩ := measures.column
  refine ⟨line, last, ?_⟩
  rw [← measures.row, ← columns]
  rfl

end Position.Measures

/-- The start of a text counts nothing. -/
theorem measures_start : Position.start.Measures [] :=
  ⟨rfl, rfl, [], ⟨List.not_mem_nil, .inl rfl⟩, rfl⟩

/-- **The position behind a text counts that text.** -/
theorem measures_after (text : Text) : (Position.start.after text).Measures text :=
  measures_start.after text

end TextTemplate
