/-
**Spans and batches of edits.**

A span is a pair of byte offsets. An edit replaces the characters of a span; a batch of edits is
made from the last one to the first, so that an edit never moves the ones still to come.

* `Edit.apply` leaves a text alone where the span of the edit is no slice of it;
* `applyEdits` makes a batch, in descending order of the starts;
* `outermost` keeps the items whose span no other span encloses, in order of their starts.
-/

import TextTemplate.Text.Basic

namespace TextTemplate

/-- The bytes from `start` on, up to but without `stop`. -/
structure Span where
  start : Nat
  stop : Nat
deriving DecidableEq, Repr

/-- Whether a span lies within another one. -/
def Span.encloses (outer inner : Span) : Bool :=
  outer.start ≤ inner.start && inner.stop ≤ outer.stop

/-- The part of a text in a span, nothing where the span is no slice of the text. -/
def Span.of (span : Span) (text : Text) : Text :=
  text.slice span.start span.stop

/-- A pending replacement of the characters of a span. -/
structure Edit where
  span : Span
  replacement : Text
deriving DecidableEq, Repr

/-- Removes the characters of a span. -/
def Edit.delete (span : Span) : Edit := ⟨span, []⟩

/-- Makes one edit; an edit whose span is no slice of the text is skipped. -/
def Edit.apply (text : Text) (edit : Edit) : Text :=
  (Text.replaceRange? edit.span.start edit.span.stop edit.replacement text).getD text

/-- Makes a batch of edits, the greatest start first and equal starts in the order given. -/
def applyEdits (text : Text) (edits : List Edit) : Text :=
  (edits.mergeSort fun a b => b.span.start ≤ a.span.start).foldl Edit.apply text

/-- The items whose span is not enclosed by a different span of the list, in order of their
starts. -/
def outermost (span : α → Span) (items : List α) : List α :=
  let isInner (item : α) : Bool :=
    items.any fun other => span other != span item && (span other).encloses (span item)
  (items.filter fun item => !isInner item).mergeSort fun a b => (span a).start ≤ (span b).start

@[simp] theorem applyEdits_nil (text : Text) : applyEdits text [] = text := by
  simp [applyEdits]

end TextTemplate
