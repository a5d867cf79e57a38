/-
**Batches of edits as one pass over the text.**

`Splices` is the plain account of a batch: the text is walked through once, what lies between the
edits is kept and each edited part is replaced. `applyEdits` works from the last edit to the first
on a text that changes under it.

* `Splices`: the edits of a batch in order of their starts, the text and the result;
* `applyEdits_eq_of_splices`: **a batch makes the one-pass splice**, in whatever order it is given;
* `noneSkipped_of_splices`: **no edit of such a batch is skipped**;
* `SoundSpans`: spans with different starts, apart from each other and each one a slice of the text;
* `exists_splices`: **edits with sound spans make a splice** once they are put in order.
-/

import Mathlib.Data.List.Pairwise
import TextTemplate.Span

namespace TextTemplate

/-! ### One replacement -/

theorem Text.splitAt?_append (front rest : Text) :
    Text.splitAt? front.byteSize (front ++ rest) = some (front, rest) :=
  Text.splitAt?_eq_some_iff.mpr ⟨rfl, rfl⟩

/-- A part of a text is replaced at its place. -/
theorem Text.replaceRange?_append (front old new rest : Text) :
    Text.replaceRange? front.byteSize (front ++ old).byteSize new (front ++ old ++ rest) =
      some (front ++ new ++ rest) := by
  have size : (front ++ old).byteSize - front.byteSize = old.byteSize := by
    rw [Text.byteSize_append]
    omega
  have ordered : front.byteSize ≤ (front ++ old).byteSize := by
    rw [Text.byteSize_append]
    omega
  rw [Text.replaceRange?, if_pos ordered, List.append_assoc, Text.splitAt?_append, size]
  simp only [Option.bind_eq_bind, Option.bind_some, Text.splitAt?_append]

/-- A text is its own slice at the place where it stands. -/
theorem Text.slice?_append (front part rest : Text) :
    Text.slice? front.byteSize (front ++ part).byteSize (front ++ part ++ rest) = some part :=
  Text.slice?_eq_some_iff.mpr ⟨front, rest, rfl, rfl, rfl⟩

namespace Edit

/-- **An edit fits a text** if its span is a slice of it; else it is skipped. -/
def Fits (text : Text) (edit : Edit) : Prop :=
  ∃ old, text.slice? edit.span.start edit.span.stop = some old

theorem apply_append (front old new rest : Text) :
    Edit.apply (front ++ old ++ rest) ⟨⟨front.byteSize, (front ++ old).byteSize⟩, new⟩ =
      front ++ new ++ rest := by
  rw [Edit.apply, Text.replaceRange?_append, Option.getD_some]

theorem fits_append (front old new rest : Text) :
    Fits (front ++ old ++ rest) ⟨⟨front.byteSize, (front ++ old).byteSize⟩, new⟩ :=
  ⟨old, Text.slice?_append front old rest⟩

end Edit

/-! ### The one-pass splice -/

/-- **A splice.** A text that begins at a byte offset keeps what lies between the spans of some
edits, which come in order, and has the replacements in the place of the spans. -/
inductive Splices : Nat → Text → List Edit → Text → Prop
  | keep (offset : Nat) (text : Text) : Splices offset text [] text
  | replace {offset : Nat} {rest result : Text} {edits : List Edit} (gap old new : Text) :
    (∀ later ∈ edits, offset + gap.byteSize < later.span.start) →
      Splices (offset + (gap ++ old).byteSize) rest edits result →
        Splices offset (gap ++ old ++ rest)
          (⟨⟨offset + gap.byteSize, offset + (gap ++ old).byteSize⟩, new⟩ :: edits)
          (gap ++ new ++ result)

namespace Splices

variable {offset : Nat} {text result : Text} {edits : List Edit}

theorem offset_le_start (splices : Splices offset text edits result) :
    ∀ edit ∈ edits, offset ≤ edit.span.start := by
  induction splices with
  | keep => exact fun edit member => absurd member List.not_mem_nil
  | replace gap old new later splices ih =>
    intro edit member
    rcases List.mem_cons.mp member with rfl | inside
    · exact Nat.le_add_right _ _
    · have behind := later edit inside
      omega

/-- The starts of a splice ascend. -/
theorem pairwise_start (splices : Splices offset text edits result) :
    edits.Pairwise fun a b => a.span.start < b.span.start := by
  induction splices with
  | keep => exact List.Pairwise.nil
  | replace gap old new later splices ih => exact List.pairwise_cons.mpr ⟨later, ih⟩

/-- Made from the last one to the first, the edits of a splice give its result, whatever stands in
front. -/
theorem foldr_apply (splices : Splices offset text edits result) (front : Text)
    (atFront : front.byteSize = offset) :
    edits.foldr (fun edit made => Edit.apply made edit) (front ++ text) = front ++ result := by
  induction splices generalizing front with
  | keep => rfl
  | @replace offset rest result edits gap old new later splices ih =>
    subst atFront
    have made := ih (front ++ (gap ++ old)) (Text.byteSize_append _ _)
    have regroup : front ++ (gap ++ old ++ rest) = front ++ (gap ++ old) ++ rest := by simp
    rw [List.foldr_cons, regroup, made]
    have applied := Edit.apply_append (front ++ gap) old new result
    rw [List.append_assoc front gap old, Text.byteSize_append, Text.byteSize_append] at applied
    rw [applied]
    simp

/-- Each edit of a splice fits the text that the edits behind it have made. -/
theorem fits_foldr (splices : Splices offset text edits result) (front : Text)
    (atFront : front.byteSize = offset) {before after : List Edit} {edit : Edit}
    (split : edits = before ++ edit :: after) :
    edit.Fits (after.foldr (fun edit made => Edit.apply made edit) (front ++ text)) := by
  induction splices generalizing front before with
  | keep => exact absurd split (by simp)
  | @replace offset rest result edits gap old new later splices ih =>
    subst atFront
    have regroup : front ++ (gap ++ old ++ rest) = front ++ (gap ++ old) ++ rest := by simp
    rw [regroup]
    cases before with
    | nil =>
      obtain ⟨rfl, rfl⟩ := List.cons.inj split
      rw [splices.foldr_apply (front ++ (gap ++ old)) (Text.byteSize_append _ _)]
      have fits := Edit.fits_append (front ++ gap) old new result
      rw [List.append_assoc front gap old, Text.byteSize_append, Text.byteSize_append] at fits
      exact fits
    | cons first before =>
      obtain ⟨_, rest'⟩ := List.cons.inj split
      exact ih (front ++ (gap ++ old)) (Text.byteSize_append _ _) rest'

/-- More text in front of a splice is kept. -/
theorem lengthen {front : Text} (splices : Splices (offset + front.byteSize) text edits result) :
    Splices offset (front ++ text) edits (front ++ result) := by
  generalize atStart : offset + front.byteSize = here at splices
  cases splices with
  | keep => exact keep _ _
  | @replace _ rest result edits gap old new later splices =>
    subst atStart
    have start : offset + front.byteSize + gap.byteSize = offset + (front ++ gap).byteSize := by
      rw [Text.byteSize_append, Nat.add_assoc]
    have stop : offset + front.byteSize + (gap ++ old).byteSize =
        offset + (front ++ gap ++ old).byteSize := by
      simp only [Text.byteSize_append, Nat.add_assoc]
    rw [start] at later ⊢
    rw [stop] at splices ⊢
    have longer := replace (front ++ gap) old new later splices
    simp only [List.append_assoc] at longer ⊢
    exact longer

/-- **Two splices one behind the other** are a splice, if no edit of the first one begins where the
second text does. -/
theorem append (first : Splices offset text edits result) {text' result' : Text}
    {edits' : List Edit} (second : Splices (offset + text.byteSize) text' edits' result')
    (before : ∀ edit ∈ edits, edit.span.start < offset + text.byteSize) :
    Splices offset (text ++ text') (edits ++ edits') (result ++ result') := by
  induction first with
  | keep offset text => exact second.lengthen
  | @replace offset rest result edits gap old new later splices ih =>
    have size : offset + (gap ++ old ++ rest).byteSize =
        offset + (gap ++ old).byteSize + rest.byteSize := by
      rw [Text.byteSize_append, Nat.add_assoc]
    rw [size] at second before
    have rest' := ih second fun edit member => before edit (List.mem_cons_of_mem _ member)
    have later' : ∀ edit ∈ edits ++ edits', offset + gap.byteSize < edit.span.start := by
      intro edit member
      rcases List.mem_append.mp member with inside | behind
      · exact later edit inside
      · have start := second.offset_le_start edit behind
        have first := before _ List.mem_cons_self
        exact Nat.lt_of_lt_of_le first start
    have whole := replace gap old new later' rest'
    simp only [List.append_assoc, List.cons_append] at whole ⊢
    exact whole

/-- The replacement of a whole text. -/
theorem single (offset : Nat) (old new : Text) :
    Splices offset old [⟨⟨offset, offset + old.byteSize⟩, new⟩] new := by
  have whole : Splices offset ([] ++ old ++ [])
      [⟨⟨offset + Text.byteSize [], offset + Text.byteSize ([] ++ old)⟩, new⟩] ([] ++ new ++ []) :=
    replace [] old new (fun edit member => absurd member List.not_mem_nil) (keep _ [])
  simpa using whole

end Splices

/-! ### The order of a batch -/

/-- Sorting by a number puts the numbers in ascending order. -/
theorem pairwise_mergeSort_key {α : Type} (key : α → Nat) (items : List α) :
    (items.mergeSort fun a b => key a ≤ key b).Pairwise fun a b => key a ≤ key b := by
  have sorted : (items.mergeSort fun a b => key a ≤ key b).Pairwise
      fun a b => decide (key a ≤ key b) = true :=
    List.pairwise_mergeSort
      (fun a b c first second => by simp only [decide_eq_true_eq] at *; omega)
      (fun a b => by simp only [Bool.or_eq_true, decide_eq_true_eq]; omega) items
  exact sorted.imp fun le => of_decide_eq_true le

/-- The order in which a batch is made: the reverse of the order of the starts. -/
theorem mergeSort_eq_reverse {edits ordered : List Edit} (same : edits.Perm ordered)
    (ascending : ordered.Pairwise fun a b => a.span.start < b.span.start) :
    (edits.mergeSort fun a b => b.span.start ≤ a.span.start) = ordered.reverse := by
  have descending : ordered.reverse.Pairwise fun a b => b.span.start ≤ a.span.start :=
    List.pairwise_reverse.mpr (ascending.imp Nat.le_of_lt)
  have sorted : (edits.mergeSort fun a b => b.span.start ≤ a.span.start).Pairwise
      fun a b => b.span.start ≤ a.span.start := by
    have ofMerge : (edits.mergeSort fun a b => b.span.start ≤ a.span.start).Pairwise
        fun a b => decide (b.span.start ≤ a.span.start) = true :=
      List.pairwise_mergeSort
        (fun a b c first second => by simp only [decide_eq_true_eq] at *; omega)
        (fun a b => by simp only [Bool.or_eq_true, decide_eq_true_eq]; omega) edits
    exact ofMerge.imp fun le => of_decide_eq_true le
  have rearranged : (edits.mergeSort fun a b => b.span.start ≤ a.span.start).Perm
      ordered.reverse :=
    (List.mergeSort_perm _ _).trans (same.trans (List.reverse_perm ordered).symm)
  refine List.Perm.eq_of_pairwise (fun a b memberA memberB le ge => ?_) sorted descending rearranged
  -- two edits of one start are the same edit, since the starts ascend
  have equal : a.span.start = b.span.start := Nat.le_antisymm ge le
  by_contra different
  have inOrdered : a ∈ ordered := List.mem_reverse.mp (rearranged.mem_iff.mp memberA)
  have inOrdered' : b ∈ ordered := List.mem_reverse.mp memberB
  have distinct : ordered.Pairwise fun a b => a.span.start ≠ b.span.start :=
    ascending.imp Nat.ne_of_lt
  have symmetric : Std.Symm fun a b : Edit => a.span.start ≠ b.span.start := ⟨fun _ _ => Ne.symm⟩
  exact distinct.forall inOrdered inOrdered' different equal

/-- **A batch makes the one-pass splice**, in whatever order it is given. -/
theorem applyEdits_eq_of_splices {text result : Text} {edits ordered : List Edit}
    (splices : Splices 0 text ordered result) (same : edits.Perm ordered) :
    applyEdits text edits = result := by
  rw [applyEdits, mergeSort_eq_reverse same splices.pairwise_start, List.foldl_reverse]
  exact splices.foldr_apply [] rfl

/-! ### Sound batches -/

/-- **No edit of a batch is skipped**: in the order in which the batch is made, each one fits the
text that the ones before it have made. -/
def NoneSkipped (text : Text) (edits : List Edit) : Prop :=
  ∀ before edit after,
    (edits.mergeSort fun a b => b.span.start ≤ a.span.start) = before ++ edit :: after →
      edit.Fits (before.foldl Edit.apply text)

theorem noneSkipped_of_splices {text result : Text} {edits ordered : List Edit}
    (splices : Splices 0 text ordered result) (same : edits.Perm ordered) :
    NoneSkipped text edits := by
  intro before edit after split
  rw [mergeSort_eq_reverse same splices.pairwise_start] at split
  have split' : ordered = after.reverse ++ edit :: before.reverse := by
    rw [← List.reverse_reverse ordered, split]
    simp
  have fits := splices.fits_foldr [] rfl split'
  rw [List.foldr_reverse] at fits
  exact fits

/-- **Sound spans** of a text: they begin at different places, do not overlap, and are slices of
the text, between two characters of it each. -/
structure SoundSpans (text : Text) (spans : List Span) : Prop where
  distinct : spans.Pairwise fun a b => a.start ≠ b.start
  apart : spans.Pairwise fun a b => a.stop ≤ b.start ∨ b.stop ≤ a.start
  placed : ∀ span ∈ spans, ∃ part, text.slice? span.start span.stop = some part

/-- A slice does not end before it begins. -/
theorem Text.start_le_stop {start stop : Nat} {text part : Text}
    (found : text.slice? start stop = some part) : start ≤ stop := by
  obtain ⟨front, rest, -, rfl, rfl⟩ := Text.slice?_eq_some_iff.mp found
  rw [Text.byteSize_append]
  exact Nat.le_add_right _ _

namespace SoundSpans

variable {text : Text} {spans : List Span}

/-- The order of the spans does not matter. -/
theorem perm {spans' : List Span} (sound : SoundSpans text spans) (same : spans.Perm spans') :
    SoundSpans text spans' where
  distinct := (same.pairwise_iff fun different => different.symm).mp sound.distinct
  apart := (same.pairwise_iff fun either => either.symm).mp sound.apart
  placed span member := sound.placed span (same.mem_iff.mpr member)

/-- Sound spans in order of their starts end one before the other begins. -/
theorem pairwise_stop_le (sound : SoundSpans text spans)
    (ascending : spans.Pairwise fun a b => a.start ≤ b.start) :
    spans.Pairwise fun a b => a.start < b.start ∧ a.stop ≤ b.start := by
  have together := (ascending.and sound.distinct).and sound.apart
  refine together.imp_of_mem fun {a b} memberA memberB related => ?_
  obtain ⟨⟨before, different⟩, either⟩ := related
  obtain ⟨part, found⟩ := sound.placed b memberB
  have ordered := Text.start_le_stop found
  omega

end SoundSpans

/-- Edits in order whose spans lie behind one another in a text make a splice of it. -/
theorem exists_splices_of_ordered {front text : Text} {edits : List Edit}
    (ordered : edits.Pairwise fun a b =>
      a.span.start < b.span.start ∧ a.span.stop ≤ b.span.start)
    (placed : ∀ edit ∈ edits, edit.Fits (front ++ text))
    (behind : ∀ edit ∈ edits, front.byteSize ≤ edit.span.start) :
    ∃ result, Splices front.byteSize text edits result := by
  induction edits generalizing front text with
  | nil => exact ⟨text, Splices.keep _ _⟩
  | cons edit edits ih =>
    obtain ⟨⟨start, stop⟩, new⟩ := edit
    rw [List.pairwise_cons] at ordered
    obtain ⟨first, later⟩ := ordered
    obtain ⟨old, found⟩ := placed _ List.mem_cons_self
    obtain ⟨front', rest, joined, atStart, atStop⟩ := Text.slice?_eq_some_iff.mp found
    rw [List.append_assoc] at joined
    obtain ⟨gap, rfl, rfl⟩ := Text.exists_append_of_byteSize_le joined
      (atStart ▸ behind _ List.mem_cons_self)
    have regroup : front ++ (gap ++ (old ++ rest)) = front ++ (gap ++ old) ++ rest := by simp
    obtain ⟨result, splices⟩ : ∃ result, Splices (front ++ (gap ++ old)).byteSize rest edits result := by
      refine ih later (fun other member => ?_) fun other member => ?_
      · have fits := placed other (List.mem_cons_of_mem _ member)
        rwa [regroup] at fits
      · rw [← List.append_assoc, atStop]
        exact (first other member).2
    have start' : start = front.byteSize + gap.byteSize := by
      rw [← Text.byteSize_append]
      exact atStart.symm
    have stop' : stop = front.byteSize + (gap ++ old).byteSize := by
      rw [← Text.byteSize_append, ← List.append_assoc]
      exact atStop.symm
    subst start' stop'
    rw [Text.byteSize_append] at splices
    have whole := Splices.replace gap old new (fun other member => (first other member).1) splices
    rw [List.append_assoc gap old rest] at whole
    exact ⟨_, whole⟩

/-- **Edits with sound spans make a splice** once they are put in order. -/
theorem exists_splices {text : Text} {edits : List Edit}
    (sound : SoundSpans text (edits.map Edit.span)) :
    ∃ ordered result, edits.Perm ordered ∧ Splices 0 text ordered result := by
  let ordered := edits.mergeSort fun a b => a.span.start ≤ b.span.start
  have same : edits.Perm ordered := (List.mergeSort_perm _ _).symm
  have sound' : SoundSpans text (ordered.map Edit.span) := sound.perm (same.map Edit.span)
  have ascending : ordered.Pairwise fun a b => a.span.start ≤ b.span.start :=
    pairwise_mergeSort_key (fun edit => edit.span.start) edits
  have behind := sound'.pairwise_stop_le (List.pairwise_map.mpr ascending)
  obtain ⟨result, splices⟩ : ∃ result, Splices (Text.byteSize []) text ordered result :=
    exists_splices_of_ordered (List.pairwise_map.mp behind)
      (fun edit member => sound'.placed _ (List.mem_map_of_mem member))
      (fun edit _ => Nat.zero_le _)
  exact ⟨ordered, result, same, splices⟩

end TextTemplate
