/-
**A batch of any edits.**

A batch may hold edits that no text has room for: ones that end before they begin, lie beyond the
end of the text or begin or end inside of a character. They are skipped, though they are tested
against a text that the edits behind them have already changed.

* `Edit.isValid`: the span of an edit is a part of the text;
* `spliceOnce`: the text is walked through once from left to right; at each offset stands what an
  edit puts there, and a character that lies in the span of an edit is left out;
* `Splices.spliceOnce_eq`: a splice is what the walk gives;
* `applyEdits_filter_isValid`: **the edits that are not valid do nothing**;
* `applyEdits_eq_spliceOnce`: **a batch is the one-pass splice of its valid edits**, in whatever
  order it is given.
-/

import TextTemplate.Proofs.Edits.Splice

namespace TextTemplate

/-! ### Valid edits -/

/-- Whether an edit may be made in a text: it does not end before it begins, and it begins and ends
between two characters of the text or at one of its ends. -/
def Edit.isValid (text : Text) (edit : Edit) : Bool :=
  edit.span.start ≤ edit.span.stop && (text.splitAt? edit.span.start).isSome &&
    (text.splitAt? edit.span.stop).isSome

namespace Edit

variable {text : Text} {edit : Edit}

/-- The valid edits are those whose span is a slice of the text. -/
theorem isValid_iff_fits : edit.isValid text = true ↔ edit.Fits text := by
  simp only [isValid, Bool.and_eq_true, decide_eq_true_eq, Option.isSome_iff_exists, Prod.exists,
    Text.splitAt?_eq_some_iff]
  constructor
  · rintro ⟨⟨ordered, front, rest, rfl, atStart⟩, front', rest', same, atStop⟩
    obtain ⟨part, rfl, rfl⟩ :=
      Text.exists_append_of_byteSize_le same (by rw [atStart, atStop]; exact ordered)
    exact ⟨part, Text.slice?_eq_some_iff.mpr ⟨front, rest', same, atStart, atStop⟩⟩
  · rintro ⟨part, found⟩
    have ordered := Text.start_le_stop found
    obtain ⟨front, rest, rfl, atStart, atStop⟩ := Text.slice?_eq_some_iff.mp found
    exact ⟨⟨ordered, front, part ++ rest, List.append_assoc _ _ _, atStart⟩,
      front ++ part, rest, rfl, atStop⟩

/-- An edit that does not fit a text leaves it alone. -/
theorem apply_of_not_fits (skipped : ¬ edit.Fits text) : Edit.apply text edit = text := by
  rw [Edit.apply]
  cases replaced : Text.replaceRange? edit.span.start edit.span.stop edit.replacement text with
  | none => rfl
  | some result =>
    obtain ⟨front, middle, rest, rfl, atStart, atStop, -⟩ := Text.replaceRange?_eq_some replaced
    have fits : edit.Fits (front ++ middle ++ rest) :=
      ⟨middle, Text.slice?_eq_some_iff.mpr ⟨front, rest, rfl, atStart, atStop⟩⟩
    exact absurd fits skipped

/-- Whether an edit fits a text is decided by the front of the text up to its end. -/
theorem Fits.of_front {front rest rest' : Text} (fits : edit.Fits (front ++ rest))
    (within : edit.span.stop ≤ front.byteSize) : edit.Fits (front ++ rest') := by
  obtain ⟨part, found⟩ := fits
  obtain ⟨before, after, joined, atStart, atStop⟩ := Text.slice?_eq_some_iff.mp found
  obtain ⟨between, rfl, -⟩ :=
    Text.exists_append_of_byteSize_le joined.symm (by rw [atStop]; exact within)
  exact ⟨part, Text.slice?_eq_some_iff.mpr
    ⟨before, between ++ rest', List.append_assoc _ _ _, atStart, atStop⟩⟩

end Edit

/-- An edit that ends before a splice begins to change the text fits the text that it has made only
if it fits the text itself. -/
theorem Splices.fits_of_fits_result {text result : Text} {edits : List Edit} {edit : Edit}
    (splices : Splices 0 text edits result)
    (before : ∀ later ∈ edits, edit.span.stop ≤ later.span.start) (fits : edit.Fits result) :
    edit.Fits text := by
  cases splices with
  | keep => exact fits
  | @replace _ rest made edits gap old new later splices =>
    have within := before _ List.mem_cons_self
    simp only [Nat.zero_add] at within
    rw [List.append_assoc] at fits ⊢
    exact fits.of_front within

/-! ### The one-pass splice as a function -/

/-- What an edit puts at an offset, if one begins there. -/
def putAt (edits : List Edit) (offset : Nat) : Text :=
  match edits.find? fun edit => edit.span.start == offset with
  | some edit => edit.replacement
  | none => []

/-- Whether the character at an offset lies in the span of an edit. -/
def isReplaced (edits : List Edit) (offset : Nat) : Bool :=
  edits.any fun edit => edit.span.start ≤ offset && decide (offset < edit.span.stop)

/-- **The one-pass splice.** A text that begins at an offset is walked through once: what an edit
puts at an offset stands before the character there, and a character in the span of an edit is left
out. -/
def spliceFrom (edits : List Edit) (offset : Nat) : Text → Text
  | [] => putAt edits offset
  | c :: text =>
    putAt edits offset ++ (if isReplaced edits offset then [] else [c]) ++
      spliceFrom edits (offset + c.utf8Size) text

/-- The one-pass splice of a whole text. -/
def spliceOnce (text : Text) (edits : List Edit) : Text :=
  spliceFrom edits 0 text

section Walk

variable {edits edits' : List Edit} {edit : Edit} {offset : Nat}

theorem putAt_of_forall_ne (none' : ∀ edit ∈ edits, edit.span.start ≠ offset) :
    putAt edits offset = [] := by
  have missing : (edits.find? fun edit => edit.span.start == offset) = none :=
    List.find?_eq_none.mpr fun edit member => by simpa using none' edit member
  rw [putAt, missing]

theorem putAt_cons_self : putAt (edit :: edits) edit.span.start = edit.replacement := by
  simp [putAt]

theorem putAt_cons_of_ne (other : edit.span.start ≠ offset) :
    putAt (edit :: edits) offset = putAt edits offset := by
  simp [putAt, List.find?_cons_of_neg, other]

theorem isReplaced_of_forall_lt (behind : ∀ edit ∈ edits, offset < edit.span.start) :
    isReplaced edits offset = false := by
  simp only [isReplaced, List.any_eq_false, Bool.and_eq_true, decide_eq_true_eq, not_and, Nat.not_lt]
  intro edit member before
  exact absurd before (Nat.not_le.mpr (behind edit member))

theorem isReplaced_cons_of_stop_le (passed : edit.span.stop ≤ offset) :
    isReplaced (edit :: edits) offset = isReplaced edits offset := by
  simp only [isReplaced, List.any_cons, Nat.not_lt.mpr passed, decide_false, Bool.and_false,
    Bool.false_or]

/-- The order of edits that begin at different places does not matter to the walk. -/
theorem spliceFrom_perm (same : edits.Perm edits')
    (distinct : edits.Pairwise fun a b => a.span.start ≠ b.span.start) (text : Text) :
    spliceFrom edits offset text = spliceFrom edits' offset text := by
  have put (offset : Nat) : putAt edits offset = putAt edits' offset := by
    induction same with
    | nil => rfl
    | cons edit same ih =>
      have ih := ih (List.pairwise_cons.mp distinct).2
      by_cases here : edit.span.start = offset
      · rw [← here, putAt_cons_self, putAt_cons_self]
      · rw [putAt_cons_of_ne here, putAt_cons_of_ne here, ih]
    | swap a b edits =>
      have different : b.span.start ≠ a.span.start :=
        (List.pairwise_cons.mp distinct).1 a List.mem_cons_self
      by_cases here : a.span.start = offset
      · have other : b.span.start ≠ offset := here ▸ different
        rw [putAt_cons_of_ne other, ← here, putAt_cons_self, putAt_cons_self]
      · rw [putAt_cons_of_ne here]
        by_cases there : b.span.start = offset
        · rw [← there, putAt_cons_self, putAt_cons_self]
        · rw [putAt_cons_of_ne there, putAt_cons_of_ne there, putAt_cons_of_ne here]
    | trans first second ih ih' =>
      have distinct' := (first.pairwise_iff fun different => different.symm).mp distinct
      exact (ih distinct).trans (ih' distinct')
  have replaced (offset : Nat) : isReplaced edits offset = isReplaced edits' offset :=
    same.any_eq
  induction text generalizing offset with
  | nil => exact put offset
  | cons c text ih => rw [spliceFrom, spliceFrom, put, replaced, ih]

/-- Text before the first edit is kept. -/
theorem spliceFrom_before {gap text : Text}
    (behind : ∀ edit ∈ edits, offset + gap.byteSize ≤ edit.span.start) :
    spliceFrom edits offset (gap ++ text) =
      gap ++ spliceFrom edits (offset + gap.byteSize) text := by
  induction gap generalizing offset with
  | nil => rfl
  | cons c gap ih =>
    rw [Text.byteSize_cons, ← Nat.add_assoc] at behind ⊢
    have wide := c.utf8Size_pos
    have later : ∀ edit ∈ edits, offset < edit.span.start := fun edit member => by
      have start := behind edit member
      omega
    rw [List.cons_append, spliceFrom, ih behind, isReplaced_of_forall_lt later,
      putAt_of_forall_ne fun edit member => Nat.ne_of_gt (later edit member)]
    rfl

/-- An edit that has been passed does nothing more. -/
theorem spliceFrom_cons_of_lt (begun : edit.span.start < offset) (passed : edit.span.stop ≤ offset)
    (text : Text) : spliceFrom (edit :: edits) offset text = spliceFrom edits offset text := by
  induction text generalizing offset with
  | nil => exact putAt_cons_of_ne (Nat.ne_of_lt begun)
  | cons c text ih =>
    rw [spliceFrom, spliceFrom, putAt_cons_of_ne (Nat.ne_of_lt begun),
      isReplaced_cons_of_stop_le passed, ih (by omega) (by omega)]

/-- The characters in the span of an edit are left out. -/
theorem spliceFrom_inside {part text : Text} (begun : edit.span.start < offset)
    (inside : offset + part.byteSize ≤ edit.span.stop)
    (behind : ∀ later ∈ edits, offset + part.byteSize ≤ later.span.start) :
    spliceFrom (edit :: edits) offset (part ++ text) =
      spliceFrom (edit :: edits) (offset + part.byteSize) text := by
  induction part generalizing offset with
  | nil => rfl
  | cons c part ih =>
    rw [Text.byteSize_cons, ← Nat.add_assoc] at inside behind ⊢
    have wide := c.utf8Size_pos
    have replaced : isReplaced (edit :: edits) offset = true := by
      have before : edit.span.start ≤ offset ∧ offset < edit.span.stop := by omega
      simp [isReplaced, before]
    have nothing : putAt (edit :: edits) offset = [] := by
      rw [putAt_cons_of_ne (Nat.ne_of_lt begun)]
      exact putAt_of_forall_ne fun later member => by
        have start := behind later member
        omega
    rw [List.cons_append, spliceFrom, nothing, replaced, ih (by omega) inside behind]
    rfl

/-- At the beginning of an edit stands its replacement, and the walk goes on behind its span. -/
theorem spliceFrom_at {old rest : Text} (atStart : edit.span.start = offset)
    (atStop : edit.span.stop = offset + old.byteSize)
    (later : ∀ later ∈ edits, offset < later.span.start)
    (behind : ∀ later ∈ edits, offset + old.byteSize ≤ later.span.start) :
    spliceFrom (edit :: edits) offset (old ++ rest) =
      edit.replacement ++ spliceFrom edits (offset + old.byteSize) rest := by
  have put : putAt (edit :: edits) offset = edit.replacement := by
    rw [← atStart, putAt_cons_self]
  cases old with
  | nil =>
    -- an insertion: nothing of the text is left out
    have nothing : putAt edits offset = [] :=
      putAt_of_forall_ne fun edit member => Nat.ne_of_gt (later edit member)
    have passed : edit.span.stop ≤ offset := Nat.le_of_eq atStop
    cases rest with
    | nil => simp [spliceFrom, put, nothing]
    | cons c rest =>
      have wide := c.utf8Size_pos
      rw [List.nil_append, spliceFrom, Text.byteSize_nil, Nat.add_zero, spliceFrom, put, nothing,
        isReplaced_cons_of_stop_le passed, spliceFrom_cons_of_lt (by omega) (by omega)]
      simp
  | cons c old =>
    rw [Text.byteSize_cons, ← Nat.add_assoc] at atStop behind ⊢
    have wide := c.utf8Size_pos
    have replaced : isReplaced (edit :: edits) offset = true := by
      have before : edit.span.start ≤ offset ∧ offset < edit.span.stop := by omega
      simp [isReplaced, before]
    have begun : edit.span.start < offset + c.utf8Size := by omega
    rw [List.cons_append, spliceFrom, put, replaced,
      spliceFrom_inside begun (Nat.le_of_eq atStop.symm) behind,
      spliceFrom_cons_of_lt (by omega) (Nat.le_of_eq atStop)]
    simp

end Walk

/-- **A splice is what the walk gives.** -/
theorem Splices.spliceFrom_eq {offset : Nat} {text result : Text} {edits : List Edit}
    (splices : Splices offset text edits result) : spliceFrom edits offset text = result := by
  induction splices with
  | keep offset text =>
    have behind : ∀ edit ∈ ([] : List Edit), offset + text.byteSize ≤ edit.span.start :=
      fun edit member => absurd member List.not_mem_nil
    have kept : spliceFrom [] offset (text ++ []) = text ++ spliceFrom [] _ [] := spliceFrom_before behind
    simpa [spliceFrom, putAt] using kept
  | @replace offset rest result edits gap old new later splices ih =>
    have behind := splices.offset_le_start
    rw [Text.byteSize_append, ← Nat.add_assoc] at behind ih ⊢
    rw [List.append_assoc, spliceFrom_before, spliceFrom_at rfl rfl later behind, ih,
      List.append_assoc]
    intro edit member
    rcases List.mem_cons.mp member with rfl | inside
    · exact Nat.le_refl _
    · exact Nat.le_of_lt (later edit inside)

/-! ### Edits that are skipped -/

/-- **Edits that do not overlap**: they begin at different places, and of two that do not end before
they begin, one ends before the other begins. An empty span strictly inside of another one overlaps it,
since neither ends before the other begins: the text that is inserted there would be replaced. -/
structure EditsApart (edits : List Edit) : Prop where
  distinct : edits.Pairwise fun a b => a.span.start ≠ b.span.start
  apart : edits.Pairwise fun a b =>
    a.span.start ≤ a.span.stop → b.span.start ≤ b.span.stop →
      a.span.stop ≤ b.span.start ∨ b.span.stop ≤ a.span.start

instance (edits : List Edit) : Decidable (EditsApart edits) :=
  decidable_of_iff ((edits.Pairwise fun a b => a.span.start ≠ b.span.start) ∧
      edits.Pairwise fun a b => a.span.start ≤ a.span.stop → b.span.start ≤ b.span.stop →
        a.span.stop ≤ b.span.start ∨ b.span.stop ≤ a.span.start)
    ⟨fun ⟨distinct, apart⟩ => ⟨distinct, apart⟩, fun clear => ⟨clear.distinct, clear.apart⟩⟩

namespace EditsApart

variable {text : Text} {edits edits' : List Edit}

theorem perm (clear : EditsApart edits) (same : edits.Perm edits') : EditsApart edits' where
  distinct := (same.pairwise_iff fun different => different.symm).mp clear.distinct
  apart := (same.pairwise_iff fun either second first => (either first second).symm).mp
    clear.apart

/-- The valid ones of edits that do not overlap have sound spans. -/
theorem soundSpans (clear : EditsApart edits) (text : Text) :
    SoundSpans text ((edits.filter (Edit.isValid text)).map Edit.span) where
  distinct := List.pairwise_map.mpr (clear.distinct.sublist List.filter_sublist)
  apart := by
    refine List.pairwise_map.mpr ?_
    have among := clear.apart.sublist (List.filter_sublist (p := Edit.isValid text))
    refine among.imp_of_mem fun {a b} memberA memberB either => ?_
    obtain ⟨_, found⟩ := Edit.isValid_iff_fits.mp (List.mem_filter.mp memberA).2
    obtain ⟨_, found'⟩ := Edit.isValid_iff_fits.mp (List.mem_filter.mp memberB).2
    exact either (Text.start_le_stop found) (Text.start_le_stop found')
  placed := by
    rintro span member
    obtain ⟨edit, valid, rfl⟩ := List.mem_map.mp member
    exact Edit.isValid_iff_fits.mp (List.mem_filter.mp valid).2

/-- Edits in ascending order do the same as the valid ones among them. -/
theorem foldr_apply_filter (clear : EditsApart edits)
    (ascending : edits.Pairwise fun a b => a.span.start ≤ b.span.start) :
    edits.foldr (fun edit made => Edit.apply made edit) text =
      (edits.filter (Edit.isValid text)).foldr (fun edit made => Edit.apply made edit) text := by
  induction edits with
  | nil => rfl
  | cons edit edits ih =>
    obtain ⟨behind, ascending'⟩ := List.pairwise_cons.mp ascending
    obtain ⟨different, distinct'⟩ := List.pairwise_cons.mp clear.distinct
    obtain ⟨either, apart'⟩ := List.pairwise_cons.mp clear.apart
    have clear' : EditsApart edits := ⟨distinct', apart'⟩
    rw [List.foldr_cons, ih clear' ascending']
    by_cases valid : edit.isValid text = true
    · rw [List.filter_cons_of_pos valid, List.foldr_cons]
    rw [List.filter_cons_of_neg valid]
    -- what the edits behind have made begins like the text up to the end of this one
    obtain ⟨ordered, result, same, splices⟩ := exists_splices (clear'.soundSpans text)
    have made : (edits.filter (Edit.isValid text)).foldr (fun edit made => Edit.apply made edit)
        text = result := by
      have sorted : (edits.filter (Edit.isValid text)).Pairwise
          fun a b => a.span.start < b.span.start := by
        have both := (ascending'.and distinct').imp fun ⟨le, ne⟩ => Nat.lt_of_le_of_ne le ne
        exact both.sublist List.filter_sublist
      rw [← applyEdits_eq_of_splices splices same, applyEdits,
        mergeSort_eq_reverse (List.Perm.refl _) sorted, List.foldl_reverse]
    rw [made]
    refine Edit.apply_of_not_fits fun fits => valid (Edit.isValid_iff_fits.mpr ?_)
    refine splices.fits_of_fits_result (fun later member => ?_) fits
    obtain ⟨inside, valid'⟩ := List.mem_filter.mp (same.mem_iff.mpr member)
    obtain ⟨_, found⟩ := Edit.isValid_iff_fits.mp valid'
    obtain ⟨_, found'⟩ := fits
    have first := behind later inside
    have second := different later inside
    have third := either later inside (Text.start_le_stop found') (Text.start_le_stop found)
    have fourth := Text.start_le_stop found
    omega

end EditsApart

/-- **The edits that are not valid do nothing.** -/
theorem applyEdits_filter_isValid (text : Text) {edits : List Edit} (clear : EditsApart edits) :
    applyEdits text edits = applyEdits text (edits.filter (Edit.isValid text)) := by
  let ordered := edits.mergeSort fun a b => a.span.start ≤ b.span.start
  have same : edits.Perm ordered := (List.mergeSort_perm _ _).symm
  have clear' : EditsApart ordered := clear.perm same
  have ascending : ordered.Pairwise fun a b => a.span.start ≤ b.span.start :=
    pairwise_mergeSort_key (fun edit => edit.span.start) edits
  have strict : ordered.Pairwise fun a b => a.span.start < b.span.start :=
    (ascending.and clear'.distinct).imp fun ⟨le, ne⟩ => Nat.lt_of_le_of_ne le ne
  rw [applyEdits, mergeSort_eq_reverse same strict, List.foldl_reverse,
    clear'.foldr_apply_filter ascending, applyEdits,
    mergeSort_eq_reverse (same.filter _) (strict.sublist List.filter_sublist), List.foldl_reverse]

/-- **A batch is the one-pass splice of its valid edits**, and the order in which it is given does
not matter: for any edits that do not overlap, whatever their offsets are. -/
theorem applyEdits_eq_spliceOnce (text : Text) (edits : List Edit) (clear : EditsApart edits) :
    applyEdits text edits = spliceOnce text (edits.filter (Edit.isValid text)) ∧
      ∀ edits' : List Edit, edits'.Perm edits → applyEdits text edits' = applyEdits text edits := by
  have once {edits : List Edit} (clear : EditsApart edits) :
      applyEdits text edits = spliceOnce text (edits.filter (Edit.isValid text)) := by
    obtain ⟨ordered, result, same, splices⟩ := exists_splices (clear.soundSpans text)
    have distinct := clear.distinct.sublist (List.filter_sublist (p := Edit.isValid text))
    rw [applyEdits_filter_isValid text clear, applyEdits_eq_of_splices splices same, spliceOnce,
      spliceFrom_perm same distinct, splices.spliceFrom_eq]
  refine ⟨once clear, fun edits' same => ?_⟩
  have clear' := clear.perm same.symm
  rw [once clear, once clear', spliceOnce, spliceOnce]
  exact spliceFrom_perm (same.filter _)
    (clear'.distinct.sublist List.filter_sublist) text

/-- An insertion, a replacement that ends at the insertion, an edit inside of a character of two
bytes and one that lies beyond the text. -/
theorem applyEdits_of_mixed_batch :
    let text := "aé-b".toList
    let edits : List Edit := [⟨⟨4, 4⟩, ['x']⟩, ⟨⟨2, 3⟩, ['y']⟩, ⟨⟨3, 4⟩, ['+', '+']⟩,
      ⟨⟨18446744073709551614, 18446744073709551615⟩, ['z']⟩, ⟨⟨1, 0⟩, ['w']⟩]
    EditsApart edits ∧ applyEdits text edits = "aé++xb".toList := by
  intro text edits
  have clear : EditsApart edits := by decide
  exact ⟨clear, (applyEdits_eq_spliceOnce text edits clear).1.trans (by decide)⟩

/-- An insertion strictly inside of a replaced span is no batch of the theorem. It is made first, and so
a part of it is replaced, and the text behind it is kept instead. -/
example :
    let edits : List Edit := [⟨⟨1, 3⟩, ['X']⟩, ⟨⟨2, 2⟩, ['y']⟩]
    applyEdits "abcd".toList edits = "aXcd".toList ∧ spliceOnce "abcd".toList edits = "aXyd".toList := by
  cbv

end TextTemplate
