/-
**Parts of a text between two of its tags.**

The body of a loop and the branches of a condition begin behind a tag and end in front of one. The
scanner cuts such a part into the very pieces that it finds there in the whole text.

* `BeginsAt`, `EndsAt`: where such a part may begin and end;
* `exists_part`: the part is made of some pieces of the text and the gap of the next one;
* `scan_slice`: **the tags of the part are those of the text that stand in it**, moved to its start;
* `length_slice_lt`: a part behind a tag is shorter than the text;
* `splices_replaced`: replacing some of the tags is one splice of the text.
-/

import TextTemplate.Proofs.Edits.Splice
import TextTemplate.Proofs.Tags.Decomposition

namespace TextTemplate

/-- A tag of some pieces is the one of a piece. -/
theorem exists_piece_of_mem_tagsFrom {here : Position} {pieces : List Piece} {tag : Tag}
    (member : tag ∈ tagsFrom here pieces) :
    ∃ before piece after, pieces = before ++ piece :: after ∧
      tag = piece.tag (here.after (textOf before)) := by
  induction pieces generalizing here with
  | nil => exact absurd member List.not_mem_nil
  | cons piece pieces ih =>
    rcases List.mem_cons.mp member with rfl | later
    · exact ⟨[], piece, pieces, rfl, rfl⟩
    · obtain ⟨before, piece', after, rfl, rfl⟩ := ih later
      refine ⟨piece :: before, piece', after, rfl, ?_⟩
      rw [textOf_cons, Position.after_append]

/-- The tags of some pieces and of those behind them. -/
theorem tagsFrom_append (here : Position) (before after : List Piece) :
    tagsFrom here (before ++ after) =
      tagsFrom here before ++ tagsFrom (here.after (textOf before)) after := by
  induction before generalizing here with
  | nil => rfl
  | cons piece before ih =>
    rw [List.cons_append, tagsFrom_cons, ih, tagsFrom_cons, textOf_cons, Position.after_append]
    rfl

/-- A piece that stands behind others has its tag among theirs. -/
theorem tag_mem_tagsFrom (here : Position) (before : List Piece) (piece : Piece)
    (after : List Piece) :
    piece.tag (here.after (textOf before)) ∈ tagsFrom here (before ++ piece :: after) := by
  rw [tagsFrom_append]
  exact List.mem_append_right _ List.mem_cons_self

/-! ### Where a part begins and ends -/

/-- Where a part of a text may begin: with the text, or behind one of its tags. -/
def BeginsAt (tags : List Tag) (offset : Nat) : Prop :=
  offset = 0 ∨ ∃ tag ∈ tags, tag.stop.offset = offset

/-- Where a part of a text may end: in front of one of its tags. -/
def EndsAt (tags : List Tag) (offset : Nat) : Prop :=
  ∃ tag ∈ tags, tag.start.offset = offset

/-- Some of the first pieces are fewer than the pieces before another one, if they are shorter than
those with the gap of that one. -/
theorem exists_between_of_shorter {before after before' after' : List Piece} {piece : Piece}
    (same : before ++ after = before' ++ piece :: after')
    (shorter : (textOf before).byteSize ≤ (textOf before' ++ piece.gap).byteSize) :
    ∃ middle, before' = before ++ middle ∧ after = middle ++ piece :: after' := by
  rcases List.append_eq_append_iff.mp same with between | ⟨middle, rfl, overlap⟩
  · exact between
  · cases middle with
    | nil => exact ⟨[], by simp, overlap.symm⟩
    | cons other middle =>
      -- the tag of the piece would stand in the shorter text
      obtain ⟨rfl, rfl⟩ := List.cons.inj overlap
      simp only [textOf_append, textOf_cons, Text.byteSize_append, Piece.byteSize_text] at shorter
      omega

section Pieces

variable {text last : Text} {pieces : List Piece} (whole : text = textOf pieces ++ last)
include whole

/-- Where a part begins, the text is divided between two pieces. -/
theorem exists_of_beginsAt {front rest : Text} (joined : text = front ++ rest)
    (begins : BeginsAt (tagsFrom Position.start pieces) front.byteSize) :
    ∃ before after, pieces = before ++ after ∧ front = textOf before ∧
      rest = textOf after ++ last := by
  have same : front ++ rest = textOf pieces ++ last := joined.symm.trans whole
  rcases begins with empty | ⟨tag, member, stop⟩
  · obtain rfl := Text.byteSize_eq_zero_iff.mp empty
    exact ⟨[], pieces, rfl, rfl, same⟩
  · obtain ⟨before, piece, after, rfl, rfl⟩ := exists_piece_of_mem_tagsFrom member
    have same : front ++ rest = textOf (before ++ [piece]) ++ (textOf after ++ last) := by
      rw [same]
      simp
    obtain ⟨rfl, rfl⟩ := Text.append_inj_of_byteSize same (by
      rw [← stop]
      simp [Piece.tag, Position.after_offset, Position.start])
    exact ⟨before ++ [piece], after, by simp, rfl, rfl⟩

/-- Where a part ends, the text is divided between the gap of a piece and its tag. -/
theorem exists_of_endsAt {front rest : Text} (joined : text = front ++ rest)
    (ends : EndsAt (tagsFrom Position.start pieces) front.byteSize) :
    ∃ before piece after, pieces = before ++ piece :: after ∧ front = textOf before ++ piece.gap ∧
      rest = piece.tagText ++ (textOf after ++ last) := by
  obtain ⟨tag, member, start⟩ := ends
  obtain ⟨before, piece, after, rfl, rfl⟩ := exists_piece_of_mem_tagsFrom member
  have same : front ++ rest =
      (textOf before ++ piece.gap) ++ (piece.tagText ++ (textOf after ++ last)) := by
    rw [← joined, whole]
    simp [Piece.text]
  obtain ⟨rfl, rfl⟩ := Text.append_inj_of_byteSize same (by
    rw [← start]
    simp [Piece.tag, Position.after_offset, Position.start])
  exact ⟨before, piece, after, rfl, rfl, rfl⟩

/-- **A part between two tags** is made of some of the pieces and the gap of the next one. -/
theorem exists_part {front part rest : Text} (joined : text = front ++ (part ++ rest))
    (begins : BeginsAt (tagsFrom Position.start pieces) front.byteSize)
    (ends : EndsAt (tagsFrom Position.start pieces) (front ++ part).byteSize) :
    ∃ before middle piece after, pieces = before ++ (middle ++ piece :: after) ∧
      front = textOf before ∧ part = textOf middle ++ piece.gap := by
  obtain ⟨before, after, split, rfl, tail⟩ := exists_of_beginsAt whole joined begins
  obtain ⟨tag, member, start⟩ := ends
  obtain ⟨before', piece, after', rfl, rfl⟩ := exists_piece_of_mem_tagsFrom member
  have size : (textOf before ++ part).byteSize = (textOf before' ++ piece.gap).byteSize := by
    rw [← start]
    simp [Piece.tag, Position.after_offset, Position.start]
  obtain ⟨middle, rfl, rfl⟩ := exists_between_of_shorter split.symm (by
    rw [← size, Text.byteSize_append]
    exact Nat.le_add_right _ _)
  have same : part ++ rest =
      (textOf middle ++ piece.gap) ++ (piece.tagText ++ (textOf after' ++ last)) := by
    rw [tail]
    simp [Piece.text]
  obtain ⟨rfl, -⟩ := Text.append_inj_of_byteSize same (by
    simp only [textOf_append, Text.byteSize_append] at size ⊢
    omega)
  exact ⟨before, middle, piece, after', List.append_assoc _ _ _, rfl, rfl⟩

end Pieces

/-! ### The tags of a part -/

/-- **A tag that stands further behind in another text**: the same tag but for its position. -/
structure Tag.Moved (distance : Nat) (tag moved : Tag) : Prop where
  kind : moved.kind = tag.kind
  body : moved.body = tag.body
  start : moved.start.offset = distance + tag.start.offset
  stop : moved.stop.offset = distance + tag.stop.offset

/-- A piece that stands further behind has its tag further behind. -/
theorem Piece.moved_tag {here there : Position} {distance : Nat}
    (further : there.offset = distance + here.offset) (piece : Piece) :
    (piece.tag here).Moved distance (piece.tag there) := by
  refine ⟨rfl, rfl, ?_, ?_⟩ <;> simp only [Piece.tag, Position.after_offset, further] <;> omega

/-- The tags of a part, `distance` behind the start of a text. -/
structure TagsWithin (tags : List Tag) (distance stop : Nat) (found : List Tag) : Prop where
  /-- Each of them stands in the text, before the end of the part. -/
  among : ∀ tag ∈ found, ∃ moved ∈ tags, tag.Moved distance moved ∧ moved.stop.offset ≤ stop
  /-- Each tag of the text that begins in the part is one of them. -/
  all : ∀ moved ∈ tags, distance ≤ moved.start.offset → moved.start.offset < stop →
    ∃ tag ∈ found, tag.Moved distance moved

/-- The tags of some pieces among others. -/
theorem tagsWithin_of_pieces (before middle after : List Piece) (gap : Piece) :
    TagsWithin (tagsFrom Position.start (before ++ (middle ++ gap :: after)))
      (textOf before).byteSize (textOf before ++ (textOf middle ++ gap.gap)).byteSize
      (tagsFrom Position.start middle) := by
  have further : ∀ front : List Piece, (Position.start.after (textOf (before ++ front))).offset =
      (textOf before).byteSize + (Position.start.after (textOf front)).offset := by
    intro front
    simp [Position.after_offset, Position.start]
  refine ⟨fun tag member => ?_, fun moved member begins ends => ?_⟩
  · obtain ⟨front, piece, rest, rfl, rfl⟩ := exists_piece_of_mem_tagsFrom member
    refine ⟨piece.tag (Position.start.after (textOf (before ++ front))), ?_,
      piece.moved_tag (further front), ?_⟩
    · have inside := tag_mem_tagsFrom Position.start (before ++ front) piece (rest ++ gap :: after)
      simpa using inside
    · simp [Piece.tag, Position.after_offset, Position.start]
      omega
  · obtain ⟨front, piece, rest, split, rfl⟩ := exists_piece_of_mem_tagsFrom member
    simp only [Piece.tag, Position.after_offset, Position.start, Text.byteSize_append] at begins ends
    -- the piece stands behind the first ones
    obtain ⟨front, rfl, behind⟩ := exists_between_of_shorter split (by
      rw [Text.byteSize_append]
      omega)
    -- and the next piece behind it
    simp only [textOf_append, Text.byteSize_append] at ends
    rcases List.append_eq_append_iff.mp behind with ⟨more, rfl, overlap⟩ | ⟨more, rfl, overlap⟩
    · cases more with
      | nil =>
        obtain ⟨rfl, rfl⟩ := List.cons.inj overlap
        simp only [textOf_append, textOf_nil, Text.byteSize_append, Text.byteSize_nil] at ends
        omega
      | cons other more =>
        obtain ⟨rfl, rfl⟩ := List.cons.inj overlap
        simp only [textOf_append, textOf_cons, Text.byteSize_append, Piece.byteSize_text] at ends
        omega
    · cases more with
      | nil =>
        obtain ⟨rfl, rfl⟩ := List.cons.inj overlap
        simp only [textOf_append, textOf_nil, Text.byteSize_append, Text.byteSize_nil] at ends
        omega
      | cons other more =>
        obtain ⟨rfl, rfl⟩ := List.cons.inj overlap
        exact ⟨_, tag_mem_tagsFrom Position.start front piece more, piece.moved_tag (further front)⟩

section Slice

variable {text : Text} {tags : List Tag} (scanned : scan text = .ok tags)
include scanned

/-- **The part of a text between two of its tags can be scanned**, and has the tags of the text that
stand in it. -/
theorem scan_slice {start stop : Nat} {part : Text} (found : text.slice? start stop = some part)
    (begins : BeginsAt tags start) (ends : EndsAt tags stop) :
    ∃ inside, scan part = .ok inside ∧ TagsWithin tags start stop inside := by
  obtain ⟨pieces, last, cut, rfl⟩ := scan_eq_ok_iff.mp scanned
  obtain ⟨front, rest, joined, rfl, rfl⟩ := Text.slice?_eq_some_iff.mp found
  rw [List.append_assoc] at joined
  obtain ⟨before, middle, gap, after, rfl, rfl, rfl⟩ := exists_part cut.joined joined begins ends
  have sound : ∀ piece ∈ middle, piece.Sound := fun piece member => cut.sound piece (by simp [member])
  have cut' : Cut (textOf middle ++ gap.gap) middle gap.gap :=
    ⟨rfl, sound, (cut.sound gap (by simp)).plain_gap⟩
  exact ⟨_, cut'.scanFrom_eq Position.start, tagsWithin_of_pieces before middle after gap⟩

/-- A part behind a tag is shorter than the text. -/
theorem length_slice_lt {tag : Tag} (member : tag ∈ tags) (stop : Nat) :
    (text.slice tag.stop.offset stop).length < text.length := by
  have wide := scan_start_add_four_le_stop scanned member
  rw [Text.slice]
  rcases part : text.slice? tag.stop.offset stop with _ | middle
  · obtain ⟨front, rest, joined, -, size⟩ := Text.slice?_eq_some_iff.mp (scan_slice? scanned member)
    rw [joined]
    simp only [Tag.text, TagKind.opener_eq, Option.getD_none, List.length_append, List.length_cons,
      List.length_nil]
    omega
  · obtain ⟨front, rest, rfl, size, -⟩ := Text.slice?_eq_some_iff.mp part
    cases front with
    | nil =>
      rw [Text.byteSize_nil] at size
      omega
    | cons c front =>
      simp only [Option.getD_some, List.cons_append, List.length_cons, List.length_append]
      omega

end Slice

/-! ### Tags that are replaced -/

/-- The text of some pieces, the first of which begins at `here`, with some of the tags replaced. -/
def replacedFrom (replace : Tag → Option Text) (here : Position) : List Piece → Text
  | [] => []
  | piece :: pieces =>
    piece.gap ++ (replace (piece.tag here)).getD piece.tagText ++
      replacedFrom replace (here.after piece.text) pieces

/-- **Replacing some of the tags of a text** is one splice of it. -/
theorem splices_replaced (replace : Tag → Option Text) (here : Position) (pieces : List Piece)
    (last : Text) :
    Splices here.offset (textOf pieces ++ last)
      ((tagsFrom here pieces).filterMap fun tag => (replace tag).map (Edit.mk tag.span))
      (replacedFrom replace here pieces ++ last) := by
  induction pieces generalizing here with
  | nil => exact Splices.keep _ _
  | cons piece pieces ih =>
    have rest := ih (here.after piece.text)
    rw [Position.after_offset] at rest
    rw [tagsFrom_cons, List.filterMap_cons, textOf_cons, replacedFrom]
    rcases replace (piece.tag here) with _ | new
    · have whole := rest.lengthen
      simp only [List.append_assoc, Piece.text, Option.map_none, Option.getD_none] at whole ⊢
      exact whole
    · have later : ∀ edit ∈ (tagsFrom (here.after piece.text) pieces).filterMap
          (fun tag => (replace tag).map (Edit.mk tag.span)),
          here.offset + piece.gap.byteSize < edit.span.start := by
        intro edit member
        have behind := rest.offset_le_start edit member
        rw [Piece.byteSize_text] at behind
        omega
      have whole := Splices.replace piece.gap piece.tagText new later rest
      have span : (piece.tag here).span =
          ⟨here.offset + piece.gap.byteSize, here.offset + (piece.gap ++ piece.tagText).byteSize⟩ := by
        simp [Tag.span, Piece.tag, Position.after_offset, Piece.text]
      rw [Option.map_some, span]
      simp only [List.append_assoc, Piece.text, Option.getD_some] at whole ⊢
      exact whole

end TextTemplate
