/-
**Tags replaced by plain text.**

Every pass over a template puts other texts in the place of some of its tags and hands the result to the
next pass, which scans it again. What stood on both sides of such a tag then meets the new text. As long
as that text is there and has no character of a delimiter, the two sides make nothing new with it.

* `Inert`: a text that makes no delimiter, whatever stands beside it;
* `lengthChange`: by how much a batch of edits moves what stands at an offset;
* `Tag.Shifted`: the same tag in another place;
* `Cut.exists_cut_of_replaced`: the gaps around a tag and the text that replaces it are one gap of the new
  text, and all other pieces stay as they are;
* `scan_of_replaced`: **the tags that are not replaced are the tags of the new text**, each of them moved
  by the change of length before it.
-/

import Mathlib.Data.List.Forall2
import TextTemplate.Proofs.Tags.Slices

namespace TextTemplate

/-! ### Texts without the characters of delimiters -/

/-- **A text that makes no delimiter**, whatever stands beside it: there is some text, and none of its
characters occurs in a delimiter. -/
structure Inert (text : Text) : Prop where
  filled : text ≠ []
  free : ∀ c ∈ text, c ≠ '{' ∧ c ≠ '}' ∧ c ≠ '%'

/-- A character that occurs in no delimiter ends none. -/
theorem Loose.of_ne_right (c : Char) {d : Char} (notOpen : d ≠ '{') (notClose : d ≠ '}')
    (notPercent : d ≠ '%') : Loose c d := by
  rw [loose_iff]
  refine ⟨fun kind opener => ?_, fun kind closer => notClose closer.2⟩
  cases kind
  · exact notOpen opener.2
  · exact notPercent opener.2

namespace Inert

variable {text : Text} (inert : Inert text)
include inert

theorem loose_left (c : Char) {d : Char} (member : d ∈ text) : Loose c d := by
  obtain ⟨notOpen, notClose, notPercent⟩ := inert.free d member
  exact Loose.of_ne_right c notOpen notClose notPercent

theorem loose_right {c : Char} (member : c ∈ text) (d : Char) : Loose c d := by
  obtain ⟨notOpen, notClose, notPercent⟩ := inert.free c member
  exact Loose.of_ne d notOpen notClose notPercent

/-- Behind a text without delimiters it is one with that text. -/
theorem plain_append {gap : Text} (plain : Plain gap) : Plain (gap ++ text) := by
  have alone : Plain text := by
    have pairs : text.Pairwise Loose :=
      List.pairwise_iff_forall_sublist.mpr fun among =>
        inert.loose_left _ (among.subset (List.mem_cons_of_mem _ List.mem_cons_self))
    exact pairs.isChain
  exact List.isChain_append.mpr
    ⟨plain, alone, fun c _ d first => inert.loose_left c (List.mem_of_mem_head? first)⟩

/-- It meets whatever follows it without a delimiter. -/
theorem loose_behind (gap : Text) {c d : Char} (last : c ∈ (gap ++ text).getLast?) : Loose c d := by
  rw [List.getLast?_append_of_ne_nil _ inert.filled] at last
  exact inert.loose_right (List.mem_of_mem_getLast? last) d

end Inert

/-! ### Changes of length -/

/-- **How many bytes further behind a batch of edits puts what stands at an offset**: each edit that ends
before it counts with the bytes that it puts there, less those that it takes away. -/
def lengthChange (offset : Nat) : List Edit → Int
  | [] => 0
  | edit :: edits =>
    (if edit.span.stop ≤ offset then
      (edit.replacement.byteSize : Int) - (edit.span.stop - edit.span.start) else 0) +
        lengthChange offset edits

theorem lengthChange_perm {edits edits' : List Edit} (same : edits.Perm edits') (offset : Nat) :
    lengthChange offset edits = lengthChange offset edits' := by
  induction same with
  | nil => rfl
  | cons edit _ ih => rw [lengthChange, lengthChange, ih]
  | swap a b edits =>
    simp only [lengthChange]
    omega
  | trans _ _ first second => exact first.trans second

/-- Edits that end behind an offset do not move what stands there. -/
theorem lengthChange_eq_zero {edits : List Edit} {offset : Nat}
    (behind : ∀ edit ∈ edits, offset < edit.span.stop) : lengthChange offset edits = 0 := by
  induction edits with
  | nil => rfl
  | cons edit edits ih =>
    have later := Nat.not_le.mpr (behind edit List.mem_cons_self)
    rw [lengthChange, if_neg later, ih fun other member => behind other (List.mem_cons_of_mem _ member)]
    rfl

/-- **The same tag in another place**, some bytes further behind or, if they are negative, in front. -/
structure Tag.Shifted (distance : Int) (tag moved : Tag) : Prop where
  kind : moved.kind = tag.kind
  text : moved.text = tag.text
  start : (moved.start.offset : Int) = tag.start.offset + distance
  stop : (moved.stop.offset : Int) = tag.stop.offset + distance

/-- A piece has the same tag wherever it begins. -/
theorem Piece.shifted_tag (piece : Piece) (here there : Position) :
    (piece.tag here).Shifted (there.offset - here.offset) (piece.tag there) := by
  refine ⟨rfl, rfl, ?_, ?_⟩ <;> simp only [Piece.tag, Position.after_offset] <;> omega

/-! ### The text that is left -/

/-- The edits that replace some of the tags. -/
def replacements (replace : Tag → Option Text) (tags : List Tag) : List Edit :=
  tags.filterMap fun tag => (replace tag).map (Edit.mk tag.span)

/-- The tags that are not replaced. -/
def remaining (replace : Tag → Option Text) (tags : List Tag) : List Tag :=
  tags.filter fun tag => (replace tag).isNone

section Pieces

variable {replace : Tag → Option Text} {here : Position} {pieces : List Piece}

/-- Each edit takes the place of a tag, behind the place where the first piece begins. -/
theorem lt_stop_of_mem_replacements {edit : Edit}
    (member : edit ∈ replacements replace (tagsFrom here pieces)) : here.offset < edit.span.stop := by
  obtain ⟨tag, inside, replaced⟩ := List.mem_filterMap.mp member
  obtain ⟨new, -, rfl⟩ := Option.map_eq_some_iff.mp replaced
  have behind := offset_le_start inside
  have wide := start_add_four_le_stop inside
  show here.offset < tag.stop.offset
  omega

/-- The edits of later tags do not move a tag. -/
theorem lengthChange_of_later (replace : Tag → Option Text) (here : Position) (piece : Piece)
    (pieces : List Piece) :
    lengthChange (piece.tag here).start.offset
      (replacements replace (tagsFrom (here.after piece.text) pieces)) = 0 := by
  refine lengthChange_eq_zero fun edit member => ?_
  have behind := lt_stop_of_mem_replacements member
  simp only [Piece.tag, Position.after_offset, Piece.byteSize_text] at behind ⊢
  omega

/-- **The pieces of a text some of whose tags are replaced.** A gap, the text that replaces the tag behind
it and the next gap become one gap. -/
theorem Cut.exists_cut_of_replaced {source last : Text} (cut : Cut source pieces last)
    (inert : ∀ tag ∈ tagsFrom here pieces, ∀ new ∈ replace tag, Inert new) :
    ∃ pieces' last', Cut (replacedFrom replace here pieces ++ last) pieces' last' ∧
      ∀ there : Position, List.Forall₂
        (fun tag moved => tag.Shifted (there.offset - here.offset +
          lengthChange tag.start.offset (replacements replace (tagsFrom here pieces))) moved)
        (remaining replace (tagsFrom here pieces)) (tagsFrom there pieces') := by
  induction pieces generalizing here source with
  | nil => exact ⟨[], last, Cut.nil cut.plain, fun _ => List.Forall₂.nil⟩
  | cons piece pieces ih =>
    obtain ⟨sound, -, rest⟩ := cut.uncons
    have others : ∀ tag ∈ tagsFrom (here.after piece.text) pieces, ∀ new ∈ replace tag, Inert new :=
      fun tag member => inert tag (List.mem_cons_of_mem _ member)
    obtain ⟨pieces', last', cut', shifted⟩ := ih rest others
    rw [tagsFrom_cons, remaining, List.filter_cons, replacements, List.filterMap_cons, replacedFrom]
    rcases replaced : replace (piece.tag here) with _ | new
    · refine ⟨piece :: pieces', last', ?_, fun there => List.Forall₂.cons ?_ ?_⟩
      · have whole := cut'.cons sound
        rwa [← List.append_assoc] at whole
      · have moved := piece.shifted_tag here there
        rw [← Int.add_zero ((there.offset : Int) - here.offset),
          ← lengthChange_of_later replace here piece pieces] at moved
        exact moved
      · refine (shifted (there.after piece.text)).imp fun tag moved same => ?_
        have distance : ((there.after piece.text).offset : Int) - (here.after piece.text).offset =
            there.offset - here.offset := by
          simp only [Position.after_offset]
          omega
        rwa [distance] at same
    · have inert' : Inert new := inert _ List.mem_cons_self new replaced
      obtain ⟨pieces'', last'', cut'', attached⟩ := cut'.attach (inert'.plain_append sound.plain_gap)
        fun c isLast d _ => inert'.loose_behind piece.gap isLast
      refine ⟨pieces'', last'', by simpa using cut'', fun there => ?_⟩
      rw [attached.tagsFrom_eq there]
      have behind : ∀ tag ∈ remaining replace (tagsFrom (here.after piece.text) pieces),
          (here.after piece.text).offset ≤ tag.start.offset :=
        fun tag member => offset_le_start (List.mem_of_mem_filter member)
      refine ((List.forall₂_and_left _ _).mpr ⟨behind, shifted (there.after (piece.gap ++ new))⟩).imp
        fun tag moved both => ?_
      obtain ⟨later, same⟩ := both
      -- the replaced tag lies before this one
      have passed : (piece.tag here).span.stop ≤ tag.start.offset := later
      have distance : ((there.after (piece.gap ++ new)).offset : Int) - (here.after piece.text).offset =
          there.offset - here.offset +
            (new.byteSize - ((piece.tag here).span.stop - (piece.tag here).span.start)) := by
        simp only [Tag.span, Piece.tag, Position.after_offset, Text.byteSize_append]
        omega
      rw [distance, Int.add_assoc] at same
      rw [Option.map_some, lengthChange, if_pos passed]
      exact same

end Pieces

/-- **The tags that are not replaced are the tags of the new text.** If some of the tags of a text are
replaced in one batch, each by a text that has no character of a delimiter, the result can be scanned, and
its tags are the others, in the same order and with the same kinds and texts. Each of them has moved by the
change of length before it. -/
theorem scan_of_replaced {source : Text} {tags : List Tag} (scanned : scan source = .ok tags)
    (replace : Tag → Option Text) (inert : ∀ tag ∈ tags, ∀ new ∈ replace tag, Inert new)
    {edits : List Edit} (batch : edits.Perm (replacements replace tags)) :
    ∃ left, scan (applyEdits source edits) = .ok left ∧
      List.Forall₂ (fun tag moved => tag.Shifted (lengthChange tag.start.offset edits) moved)
        (remaining replace tags) left := by
  obtain ⟨pieces, last, cut, rfl⟩ := scan_eq_ok_iff.mp scanned
  obtain ⟨pieces', last', cut', shifted⟩ := cut.exists_cut_of_replaced inert
  have splices := splices_replaced replace Position.start pieces last
  have made : applyEdits source edits = replacedFrom replace Position.start pieces ++ last := by
    rw [cut.joined]
    exact applyEdits_eq_of_splices splices batch
  refine ⟨tagsFrom Position.start pieces', ?_, (shifted Position.start).imp fun tag moved same => ?_⟩
  · rw [made]
    exact cut'.scanFrom_eq Position.start
  · rw [lengthChange_perm batch]
    simpa using same

/-- Both expression tags give way to a character of two bytes, the first one in front of a brace that
belongs to no tag. The statement tag is left, three bytes nearer to the start. -/
theorem scan_of_replaced_expressions :
    let source := "\x7b\x7ba\x7d\x7d\x7d\x7b% b %\x7dé\x7b\x7bc\x7d\x7d".toList
    let first : Tag := ⟨.expression, ⟨0, 0, 0⟩, ⟨5, 0, 5⟩, ['a']⟩
    let kept : Tag := ⟨.statement, ⟨6, 0, 6⟩, ⟨13, 0, 13⟩, [' ', 'b', ' ']⟩
    let last : Tag := ⟨.expression, ⟨15, 0, 14⟩, ⟨20, 0, 19⟩, ['c']⟩
    let replace : Tag → Option Text := fun tag =>
      if tag.kind = .expression then some ['é'] else none
    let edits : List Edit := [⟨last.span, ['é']⟩, ⟨first.span, ['é']⟩]
    scan source = .ok [first, kept, last] ∧ remaining replace [first, kept, last] = [kept] ∧
      lengthChange kept.start.offset edits = -3 ∧
      ∃ left, scan (applyEdits source edits) = .ok left ∧
        List.Forall₂ (fun tag moved => tag.Shifted (lengthChange tag.start.offset edits) moved)
          [kept] left := by
  intro source first kept last replace edits
  have scanned : scan source = .ok [first, kept, last] := by decide +kernel
  have inert : ∀ tag ∈ [first, kept, last], ∀ new ∈ replace tag, Inert new := by
    intro tag _ new replaced
    obtain ⟨-, rfl⟩ : tag.kind = .expression ∧ ['é'] = new := by simpa [replace] using replaced
    refine ⟨List.cons_ne_nil _ _, fun c member => ?_⟩
    obtain rfl := List.mem_singleton.mp member
    decide
  have batch : edits.Perm (replacements replace [first, kept, last]) := List.Perm.swap _ _ []
  exact ⟨scanned, rfl, by decide, scan_of_replaced scanned replace inert batch⟩

end TextTemplate
