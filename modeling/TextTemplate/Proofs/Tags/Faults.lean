/-
**Where the tags and the faults of a template are.**

The scanner walks over a text character by character. If it fails, it does so outside of a tag at a
closer, or because of an opener that it has passed and that is not closed as it should be. In front of
this delimiter it has found nothing but tags and text.

* `LeftOpen`: what keeps a tag from being closed;
* `Lies`: a fault is at the delimiter with which a text begins;
* `fails_of_scanFrom`: **a fault is at a stray closer or at an opener left open**, behind a text that
  can be cut into sound pieces;
* `scan_positions`: **the positions of tags and faults count the text in front of them**.
-/

import TextTemplate.Proofs.Positions
import TextTemplate.Proofs.Tags.Decomposition

namespace TextTemplate

/-! ### Faults -/

/-- **What keeps a tag from being closed**, by the text behind its opener: the text ends or another
tag opens before any closer, or the first closer is that of the other kind. -/
inductive LeftOpen (opened : TagKind) (text : Text) : ScanFault → Prop
  | ended (plain : Plain text) : LeftOpen opened text (.unterminated opened)
  | opener {body behind : Text} {kind : TagKind} (whole : text = body ++ (kind.opener ++ behind))
      (plain : Plain (body ++ ['{'])) : LeftOpen opened text (.unterminated opened)
  | closer {body behind : Text} {close : TagKind} (whole : text = body ++ (close.closer ++ behind))
      (plain : Plain (body ++ [close.closeMark])) (other : close ≠ opened) :
      LeftOpen opened text (.mismatched opened close)

/-- **A fault lies at the delimiter with which a text begins**: at a closer, or at the opener of a tag
that is not closed. -/
inductive Lies (text : Text) : ScanFault → Prop
  | stray {close : TagKind} {behind : Text} (whole : text = close.closer ++ behind) :
      Lies text (.unexpectedClose close)
  | pending {opened : TagKind} {behind : Text} {fault : ScanFault}
      (whole : text = opened.opener ++ behind) (leftOpen : LeftOpen opened behind fault) :
      Lies text fault

section Plain

variable {c d : Char} {body rest behind : Text} {e : Char}

/-- A character that makes no delimiter with the next one is passed before a plain part. -/
theorem plain_cons (loose : Loose c d) (whole : d :: rest = body ++ e :: behind)
    (plain : Plain (body ++ [e])) : Plain (c :: body ++ [e]) := by
  refine List.isChain_cons.mpr ⟨fun first head => ?_, plain⟩
  have same : first = d := by
    cases body with
    | nil =>
      cases head
      exact (List.cons.inj whole).1.symm
    | cons first' body =>
      cases head
      exact (List.cons.inj whole).1.symm
  rw [same]
  exact loose

end Plain

/-- A tag is left open as before if a character is passed that makes no delimiter with the next
one. -/
theorem LeftOpen.cons {opened : TagKind} {fault : ScanFault} {c d : Char} {rest : Text}
    (leftOpen : LeftOpen opened (d :: rest) fault) (loose : Loose c d) :
    LeftOpen opened (c :: d :: rest) fault := by
  cases leftOpen with
  | ended plain => exact .ended (List.isChain_cons_cons.mpr ⟨loose, plain⟩)
  | @opener body behind kind whole plain =>
    have whole' : d :: rest = body ++ '{' :: (kind.openMark :: behind) := by
      rw [whole, TagKind.opener_eq]
      rfl
    have whole : c :: d :: rest = (c :: body) ++ (kind.opener ++ behind) := congrArg (c :: ·) whole
    exact .opener whole (plain_cons loose whole' plain)
  | @closer body behind close whole plain other =>
    have whole' : d :: rest = body ++ close.closeMark :: ('}' :: behind) := by
      rw [whole, TagKind.closer_eq]
      rfl
    have whole : c :: d :: rest = (c :: body) ++ (close.closer ++ behind) := congrArg (c :: ·) whole
    exact .closer whole (plain_cons loose whole' plain) other

/-! ### How the scanner fails -/

/-- **What it means that the scanner fails.** Outside of a tag, some tags and text are passed before
the delimiter of the fault. Inside of one, the fault is that of the tag, or the tag ends. -/
def Fails : Option OpenTag → Position → Text → ScanError → Prop
  | none, here, text, error =>
    ∃ front rest pieces last, text = front ++ rest ∧ Cut front pieces last ∧
      error.position = here.after front ∧ Lies rest error.fault
  | some tag, here, text, error =>
    (error.position = tag.start ∧ LeftOpen tag.kind text error.fault) ∨
      ∃ body behind front rest pieces last, text = body ++ (tag.kind.closer ++ behind) ∧
        Plain (body ++ [tag.kind.closeMark]) ∧ behind = front ++ rest ∧ Cut front pieces last ∧
          error.position = (here.after (body ++ tag.kind.closer)).after front ∧ Lies rest error.fault

namespace Fails

variable {here : Position} {text rest : Text} {error : ScanError} {c d : Char}

/-- The end of a text is a fault of a tag that is open. -/
theorem of_plain {pending : Option OpenTag} (plain : Plain text)
    (failed : scanEnd pending = .error error) : Fails pending here text error := by
  cases pending with
  | none => cases failed
  | some tag =>
    cases failed
    exact .inl ⟨rfl, .ended plain⟩

/-- A fault behind an opener is that of its tag, or one behind the tag, which is a piece. -/
theorem of_opener {kind : TagKind}
    (fails : Fails (some ⟨kind, here, []⟩) (here.after kind.opener) rest error) :
    Fails none here (kind.opener ++ rest) error := by
  rcases fails with ⟨position, leftOpen⟩ |
    ⟨body, behind, front, rest', pieces, last, whole, plain, same, cut, position, lies⟩
  · exact ⟨[], _, [], [], rfl, Cut.nil List.isChain_nil, position, .pending rfl leftOpen⟩
  · let piece : Piece := ⟨[], kind, body⟩
    have sound : piece.Sound := ⟨List.isChain_singleton _, plain⟩
    have joined : piece.text = kind.opener ++ (body ++ kind.closer) := piece.tagText_eq
    refine ⟨piece.text ++ front, rest', piece :: pieces, last, ?_, cut.cons sound, ?_, lies⟩
    · rw [whole, same, joined]
      simp only [List.append_assoc]
    · rw [position, joined]
      simp only [Position.after_append]

/-- A fault behind the closer of a tag is one outside of a tag. -/
theorem of_closer {tag : OpenTag} (fails : Fails none (here.after tag.kind.closer) rest error) :
    Fails (some tag) here (tag.kind.closer ++ rest) error := by
  obtain ⟨front, rest', pieces, last, whole, cut, position, lies⟩ := fails
  exact .inr ⟨[], rest, front, rest', pieces, last, rfl, List.isChain_singleton _, whole, cut,
    position, lies⟩

/-- A character that makes no delimiter with the next one belongs to what is being read. -/
theorem of_loose {pending : Option OpenTag} (loose : Loose c d)
    (fails : Fails (pending.map (·.extend [c])) (here.step c) (d :: rest) error) :
    Fails pending here (c :: d :: rest) error := by
  cases pending with
  | none =>
    obtain ⟨front, rest', pieces, last, whole, cut, position, lies⟩ := fails
    have first : ∀ e ∈ front.head?, e = d := by
      intro e head
      obtain ⟨front', rfl⟩ := List.head?_eq_some_iff.mp head
      exact (List.cons.inj whole).1.symm
    obtain ⟨pieces', last', cut', -⟩ := cut.attach (List.isChain_singleton c) (by
      intro e atEnd e' head
      cases atEnd
      rw [first e' head]
      exact loose)
    exact ⟨c :: front, rest', pieces', last', congrArg (c :: ·) whole, cut', position, lies⟩
  | some tag =>
    rcases fails with ⟨position, leftOpen⟩ |
      ⟨body, behind, front, rest', pieces, last, whole, plain, same, cut, position, lies⟩
    · exact .inl ⟨position, leftOpen.cons loose⟩
    · have whole' : d :: rest = body ++ tag.kind.closeMark :: ('}' :: behind) := by
        rw [whole]
        show body ++ (tag.kind.closer ++ behind) = _
        rw [TagKind.closer_eq]
        rfl
      exact .inr ⟨c :: body, behind, front, rest', pieces, last, congrArg (c :: ·) whole,
        plain_cons loose whole' plain, same, cut, position, lies⟩

end Fails

/-- A list that is mapped to an error was that error. -/
theorem eq_error_of_map_eq_error {ε α β : Type} {f : α → β} {outcome : Except ε α} {error : ε}
    (failed : f <$> outcome = .error error) : outcome = .error error := by
  cases outcome with
  | error e =>
    cases failed
    rfl
  | ok inner => cases failed

/-- **How the scanner fails**, with or without a tag open. -/
theorem fails_of_scanFrom {pending : Option OpenTag} {here : Position} {text : Text}
    {error : ScanError} (failed : scanFrom pending here text = .error error) :
    Fails pending here text error := by
  fun_induction scanFrom pending here text with
  | case1 pending here => exact Fails.of_plain List.isChain_nil failed
  | case2 pending here c => exact Fails.of_plain (List.isChain_singleton c) failed
  | case3 here c d rest past kind opened =>
    rename_i ih
    obtain ⟨rfl, rfl⟩ := opens?_eq_some_iff.mp opened
    have whole : Fails (some ⟨kind, here, []⟩) (here.after kind.opener) rest error →
        Fails none here (kind.opener ++ rest) error := Fails.of_opener
    rw [TagKind.opener_eq] at whole
    exact whole (ih failed)
  | case4 here c d rest close closed noOpener =>
    obtain ⟨rfl, rfl⟩ := closes?_eq_some_iff.mp closed
    cases failed
    have whole : close.closeMark :: '}' :: rest = close.closer ++ rest := by
      rw [TagKind.closer_eq]
      rfl
    exact ⟨[], _, [], [], rfl, Cut.nil List.isChain_nil, rfl, .stray whole⟩
  | case5 here c d rest noCloser noOpener ih =>
    exact Fails.of_loose ⟨noOpener, noCloser⟩ (ih failed)
  | case6 here c d rest tag kind opened =>
    obtain ⟨rfl, rfl⟩ := opens?_eq_some_iff.mp opened
    cases failed
    have whole : '{' :: kind.openMark :: rest = [] ++ (kind.opener ++ rest) := by
      rw [TagKind.opener_eq]
      rfl
    exact .inl ⟨rfl, .opener whole (List.isChain_singleton _)⟩
  | case7 here c d rest past tag noOpener closed =>
    rename_i ih
    obtain ⟨rfl, rfl⟩ := closes?_eq_some_iff.mp closed
    have whole : Fails none (here.after tag.kind.closer) rest error →
        Fails (some tag) here (tag.kind.closer ++ rest) error := Fails.of_closer
    rw [TagKind.closer_eq] at whole
    exact whole (ih (eq_error_of_map_eq_error failed))
  | case8 here c d rest tag close closed noOpener other =>
    obtain ⟨rfl, rfl⟩ := closes?_eq_some_iff.mp closed
    cases failed
    have whole : close.closeMark :: '}' :: rest = [] ++ (close.closer ++ rest) := by
      rw [TagKind.closer_eq]
      rfl
    exact .inl ⟨rfl, .closer whole (List.isChain_singleton _) other⟩
  | case9 here c d rest tag noCloser noOpener ih =>
    exact Fails.of_loose ⟨noOpener, noCloser⟩ (ih failed)

/-! ### Positions -/

/-- The tags of some pieces stand at the positions that count the text in front of them. -/
theorem measures_of_mem_tagsFrom {here : Position} {front : Text} (measures : here.Measures front)
    {pieces : List Piece} {tag : Tag} (member : tag ∈ tagsFrom here pieces) :
    ∃ before behind, textOf pieces = before ++ (tag.text ++ behind) ∧
      tag.start.Measures (front ++ before) ∧ tag.stop.Measures (front ++ before ++ tag.text) := by
  induction pieces generalizing here front with
  | nil => exact absurd member List.not_mem_nil
  | cons piece pieces ih =>
    rcases List.mem_cons.mp member with rfl | later
    · refine ⟨piece.gap, textOf pieces, ?_, measures.after piece.gap, ?_⟩
      · rw [textOf_cons, Piece.tag_text, Piece.text, List.append_assoc]
      · rw [Piece.tag_text, List.append_assoc]
        exact measures.after piece.text
    · obtain ⟨before, behind, whole, start, stop⟩ := ih (measures.after piece.text) later
      rw [List.append_assoc] at start
      rw [List.append_assoc front] at stop
      refine ⟨piece.text ++ before, behind, ?_, start, stop⟩
      rw [textOf_cons, whole, List.append_assoc]

/-- **The positions of tags and faults count the text in front of them.** A tag is found where its
text stands. A fault lies at a stray closer or at an opener left open, a reader is told the place of
this delimiter, and the text before it can be scanned by itself. -/
theorem scan_positions (source : Text) :
    match scan source with
    | .ok tags => ∀ tag ∈ tags, ∃ before behind, source = before ++ (tag.text ++ behind) ∧
        tag.start.Measures before ∧ tag.stop.Measures (before ++ tag.text)
    | .error error => ∃ front rest place tags, source = front ++ rest ∧
        error.position.Measures front ∧ IsPlaceBehind front place ∧
        error.message = s!"Parse error at {place}: {error.fault.message}" ∧
        Lies rest error.fault ∧ scan front = .ok tags := by
  cases scanned : scan source with
  | ok tags =>
    intro tag member
    obtain ⟨pieces, last, cut, rfl⟩ := scan_eq_ok_iff.mp scanned
    obtain ⟨before, behind, whole, start, stop⟩ := measures_of_mem_tagsFrom measures_start member
    refine ⟨before, behind ++ last, ?_, start, stop⟩
    rw [cut.joined, whole]
    simp only [List.append_assoc]
  | error error =>
    obtain ⟨front, rest, pieces, last, whole, cut, position, lies⟩ :=
      show Fails none Position.start source error from fails_of_scanFrom scanned
    have measures : error.position.Measures front := by
      rw [position]
      exact measures_after front
    exact ⟨front, rest, error.position.describe, _, whole, measures, measures.isPlaceBehind, rfl, lies,
      scan_eq_ok_iff.mpr ⟨pieces, last, cut, rfl⟩⟩

-- the opener that stands before the second one is the place that is told
example : scan "é\né \x7b\x7b x \x7b% y".toList =
    .error ⟨⟨6, 1, 2⟩, .unterminated .expression⟩ := by rfl

end TextTemplate
