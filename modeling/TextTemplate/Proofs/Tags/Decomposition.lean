/-
**The tags of a text and the text between them.**

A text is cut into pieces, each of them a stretch of text and the tag behind it, and the text behind
the last tag. What makes such a cut the right one is local: no two neighbouring characters of a
stretch, or of the inside of a tag, are a delimiter (`Piece.Sound`).

* `scanFrom_plain`: the scanner passes a text without delimiters;
* `scanFrom_pieces`: it reads sound pieces as they are, whatever follows them;
* `scan_eq_ok_iff`: **it succeeds exactly on the texts that can be cut into sound pieces**, and the
  tags are those of the pieces.
-/

import Mathlib.Data.List.Chain
import TextTemplate.Tag.Scan

namespace TextTemplate

/-! ### Neighbours that are no delimiter -/

/-- Two neighbouring characters that are no delimiter. -/
structure Loose (c d : Char) : Prop where
  noOpener : opens? c d = none
  noCloser : closes? c d = none

/-- **A text without delimiters.** -/
abbrev Plain (text : Text) : Prop := text.IsChain Loose

namespace TagKind

/-- The second character of the opener. -/
def openMark : TagKind → Char
  | .expression => '{'
  | .statement => '%'

/-- The first character of the closer. -/
def closeMark : TagKind → Char
  | .expression => '}'
  | .statement => '%'

theorem opener_eq (kind : TagKind) : kind.opener = ['{', kind.openMark] := by
  cases kind <;> rfl

theorem closer_eq (kind : TagKind) : kind.closer = [kind.closeMark, '}'] := by
  cases kind <;> rfl

@[simp] theorem byteSize_opener (kind : TagKind) : kind.opener.byteSize = 2 := by
  cases kind <;> rfl

@[simp] theorem byteSize_closer (kind : TagKind) : kind.closer.byteSize = 2 := by
  cases kind <;> rfl

end TagKind

theorem opens?_eq_some_iff {c d : Char} {kind : TagKind} :
    opens? c d = some kind ↔ c = '{' ∧ d = kind.openMark := by
  unfold opens?
  constructor
  · intro opened
    split at opened
    · rename_i brace
      refine ⟨brace, ?_⟩
      split at opened
      · cases opened
        assumption
      · split at opened
        · cases opened
          assumption
        · cases opened
    · cases opened
  · rintro ⟨rfl, rfl⟩
    cases kind <;> rfl

theorem closes?_eq_some_iff {c d : Char} {kind : TagKind} :
    closes? c d = some kind ↔ c = kind.closeMark ∧ d = '}' := by
  unfold closes?
  constructor
  · intro closed
    split at closed
    · rename_i brace
      refine ⟨?_, brace⟩
      split at closed
      · cases closed
        assumption
      · split at closed
        · cases closed
          assumption
        · cases closed
    · cases closed
  · rintro ⟨rfl, rfl⟩
    cases kind <;> rfl

theorem loose_iff {c d : Char} :
    Loose c d ↔ (∀ kind : TagKind, ¬ (c = '{' ∧ d = kind.openMark)) ∧
      ∀ kind : TagKind, ¬ (c = kind.closeMark ∧ d = '}') := by
  constructor
  · intro loose
    refine ⟨fun kind opener => ?_, fun kind closer => ?_⟩
    · have opened := opens?_eq_some_iff.mpr opener
      rw [loose.noOpener] at opened
      cases opened
    · have closed := closes?_eq_some_iff.mpr closer
      rw [loose.noCloser] at closed
      cases closed
  · rintro ⟨noOpener, noCloser⟩
    refine ⟨?_, ?_⟩
    · rcases opened : opens? c d with - | kind
      · rfl
      · exact absurd (opens?_eq_some_iff.mp opened) (noOpener kind)
    · rcases closed : closes? c d with - | kind
      · rfl
      · exact absurd (closes?_eq_some_iff.mp closed) (noCloser kind)

/-- A character that is no brace and no percent sign begins no delimiter. -/
theorem Loose.of_ne {c : Char} (d : Char) (notOpen : c ≠ '{') (notClose : c ≠ '}')
    (notPercent : c ≠ '%') : Loose c d := by
  rw [loose_iff]
  refine ⟨fun kind opener => notOpen opener.1, fun kind closer => ?_⟩
  cases kind
  · exact notClose closer.1
  · exact notPercent closer.1

/-! ### How the scanner moves -/

/-- A tag that has begun, with some more of its body. -/
def OpenTag.extend (tag : OpenTag) (text : Text) : OpenTag :=
  { tag with body := text.reverse ++ tag.body }

@[simp] theorem OpenTag.extend_nil (tag : OpenTag) : tag.extend [] = tag := rfl

theorem OpenTag.extend_cons (tag : OpenTag) (c : Char) (text : Text) :
    tag.extend (c :: text) = (tag.extend [c]).extend text := by
  simp [OpenTag.extend]

@[simp] theorem scanEnd_extend (pending : Option OpenTag) (text : Text) :
    scanEnd (pending.map (·.extend text)) = scanEnd pending := by
  cases pending <;> rfl

/-- The scanner passes a character that does not begin a delimiter. -/
theorem scanFrom_loose {c d : Char} (loose : Loose c d) (pending : Option OpenTag)
    (here : Position) (rest : Text) :
    scanFrom pending here (c :: d :: rest) =
      scanFrom (pending.map (·.extend [c])) (here.step c) (d :: rest) := by
  cases pending <;> simp [scanFrom, loose.noOpener, loose.noCloser, OpenTag.extend]

/-- **The scanner passes a text without delimiters** up to the character behind it. -/
theorem scanFrom_plain {text : Text} {next : Char} (plain : Plain (text ++ [next]))
    (pending : Option OpenTag) (here : Position) (rest : Text) :
    scanFrom pending here (text ++ next :: rest) =
      scanFrom (pending.map (·.extend text)) (here.after text) (next :: rest) := by
  induction text generalizing pending here with
  | nil => cases pending <;> rfl
  | cons c text ih =>
    have shorter : Plain (text ++ [next]) := plain.tail
    have step : scanFrom pending here (c :: (text ++ next :: rest)) =
        scanFrom (pending.map (·.extend [c])) (here.step c) (text ++ next :: rest) := by
      cases text with
      | nil => exact scanFrom_loose (List.isChain_cons_cons.mp plain).1 pending here rest
      | cons d text =>
        exact scanFrom_loose (List.isChain_cons_cons.mp plain).1 pending here
          (text ++ next :: rest)
    rw [List.cons_append, step, ih shorter, Position.after_cons]
    cases pending with
    | none => rfl
    | some tag => simp only [Option.map_some, ← OpenTag.extend_cons]

/-- A text without delimiters is the end of what the scanner reads. -/
theorem scanFrom_plain_end {text : Text} (plain : Plain text) (pending : Option OpenTag)
    (here : Position) : scanFrom pending here text = scanEnd pending := by
  rcases List.eq_nil_or_concat text with rfl | ⟨front, last, rfl⟩
  · rfl
  · rw [List.concat_eq_append] at plain ⊢
    rw [scanFrom_plain plain]
    exact scanEnd_extend pending front

/-- The scanner enters a tag. -/
theorem scanFrom_opener (kind : TagKind) (here : Position) (rest : Text) :
    scanFrom none here (kind.opener ++ rest) =
      scanFrom (some ⟨kind, here, []⟩) (here.after kind.opener) rest := by
  cases kind <;> rfl

/-- An opener inside of a tag is a fault. -/
theorem scanFrom_opener_inside (tag : OpenTag) (kind : TagKind) (here : Position) (rest : Text) :
    scanFrom (some tag) here (kind.opener ++ rest) =
      .error ⟨tag.start, .unterminated tag.kind⟩ := by
  cases kind <;> rfl

/-- The scanner leaves a tag. -/
theorem scanFrom_closer (tag : OpenTag) (here : Position) (rest : Text) :
    scanFrom (some tag) here (tag.kind.closer ++ rest) =
      (⟨tag.kind, tag.start, here.after tag.kind.closer, tag.body.reverse⟩ :: ·) <$>
        scanFrom none (here.after tag.kind.closer) rest := by
  obtain ⟨kind, start, body⟩ := tag
  cases kind <;> rfl

/-- The closer of the other kind is a fault. -/
theorem scanFrom_closer_other {tag : OpenTag} {kind : TagKind} (other : kind ≠ tag.kind)
    (here : Position) (rest : Text) :
    scanFrom (some tag) here (kind.closer ++ rest) =
      .error ⟨tag.start, .mismatched tag.kind kind⟩ := by
  obtain ⟨opened, start, body⟩ := tag
  cases kind with
  | expression =>
    cases opened with
    | expression => exact absurd rfl other
    | statement => rfl
  | statement =>
    cases opened with
    | expression => rfl
    | statement => exact absurd rfl other

/-- A closer outside of a tag is a fault. -/
theorem scanFrom_closer_outside (kind : TagKind) (here : Position) (rest : Text) :
    scanFrom none here (kind.closer ++ rest) = .error ⟨here, .unexpectedClose kind⟩ := by
  cases kind <;> rfl

/-! ### Pieces -/

/-- A stretch of text and the tag behind it. -/
structure Piece where
  gap : Text
  kind : TagKind
  body : Text
deriving DecidableEq, Repr

namespace Piece

/-- The characters of the tag, delimiters included. -/
def tagText (piece : Piece) : Text :=
  piece.kind.opener ++ piece.body ++ piece.kind.closer

/-- The characters of a piece. -/
def text (piece : Piece) : Text :=
  piece.gap ++ piece.tagText

/-- The tag of a piece that begins at `here`. -/
def tag (here : Position) (piece : Piece) : Tag :=
  ⟨piece.kind, here.after piece.gap, here.after piece.text, piece.body⟩

/-- **A piece is sound** if no delimiter begins in its stretch of text, none lies in the body of its
tag, and none overlaps the end of either. -/
structure Sound (piece : Piece) : Prop where
  gap : Plain (piece.gap ++ ['{'])
  body : Plain (piece.body ++ [piece.kind.closeMark])

theorem Sound.plain_gap {piece : Piece} (sound : piece.Sound) : Plain piece.gap :=
  (List.isChain_append.mp sound.gap).1

theorem tagText_eq (piece : Piece) :
    piece.tagText = piece.kind.opener ++ (piece.body ++ piece.kind.closer) :=
  List.append_assoc _ _ _

@[simp] theorem byteSize_tagText (piece : Piece) :
    piece.tagText.byteSize = piece.body.byteSize + 4 := by
  simp only [tagText, Text.byteSize_append, TagKind.byteSize_opener, TagKind.byteSize_closer]
  omega

@[simp] theorem byteSize_text (piece : Piece) :
    piece.text.byteSize = piece.gap.byteSize + piece.body.byteSize + 4 := by
  rw [text, Text.byteSize_append, byteSize_tagText]
  omega

theorem text_eq_gap_cons (piece : Piece) (rest : Text) :
    piece.text ++ rest =
      piece.gap ++ '{' :: (piece.kind.openMark :: (piece.body ++ (piece.kind.closer ++ rest))) := by
  simp [text, tagText, TagKind.opener_eq]

@[simp] theorem tag_text (here : Position) (piece : Piece) :
    (piece.tag here).text = piece.tagText := rfl

end Piece

/-- The characters of some pieces. -/
def textOf (pieces : List Piece) : Text :=
  pieces.flatMap Piece.text

@[simp] theorem textOf_nil : textOf [] = [] := rfl

@[simp] theorem textOf_cons (piece : Piece) (pieces : List Piece) :
    textOf (piece :: pieces) = piece.text ++ textOf pieces := rfl

@[simp] theorem textOf_append (front rest : List Piece) :
    textOf (front ++ rest) = textOf front ++ textOf rest :=
  List.flatMap_append

/-- The tags of some pieces, the first of which begins at `here`. -/
def tagsFrom (here : Position) : List Piece → List Tag
  | [] => []
  | piece :: pieces => piece.tag here :: tagsFrom (here.after piece.text) pieces

@[simp] theorem tagsFrom_nil (here : Position) : tagsFrom here [] = [] := rfl

@[simp] theorem tagsFrom_cons (here : Position) (piece : Piece) (pieces : List Piece) :
    tagsFrom here (piece :: pieces) =
      piece.tag here :: tagsFrom (here.after piece.text) pieces := rfl

/-- **The scanner reads the body of a tag** up to its closer. -/
theorem scanFrom_body (tag : OpenTag) {body : Text} (plain : Plain (body ++ [tag.kind.closeMark]))
    (here : Position) (rest : Text) :
    scanFrom (some tag) here (body ++ (tag.kind.closer ++ rest)) =
      (⟨tag.kind, tag.start, here.after (body ++ tag.kind.closer), tag.body.reverse ++ body⟩ :: ·) <$>
        scanFrom none (here.after (body ++ tag.kind.closer)) rest := by
  have closer : tag.kind.closer ++ rest = tag.kind.closeMark :: '}' :: rest := by
    rw [TagKind.closer_eq]
    rfl
  rw [closer, scanFrom_plain plain, ← closer, Option.map_some]
  have read := scanFrom_closer (tag.extend body) (here.after body) rest
  simp only [OpenTag.extend, List.reverse_append, List.reverse_reverse] at read
  rw [Position.after_append]
  exact read

/-- **The scanner reads a sound piece** as it is, whatever follows. -/
theorem scanFrom_piece {piece : Piece} (sound : piece.Sound) (here : Position) (rest : Text) :
    scanFrom none here (piece.text ++ rest) =
      (piece.tag here :: ·) <$> scanFrom none (here.after piece.text) rest := by
  rw [piece.text_eq_gap_cons, scanFrom_plain sound.gap]
  have opener : '{' :: piece.kind.openMark :: (piece.body ++ (piece.kind.closer ++ rest)) =
      piece.kind.opener ++ (piece.body ++ (piece.kind.closer ++ rest)) := by
    rw [TagKind.opener_eq]
    rfl
  have positions : here.after piece.text =
      ((here.after piece.gap).after piece.kind.opener).after (piece.body ++ piece.kind.closer) := by
    rw [Piece.text, Piece.tagText_eq, Position.after_append, Position.after_append]
  rw [opener, Option.map_none, scanFrom_opener, Piece.tag, positions]
  exact scanFrom_body ⟨piece.kind, here.after piece.gap, []⟩ sound.body _ rest

/-- **The scanner reads sound pieces** as they are, whatever follows. -/
theorem scanFrom_pieces {pieces : List Piece} (sound : ∀ piece ∈ pieces, piece.Sound)
    (here : Position) (rest : Text) :
    scanFrom none here (textOf pieces ++ rest) =
      (tagsFrom here pieces ++ ·) <$> scanFrom none (here.after (textOf pieces)) rest := by
  induction pieces generalizing here with
  | nil => exact (id_map _).symm
  | cons piece pieces ih =>
    rw [textOf_cons, List.append_assoc, scanFrom_piece (sound piece List.mem_cons_self),
      ih (fun other member => sound other (List.mem_cons_of_mem _ member)), Functor.map_map,
      Position.after_append]
    rfl

/-! ### Cutting a text into pieces -/

/-- **A text cut into sound pieces** and the text behind the last tag. -/
structure Cut (source : Text) (pieces : List Piece) (last : Text) : Prop where
  joined : source = textOf pieces ++ last
  sound : ∀ piece ∈ pieces, piece.Sound
  plain : Plain last

/-- The pieces of a text and the text behind them, with some more text in front. -/
inductive Attached (front : Text) : List Piece → Text → List Piece → Text → Prop
  | last (last : Text) : Attached front [] last [] (front ++ last)
  | gap (piece : Piece) (pieces : List Piece) (last : Text) :
      Attached front (piece :: pieces) last ({ piece with gap := front ++ piece.gap } :: pieces) last

/-- Text in front moves the tags. -/
theorem Attached.tagsFrom_eq {front last last' : Text} {pieces pieces' : List Piece}
    (attached : Attached front pieces last pieces' last') (here : Position) :
    tagsFrom here pieces' = tagsFrom (here.after front) pieces := by
  cases attached with
  | last => rfl
  | gap piece pieces last =>
    simp [Piece.tag, Piece.text, Piece.tagText, Position.after_append]

namespace Cut

theorem nil {source : Text} (plain : Plain source) : Cut source [] source :=
  ⟨rfl, fun _ member => absurd member List.not_mem_nil, plain⟩

theorem cons {source : Text} {pieces : List Piece} {last : Text} {piece : Piece}
    (sound : piece.Sound) (cut : Cut source pieces last) :
    Cut (piece.text ++ source) (piece :: pieces) last := by
  refine ⟨?_, ?_, cut.plain⟩
  · rw [textOf_cons, List.append_assoc, ← cut.joined]
  · intro other member
    rcases List.mem_cons.mp member with rfl | inside
    · exact sound
    · exact cut.sound other inside

/-- Behind the first piece the text is cut into the others. -/
theorem uncons {source : Text} {pieces : List Piece} {last : Text} {piece : Piece}
    (cut : Cut source (piece :: pieces) last) :
    piece.Sound ∧ source = piece.text ++ (textOf pieces ++ last) ∧
      Cut (textOf pieces ++ last) pieces last :=
  ⟨cut.sound piece List.mem_cons_self, by rw [cut.joined, textOf_cons, List.append_assoc],
    rfl, fun other member => cut.sound other (List.mem_cons_of_mem _ member), cut.plain⟩

/-- The scanner finds the tags of the pieces. -/
theorem scanFrom_eq {source : Text} {pieces : List Piece} {last : Text}
    (cut : Cut source pieces last) (here : Position) :
    scanFrom none here source = .ok (tagsFrom here pieces) := by
  rw [cut.joined, scanFrom_pieces cut.sound, scanFrom_plain_end cut.plain]
  show Except.ok (tagsFrom here pieces ++ []) = _
  rw [List.append_nil]

/-- **Text in front that makes no delimiter** with the first character belongs to the first stretch
of text. -/
theorem attach {front source : Text} {pieces : List Piece} {last : Text}
    (cut : Cut source pieces last) (plain : Plain front)
    (loose : ∀ c ∈ front.getLast?, ∀ d ∈ source.head?, Loose c d) :
    ∃ pieces' last', Cut (front ++ source) pieces' last' ∧
      Attached front pieces last pieces' last' := by
  cases pieces with
  | nil =>
    obtain rfl : source = last := cut.joined
    have whole : Plain (front ++ source) := List.isChain_append.mpr ⟨plain, cut.plain, loose⟩
    exact ⟨[], front ++ source, Cut.nil whole, Attached.last source⟩
  | cons piece pieces =>
    obtain ⟨sound, joined, rest⟩ := cut.uncons
    have first : (piece.gap ++ ['{']).head? = source.head? := by
      rw [joined, piece.text_eq_gap_cons]
      cases piece.gap <;> rfl
    let longer : Piece := { piece with gap := front ++ piece.gap }
    have sound' : longer.Sound := by
      refine ⟨?_, sound.body⟩
      show Plain (front ++ piece.gap ++ ['{'])
      rw [List.append_assoc]
      exact List.isChain_append.mpr ⟨plain, sound.gap, first ▸ loose⟩
    have whole := Cut.cons sound' rest
    have text : longer.text = front ++ piece.text := List.append_assoc _ _ _
    rw [text, List.append_assoc, ← joined] at whole
    exact ⟨longer :: pieces, last, whole, Attached.gap piece pieces last⟩

end Cut

/-- What a text must be for the scanner to find some tags in it: a text cut into their pieces or,
with a tag open, the rest of that tag and such a text. -/
def Reads : Option OpenTag → Position → Text → List Tag → Prop
  | none, here, text, tags => ∃ pieces last, Cut text pieces last ∧ tags = tagsFrom here pieces
  | some tag, here, text, tags =>
    ∃ body rest pieces last, text = body ++ (tag.kind.closer ++ rest) ∧
      Plain (body ++ [tag.kind.closeMark]) ∧ Cut rest pieces last ∧
        tags = ⟨tag.kind, tag.start, here.after (body ++ tag.kind.closer),
          tag.body.reverse ++ body⟩ :: tagsFrom (here.after (body ++ tag.kind.closer)) pieces

namespace Reads

/-- A text that cannot hold a delimiter has no tags. -/
theorem of_plain {pending : Option OpenTag} {here : Position} {text : Text} {tags : List Tag}
    (plain : Plain text) (ended : scanEnd pending = .ok tags) : Reads pending here text tags := by
  cases pending with
  | none =>
    cases ended
    exact ⟨[], text, Cut.nil plain, rfl⟩
  | some tag => cases ended

/-- An opener and the rest of its tag are a piece. -/
theorem of_opener {kind : TagKind} {here : Position} {rest : Text} {tags : List Tag}
    (read : Reads (some ⟨kind, here, []⟩) (here.after kind.opener) rest tags) :
    Reads none here (kind.opener ++ rest) tags := by
  obtain ⟨body, rest, pieces, last, rfl, plain, cut, rfl⟩ := read
  let piece : Piece := ⟨[], kind, body⟩
  have sound : piece.Sound := ⟨List.isChain_singleton _, plain⟩
  have text : piece.text = kind.opener ++ (body ++ kind.closer) := piece.tagText_eq
  refine ⟨piece :: pieces, last, ?_, ?_⟩
  · have whole := cut.cons sound
    rw [text, List.append_assoc, List.append_assoc] at whole
    exact whole
  · rw [tagsFrom_cons, Piece.tag, text, Position.after_append here]
    rfl

/-- A closer of the right kind and the text behind it end a tag. -/
theorem of_closer {tag : OpenTag} {here : Position} {rest : Text} {tags : List Tag}
    (read : Reads none (here.after tag.kind.closer) rest tags) :
    Reads (some tag) here (tag.kind.closer ++ rest)
      (⟨tag.kind, tag.start, here.after tag.kind.closer, tag.body.reverse⟩ :: tags) := by
  obtain ⟨pieces, last, cut, rfl⟩ := read
  exact ⟨[], rest, pieces, last, rfl, List.isChain_singleton _, cut, by simp⟩

/-- A character in front that begins no delimiter belongs to what is being read. -/
theorem of_loose {pending : Option OpenTag} {here : Position} {c d : Char} {rest : Text}
    {tags : List Tag} (loose : Loose c d)
    (read : Reads (pending.map (·.extend [c])) (here.step c) (d :: rest) tags) :
    Reads pending here (c :: d :: rest) tags := by
  cases pending with
  | none =>
    obtain ⟨pieces, last, cut, rfl⟩ := read
    obtain ⟨pieces', last', cut', attached⟩ : ∃ pieces' last', Cut ([c] ++ d :: rest) pieces' last' ∧
        Attached [c] pieces last pieces' last' := by
      refine cut.attach (List.isChain_singleton c) fun _ isLast _ isFirst => ?_
      cases isLast
      cases isFirst
      exact loose
    exact ⟨pieces', last', cut', (attached.tagsFrom_eq here).symm⟩
  | some tag =>
    obtain ⟨body, rest', pieces, last, joined, plain, cut, rfl⟩ := read
    refine ⟨c :: body, rest', pieces, last, ?_, ?_, cut, ?_⟩
    · rw [joined]
      rfl
    · refine List.isChain_cons.mpr ⟨fun e head => ?_, plain⟩
      suffices e = d from this ▸ loose
      cases body with
      | nil =>
        cases head
        rw [TagKind.closer_eq] at joined
        exact (List.cons.inj joined).1.symm
      | cons e' body =>
        cases head
        exact (List.cons.inj joined).1.symm
    · simp [OpenTag.extend]

end Reads

/-- A list that is mapped to a result was a result. -/
theorem eq_ok_of_map_eq_ok {ε α β : Type} {f : α → β} {outcome : Except ε α} {result : β}
    (ok : f <$> outcome = .ok result) : ∃ inner, outcome = .ok inner ∧ f inner = result := by
  cases outcome with
  | error e => cases ok
  | ok inner =>
    cases ok
    exact ⟨inner, rfl, rfl⟩

/-- **What the scanner accepts**: with or without a tag open, only what can be cut. -/
theorem reads_of_scanFrom {pending : Option OpenTag} {here : Position} {text : Text}
    {tags : List Tag} (ok : scanFrom pending here text = .ok tags) :
    Reads pending here text tags := by
  fun_induction scanFrom pending here text generalizing tags with
  | case1 pending here => exact Reads.of_plain List.isChain_nil ok
  | case2 pending here c => exact Reads.of_plain (List.isChain_singleton c) ok
  | case3 here c d rest past kind opened =>
    rename_i ih
    obtain ⟨rfl, rfl⟩ := opens?_eq_some_iff.mp opened
    have whole : Reads (some ⟨kind, here, []⟩) (here.after kind.opener) rest tags →
        Reads none here (kind.opener ++ rest) tags := Reads.of_opener
    rw [TagKind.opener_eq] at whole
    exact whole (ih ok)
  | case4 => cases ok
  | case5 here c d rest noCloser noOpener ih =>
    exact Reads.of_loose ⟨noOpener, noCloser⟩ (ih ok)
  | case6 => cases ok
  | case7 here c d rest past tag noOpener closed =>
    rename_i ih
    obtain ⟨rfl, rfl⟩ := closes?_eq_some_iff.mp closed
    obtain ⟨inner, read, rfl⟩ := eq_ok_of_map_eq_ok ok
    have whole : Reads none (here.after tag.kind.closer) rest inner →
        Reads (some tag) here (tag.kind.closer ++ rest)
          (⟨tag.kind, tag.start, here.after tag.kind.closer, tag.body.reverse⟩ :: inner) :=
      Reads.of_closer
    rw [TagKind.closer_eq] at whole
    exact whole (ih read)
  | case8 => cases ok
  | case9 here c d rest tag noCloser noOpener ih =>
    exact Reads.of_loose ⟨noOpener, noCloser⟩ (ih ok)

/-- **The scanner succeeds exactly on the texts that can be cut into sound pieces**, and finds the
tags of the pieces. -/
theorem scan_eq_ok_iff {source : Text} {tags : List Tag} :
    scan source = .ok tags ↔
      ∃ pieces last, Cut source pieces last ∧ tags = tagsFrom Position.start pieces := by
  constructor
  · intro ok
    have read : Reads none Position.start source tags := reads_of_scanFrom ok
    exact read
  · rintro ⟨pieces, last, cut, rfl⟩
    exact cut.scanFrom_eq Position.start

/-! ### Where the tags lie -/

/-- A tag takes at least its two delimiters. -/
theorem start_add_four_le_stop {here : Position} {pieces : List Piece} {tag : Tag}
    (member : tag ∈ tagsFrom here pieces) : tag.start.offset + 4 ≤ tag.stop.offset := by
  induction pieces generalizing here with
  | nil => exact absurd member List.not_mem_nil
  | cons piece pieces ih =>
    rcases List.mem_cons.mp member with rfl | later
    · simp only [Piece.tag, Position.after_offset, Piece.byteSize_text]
      omega
    · exact ih later

/-- The tags begin behind the place where their pieces begin. -/
theorem offset_le_start {here : Position} {pieces : List Piece} {tag : Tag}
    (member : tag ∈ tagsFrom here pieces) : here.offset ≤ tag.start.offset := by
  induction pieces generalizing here with
  | nil => exact absurd member List.not_mem_nil
  | cons piece pieces ih =>
    rcases List.mem_cons.mp member with rfl | later
    · simp only [Piece.tag, Position.after_offset]
      omega
    · have behind := ih later
      rw [Position.after_offset] at behind
      omega

/-- **Every tag ends before the next one begins.** -/
theorem tagsFrom_pairwise (here : Position) (pieces : List Piece) :
    (tagsFrom here pieces).Pairwise fun a b => a.stop.offset ≤ b.start.offset := by
  induction pieces generalizing here with
  | nil => exact List.Pairwise.nil
  | cons piece pieces ih =>
    rw [tagsFrom_cons, List.pairwise_cons]
    exact ⟨fun later member => offset_le_start member, ih _⟩

/-- **The span of a tag is the place of its text.** -/
theorem slice?_tag {front last : Text} {here : Position} {pieces : List Piece} {tag : Tag}
    (atFront : front.byteSize = here.offset) (member : tag ∈ tagsFrom here pieces) :
    Text.slice? tag.span.start tag.span.stop (front ++ (textOf pieces ++ last)) =
      some tag.text := by
  induction pieces generalizing front here with
  | nil => exact absurd member List.not_mem_nil
  | cons piece pieces ih =>
    rcases List.mem_cons.mp member with rfl | later
    · rw [Piece.tag_text, Text.slice?_eq_some_iff]
      refine ⟨front ++ piece.gap, textOf pieces ++ last, ?_, ?_, ?_⟩
      · simp [Piece.text]
      · simp [Tag.span, Piece.tag, Position.after_offset, atFront]
      · simp [Tag.span, Piece.tag, Position.after_offset, atFront]
        omega
    · have shifted : (front ++ piece.text).byteSize = (here.after piece.text).offset := by
        rw [Text.byteSize_append, Position.after_offset, atFront]
      have inside := ih shifted later
      rw [textOf_cons]
      simpa only [List.append_assoc] using inside

section Scanned

variable {source : Text} {tags : List Tag}

/-- The tags of a scanned text end one before the other begins. -/
theorem scan_pairwise (scanned : scan source = .ok tags) :
    tags.Pairwise fun a b => a.stop.offset ≤ b.start.offset := by
  obtain ⟨pieces, last, cut, rfl⟩ := scan_eq_ok_iff.mp scanned
  exact tagsFrom_pairwise _ _

theorem scan_start_add_four_le_stop (scanned : scan source = .ok tags) {tag : Tag}
    (member : tag ∈ tags) : tag.start.offset + 4 ≤ tag.stop.offset := by
  obtain ⟨pieces, last, cut, rfl⟩ := scan_eq_ok_iff.mp scanned
  exact start_add_four_le_stop member

/-- A tag of a scanned text is found again at its span. -/
theorem scan_slice? (scanned : scan source = .ok tags) {tag : Tag} (member : tag ∈ tags) :
    source.slice? tag.span.start tag.span.stop = some tag.text := by
  obtain ⟨pieces, last, cut, rfl⟩ := scan_eq_ok_iff.mp scanned
  have found : Text.slice? tag.span.start tag.span.stop ([] ++ (textOf pieces ++ last)) =
      some tag.text := slice?_tag rfl member
  rw [cut.joined]
  exact found

end Scanned

end TextTemplate
