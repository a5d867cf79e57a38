/-
**The grammar that the scanner accepts.**

The grammar speaks of a source and of the byte offsets at which delimiters stand in it, and of no
scanner: text and tags alternate, a tag ends with the first closer behind its opener, and no
delimiter lies where it does not belong.

* `StandsAt`: a delimiter stands at an offset of a source;
* `IsGap`, `IsTag`: what the text between two tags is, and what a tag is;
* `Grammar`: the source from an offset on is `text tag text … tag text`;
* `scan_ok_iff_grammar`: **the scanner succeeds exactly on the sources of the grammar**, and its
  spans are the tags of the grammar, in order, apart from each other and on character boundaries.

The other side of the proof is `scan_eq_ok_iff`, which cuts a source into sound pieces: being sound
is local, and `plain_iff_isGap` and `plain_iff_isTag` say the same by offsets.
-/

import TextTemplate.Proofs.Tags.Decomposition

namespace TextTemplate

/-- **A delimiter stands at a byte offset** of a source. -/
def StandsAt (delimiter : Text) (offset : Nat) (source : Text) : Prop :=
  ∃ front rest, source = front ++ delimiter ++ rest ∧ front.byteSize = offset

section Pairs

variable {front part rest : Text} {c d : Char} {offset : Nat}

/-- A delimiter that begins in a part of a source is a pair of neighbours in that part and the first
character behind it. -/
theorem exists_pair_of_standsAt (stands : StandsAt [c, d] offset (front ++ (part ++ rest)))
    (behind : front.byteSize ≤ offset) (inside : offset < front.byteSize + part.byteSize) :
    c ∈ part ∧ ∃ before after, part ++ rest.take 1 = before ++ c :: d :: after := by
  obtain ⟨front', rest', same, rfl⟩ := stands
  rw [List.append_assoc] at same
  obtain ⟨before, rfl, tail⟩ := Text.exists_append_of_byteSize_le same behind
  rw [Text.byteSize_append] at inside
  obtain ⟨within, rfl, tail'⟩ := Text.exists_append_of_byteSize_le tail.symm (by omega)
  cases within with
  | nil =>
    rw [List.append_nil] at inside
    omega
  | cons e within =>
    obtain ⟨rfl, tail''⟩ := List.cons.inj tail'
    refine ⟨by simp, ?_⟩
    cases within with
    | nil =>
      have first : rest = d :: rest' := tail''.symm
      exact ⟨before, [], by rw [first]; simp⟩
    | cons e' within =>
      obtain ⟨rfl, _⟩ := List.cons.inj tail''
      exact ⟨before, within ++ rest.take 1, by simp⟩

/-- A pair of neighbours in a part of a source and the first character behind it stands in the
source. The first one lies in the part, and the second one too or is the character behind it. -/
theorem standsAt_of_pair (front : Text) {before after : Text}
    (pair : part ++ rest.take 1 = before ++ c :: d :: after) :
    StandsAt [c, d] (front.byteSize + before.byteSize) (front ++ (part ++ rest)) ∧
      before.byteSize < part.byteSize ∧
        (before.byteSize + (c.utf8Size + d.utf8Size) ≤ part.byteSize ∨ rest.head? = some d) := by
  have whole : part ++ rest = before ++ c :: d :: (after ++ rest.drop 1) := by
    calc part ++ rest = (part ++ rest.take 1) ++ rest.drop 1 := by
          rw [List.append_assoc, List.take_append_drop]
      _ = before ++ c :: d :: (after ++ rest.drop 1) := by rw [pair]; simp
  have inside : before.byteSize < part.byteSize := by
    by_contra outside
    obtain ⟨between, rfl, tail⟩ :=
      Text.exists_append_of_byteSize_le pair (Nat.le_of_not_lt outside)
    have long := congrArg List.length tail
    simp only [List.length_take, List.length_append, List.length_cons] at long
    omega
  refine ⟨⟨front ++ before, after ++ rest.drop 1, ?_, Text.byteSize_append _ _⟩, inside, ?_⟩
  · rw [whole]
    simp
  · obtain ⟨within, rfl, tail⟩ :=
      Text.exists_append_of_byteSize_le pair.symm (Nat.le_of_lt inside)
    match within with
    | [] =>
      rw [List.append_nil] at inside
      omega
    | [e] =>
      right
      have first : rest.take 1 = d :: after := (List.cons.inj tail).2.symm
      cases rest with
      | nil => cases first
      | cons e' rest =>
        obtain ⟨rfl, _⟩ := List.cons.inj first
        rfl
    | e :: e' :: within =>
      left
      obtain ⟨rfl, tail'⟩ := List.cons.inj tail
      obtain ⟨rfl, _⟩ := List.cons.inj tail'
      simp only [Text.byteSize_append, Text.byteSize_cons]
      omega

end Pairs

/-! ### The grammar -/

/-- **The text between two tags**: no opener begins in it and no closer lies wholly inside of it. A
closer that shares a brace with the tag in front is no closer of the text. -/
structure IsGap (source : Text) (start stop : Nat) : Prop where
  noOpener : ∀ (kind : TagKind) (offset : Nat), start ≤ offset → offset < stop →
    ¬ StandsAt kind.opener offset source
  noCloser : ∀ (kind : TagKind) (offset : Nat), start ≤ offset → offset + 2 ≤ stop →
    ¬ StandsAt kind.closer offset source

/-- **A tag**: it begins with an opener and ends with the first closer of either kind behind it,
which is of its own kind, and no opener begins in between. -/
structure IsTag (source : Text) (kind : TagKind) (span : Span) : Prop where
  opened : StandsAt kind.opener span.start source
  closed : ∃ close, span.start + 2 ≤ close ∧ span.stop = close + 2 ∧
    StandsAt kind.closer close source ∧
      ∀ (other : TagKind) (offset : Nat), span.start + 2 ≤ offset →
        StandsAt other.closer offset source → close ≤ offset
  noOpener : ∀ (other : TagKind) (offset : Nat), span.start + 2 ≤ offset → offset < span.stop →
    ¬ StandsAt other.opener offset source

/-- **The grammar.** From an offset on, a source is text, or text, a tag and what follows the tag;
the tags are listed with their spans. -/
inductive Grammar (source : Text) : Nat → List (TagKind × Span) → Prop
  | text {here : Nat} : IsGap source here source.byteSize → Grammar source here []
  | tag {here : Nat} {kind : TagKind} {span : Span} {tags : List (TagKind × Span)} :
    here ≤ span.start → IsGap source here span.start → IsTag source kind span →
      Grammar source span.stop tags → Grammar source here ((kind, span) :: tags)

/-! ### Being plain, by offsets -/

section Plain

variable {front part rest : Text}

/-- A delimiter of which the first character lies in a part that is plain up to the character behind
it does not stand there. -/
theorem not_standsAt_of_plain (plain : Plain (part ++ rest.take 1)) {offset : Nat}
    (behind : front.byteSize ≤ offset) (inside : offset < front.byteSize + part.byteSize)
    (kind : TagKind) :
    ¬ StandsAt kind.opener offset (front ++ (part ++ rest)) ∧
      ¬ StandsAt kind.closer offset (front ++ (part ++ rest)) := by
  rw [TagKind.opener_eq, TagKind.closer_eq]
  refine ⟨fun stands => ?_, fun stands => ?_⟩
  · obtain ⟨_, before, after, pair⟩ := exists_pair_of_standsAt stands behind inside
    have loose := List.isChain_iff_forall_rel_of_append_cons_cons.mp plain pair
    exact (loose_iff.mp loose).1 kind ⟨rfl, rfl⟩
  · obtain ⟨_, before, after, pair⟩ := exists_pair_of_standsAt stands behind inside
    have loose := List.isChain_iff_forall_rel_of_append_cons_cons.mp plain pair
    exact (loose_iff.mp loose).2 kind ⟨rfl, rfl⟩

/-- A part in which no delimiter begins is plain, up to the character behind it. Of the closers only
those matter that end in the part or with the character behind it. -/
theorem plain_of_not_standsAt (front : Text)
    (noOpener : ∀ (kind : TagKind) (offset : Nat), front.byteSize ≤ offset →
      offset < front.byteSize + part.byteSize →
        ¬ StandsAt kind.opener offset (front ++ (part ++ rest)))
    (noCloser : ∀ (kind : TagKind) (offset : Nat), front.byteSize ≤ offset →
      offset < front.byteSize + part.byteSize →
        (offset + 2 ≤ front.byteSize + part.byteSize ∨ rest.head? = some '}') →
          ¬ StandsAt kind.closer offset (front ++ (part ++ rest))) :
    Plain (part ++ rest.take 1) := by
  refine List.isChain_iff_forall_rel_of_append_cons_cons.mpr fun c d before after pair => ?_
  obtain ⟨stands, inside, second⟩ := standsAt_of_pair front pair
  rw [loose_iff]
  refine ⟨fun kind opener => ?_, fun kind closer => ?_⟩
  · obtain ⟨rfl, rfl⟩ := opener
    refine noOpener kind _ (Nat.le_add_right _ _) (Nat.add_lt_add_left inside _) ?_
    rw [TagKind.opener_eq]
    exact stands
  · have size := TagKind.byteSize_closer kind
    rw [TagKind.closer_eq] at size
    obtain ⟨rfl, rfl⟩ := closer
    refine noCloser kind _ (Nat.le_add_right _ _) (Nat.add_lt_add_left inside _) ?_ ?_
    · refine second.imp_left fun wholly => ?_
      simp only [Text.byteSize_cons, Text.byteSize_nil] at size
      omega
    · rw [TagKind.closer_eq]
      exact stands

end Plain

/-! ### Sound pieces, by offsets -/

/-- **The text between two tags is plain up to the brace of the next one**, or up to the end of the
source. -/
theorem plain_iff_isGap (front gap rest : Text) (behind : rest.head? ≠ some '}') :
    Plain (gap ++ rest.take 1) ↔
      IsGap (front ++ (gap ++ rest)) front.byteSize (front.byteSize + gap.byteSize) := by
  constructor
  · intro plain
    exact ⟨fun kind offset after before => (not_standsAt_of_plain plain after before kind).1,
      fun kind offset after before => (not_standsAt_of_plain plain after (by omega) kind).2⟩
  · intro isGap
    refine plain_of_not_standsAt front isGap.noOpener fun kind offset after before wholly => ?_
    exact isGap.noCloser kind offset after (wholly.resolve_right behind)

/-- A closer begins with its mark, whatever follows it. -/
theorem TagKind.take_closer (kind : TagKind) (rest : Text) :
    (kind.closer ++ rest).take 1 = [kind.closeMark] := by
  rw [closer_eq]
  rfl

theorem TagKind.byteSize_append_opener (kind : TagKind) (front : Text) :
    (front ++ kind.opener).byteSize = front.byteSize + 2 := by
  rw [Text.byteSize_append, byteSize_opener]

theorem isTag_of_plain (front body rest : Text) (kind : TagKind)
    (plain : Plain (body ++ [kind.closeMark])) :
    IsTag (front ++ (kind.opener ++ (body ++ (kind.closer ++ rest)))) kind
      ⟨front.byteSize, front.byteSize + body.byteSize + 4⟩ := by
  have opener := kind.byteSize_append_opener front
  have upToCloser : (front ++ kind.opener ++ body).byteSize = front.byteSize + body.byteSize + 2 := by
    rw [Text.byteSize_append, opener]
    omega
  have inBody : ∀ (other : TagKind) (offset : Nat), front.byteSize + 2 ≤ offset →
      offset < front.byteSize + body.byteSize + 2 →
        ¬ StandsAt other.opener offset (front ++ (kind.opener ++ (body ++ (kind.closer ++ rest)))) ∧
        ¬ StandsAt other.closer offset
          (front ++ (kind.opener ++ (body ++ (kind.closer ++ rest)))) := by
    intro other offset after before
    rw [← kind.take_closer rest] at plain
    rw [← List.append_assoc front]
    exact not_standsAt_of_plain plain (by omega) (by omega) other
  have closes : StandsAt kind.closer (front.byteSize + body.byteSize + 2)
      (front ++ (kind.opener ++ (body ++ (kind.closer ++ rest)))) :=
    ⟨front ++ kind.opener ++ body, rest, by simp, upToCloser⟩
  refine ⟨⟨front, body ++ (kind.closer ++ rest), by simp, rfl⟩,
    ⟨front.byteSize + body.byteSize + 2, ?_, rfl, closes, ?_⟩, ?_⟩
  · show front.byteSize + 2 ≤ front.byteSize + body.byteSize + 2
    omega
  · intro other offset after stands
    by_contra earlier
    exact (inBody other offset after (by omega)).2 stands
  · intro other offset after before stands
    have before' : offset < front.byteSize + body.byteSize + 4 := before
    by_cases inside : offset < front.byteSize + body.byteSize + 2
    · exact (inBody other offset after inside).1 stands
    · -- Behind the body there is only the closer, which has no opening brace.
      have regroup : front ++ (kind.opener ++ (body ++ (kind.closer ++ rest))) =
          (front ++ kind.opener ++ body) ++ (kind.closer ++ rest) := by simp
      rw [regroup, TagKind.opener_eq] at stands
      have brace := (exists_pair_of_standsAt stands (by omega)
        (by rw [upToCloser, TagKind.byteSize_closer]; omega)).1
      cases kind <;> exact absurd brace (by decide)

theorem plain_of_isTag (front body rest : Text) (kind : TagKind)
    (isTag : IsTag (front ++ (kind.opener ++ (body ++ (kind.closer ++ rest)))) kind
      ⟨front.byteSize, front.byteSize + body.byteSize + 4⟩) :
    Plain (body ++ [kind.closeMark]) := by
  have opener := kind.byteSize_append_opener front
  obtain ⟨close, _, stop, _, first⟩ := isTag.closed
  have atClose : front.byteSize + body.byteSize + 4 = close + 2 := stop
  rw [← kind.take_closer rest]
  refine plain_of_not_standsAt (front ++ kind.opener) ?_ ?_
  · intro other offset after before
    rw [List.append_assoc]
    refine isTag.noOpener other offset (by rw [opener] at after; exact after) ?_
    show offset < front.byteSize + body.byteSize + 4
    omega
  · intro other offset after before _ stands
    rw [List.append_assoc] at stands
    have earliest := first other offset (by rw [opener] at after; exact after) stands
    omega

/-- **A tag ends with its first closer** exactly if its body is plain up to this closer. -/
theorem plain_iff_isTag (front body rest : Text) (kind : TagKind) :
    Plain (body ++ [kind.closeMark]) ↔
      IsTag (front ++ (kind.opener ++ (body ++ (kind.closer ++ rest)))) kind
        ⟨front.byteSize, front.byteSize + body.byteSize + 4⟩ :=
  ⟨isTag_of_plain front body rest kind, plain_of_isTag front body rest kind⟩

/-! ### From pieces to the grammar and back -/

/-- What a tag is and where it lies. -/
def Tag.extent (tag : Tag) : TagKind × Span := (tag.kind, tag.span)

/-- The extents of the tags of some pieces, the first of which begins at an offset. -/
def extentsFrom (offset : Nat) : List Piece → List (TagKind × Span)
  | [] => []
  | piece :: pieces =>
    (piece.kind, ⟨offset + piece.gap.byteSize, offset + piece.text.byteSize⟩) ::
      extentsFrom (offset + piece.text.byteSize) pieces

theorem map_extent_tagsFrom (here : Position) (pieces : List Piece) :
    (tagsFrom here pieces).map Tag.extent = extentsFrom here.offset pieces := by
  induction pieces generalizing here with
  | nil => rfl
  | cons piece pieces ih =>
    rw [tagsFrom_cons, List.map_cons, ih, extentsFrom, Position.after_offset]
    simp only [Tag.extent, Tag.span, Piece.tag, Position.after_offset]

/-- The source around a piece, divided before its gap and before its tag. -/
theorem source_around (front text : Text) (piece : Piece) :
    front ++ (piece.text ++ text) =
        front ++ (piece.gap ++ (piece.kind.opener ++ (piece.body ++ (piece.kind.closer ++ text)))) ∧
      front ++ (piece.text ++ text) =
        (front ++ piece.gap) ++
          (piece.kind.opener ++ (piece.body ++ (piece.kind.closer ++ text))) := by
  constructor <;> simp [Piece.text, Piece.tagText]

theorem head?_opener_append (kind : TagKind) (rest : Text) :
    (kind.opener ++ rest).head? = some '{' ∧ (kind.opener ++ rest).take 1 = ['{'] := by
  cases kind <;> exact ⟨rfl, rfl⟩

/-- **A piece is sound exactly if its gap is text and its tag is a tag** of the source around it. -/
theorem sound_iff_grammar (front text : Text) (piece : Piece) :
    piece.Sound ↔
      IsGap (front ++ (piece.text ++ text)) front.byteSize
          (front.byteSize + piece.gap.byteSize) ∧
        IsTag (front ++ (piece.text ++ text)) piece.kind
          ⟨front.byteSize + piece.gap.byteSize, front.byteSize + piece.text.byteSize⟩ := by
  have head := head?_opener_append piece.kind (piece.body ++ (piece.kind.closer ++ text))
  have gap := plain_iff_isGap front piece.gap
    (piece.kind.opener ++ (piece.body ++ (piece.kind.closer ++ text)))
    (by rw [head.1]; decide)
  have tag := plain_iff_isTag (front ++ piece.gap) piece.body text piece.kind
  rw [head.2, ← (source_around front text piece).1] at gap
  rw [← (source_around front text piece).2] at tag
  have stop : (front ++ piece.gap).byteSize + piece.body.byteSize + 4 =
      front.byteSize + piece.text.byteSize := by
    rw [Text.byteSize_append, Piece.byteSize_text]
    omega
  rw [stop, Text.byteSize_append] at tag
  exact ⟨fun sound => ⟨gap.mp sound.gap, tag.mp sound.body⟩,
    fun both => ⟨gap.mpr both.1, tag.mpr both.2⟩⟩

/-- **A text cut into sound pieces is text and tags in alternation.** -/
theorem Cut.grammar {text : Text} {pieces : List Piece} {last : Text} (cut : Cut text pieces last)
    (front : Text) : Grammar (front ++ text) front.byteSize (extentsFrom front.byteSize pieces) := by
  induction pieces generalizing front text with
  | nil =>
    have same : text = last := cut.joined
    have isGap := (plain_iff_isGap front text [] (by decide)).mp
      (by rw [same, List.take_nil, List.append_nil]; exact cut.plain)
    rw [List.append_nil, ← Text.byteSize_append] at isGap
    exact Grammar.text isGap
  | cons piece pieces ih =>
    obtain ⟨sound, joined, rest⟩ := cut.uncons
    have behind := ih rest (front ++ piece.text)
    obtain ⟨isGap, isTag⟩ := (sound_iff_grammar front (textOf pieces ++ last) piece).mp sound
    rw [List.append_assoc, Text.byteSize_append] at behind
    rw [joined]
    exact Grammar.tag (Nat.le_add_right _ _) isGap isTag behind

/-- A tag ahead is the tag of a piece of the text. -/
theorem exists_piece_of_isTag {front text : Text} {kind : TagKind} {span : Span}
    (ahead : front.byteSize ≤ span.start) (isTag : IsTag (front ++ text) kind span) :
    ∃ (piece : Piece) (after : Text), text = piece.text ++ after ∧ piece.kind = kind ∧
      span = ⟨front.byteSize + piece.gap.byteSize, front.byteSize + piece.text.byteSize⟩ := by
  -- The gap lies between the offset and the opener, the body between the opener and the closer.
  obtain ⟨beforeTag, fromBody, opened, atStart⟩ := isTag.opened
  obtain ⟨close, afterOpener, atStop, ⟨beforeClose, after, closed, atClose⟩, _⟩ := isTag.closed
  rw [List.append_assoc] at opened closed
  obtain ⟨gap, rfl, _⟩ :=
    Text.exists_append_of_byteSize_le opened (by rw [atStart]; exact ahead)
  have opener : ((front ++ gap) ++ kind.opener).byteSize = span.start + 2 := by
    rw [Text.byteSize_append, atStart, TagKind.byteSize_opener]
  have same : (front ++ gap) ++ kind.opener ++ fromBody = beforeClose ++ (kind.closer ++ after) := by
    rw [← closed, opened, List.append_assoc]
  obtain ⟨body, rfl, _⟩ :=
    Text.exists_append_of_byteSize_le same (by rw [opener, atClose]; exact afterOpener)
  let piece : Piece := ⟨gap, kind, body⟩
  have joined : front ++ text = front ++ (piece.text ++ after) := by
    rw [closed]
    simp [piece, Piece.text, Piece.tagText]
  have start : span.start = front.byteSize + gap.byteSize := by
    rw [← atStart, Text.byteSize_append]
  have stop : span.stop = front.byteSize + piece.text.byteSize := by
    have size : piece.text.byteSize = gap.byteSize + body.byteSize + 4 := piece.byteSize_text
    rw [Text.byteSize_append, opener] at atClose
    omega
  refine ⟨piece, after, List.append_cancel_left joined, rfl, ?_⟩
  rw [← start, ← stop]

/-- **What the grammar reads can be cut into sound pieces.** -/
theorem Grammar.cut {source : Text} {here : Nat} {tags : List (TagKind × Span)}
    (grammar : Grammar source here tags) :
    ∀ front text : Text, source = front ++ text → front.byteSize = here →
      ∃ pieces last, Cut text pieces last ∧ extentsFrom here pieces = tags := by
  induction grammar with
  | text isGap =>
    rintro front text rfl rfl
    refine ⟨[], text, Cut.nil ?_, rfl⟩
    rw [Text.byteSize_append] at isGap
    have plain := (plain_iff_isGap front text [] (by decide)).mpr
      (by rw [List.append_nil]; exact isGap)
    rw [List.take_nil, List.append_nil] at plain
    exact plain
  | @tag here kind span tags ordered isGap isTag grammar ih =>
    rintro front text rfl rfl
    obtain ⟨piece, after, rfl, rfl, rfl⟩ := exists_piece_of_isTag ordered isTag
    have sound : piece.Sound := (sound_iff_grammar front after piece).mpr ⟨isGap, isTag⟩
    obtain ⟨pieces, last, cut, rfl⟩ := ih (front ++ piece.text) after
      (List.append_assoc _ _ _).symm (Text.byteSize_append _ _)
    exact ⟨piece :: pieces, last, cut.cons sound, rfl⟩

/-- **The scanner accepts exactly its grammar.** Its spans are the tags of the grammar in order of
the source; each one is the place of the text of its tag, which is not empty, and ends before the
next one begins. -/
theorem scan_ok_iff_grammar (source : Text) :
    (∀ tags, (∃ found, scan source = .ok found ∧ found.map Tag.extent = tags) ↔
      Grammar source 0 tags) ∧
    ∀ found, scan source = .ok found →
      (∀ tag ∈ found, tag.span.start < tag.span.stop ∧
        source.slice? tag.span.start tag.span.stop = some tag.text) ∧
      found.Pairwise fun a b => a.span.start < b.span.start ∧ a.span.stop ≤ b.span.start := by
  refine ⟨fun tags => ⟨?_, fun grammar => ?_⟩, fun found scanned => ⟨fun tag member => ?_, ?_⟩⟩
  · rintro ⟨found, scanned, rfl⟩
    obtain ⟨pieces, last, cut, rfl⟩ := scan_eq_ok_iff.mp scanned
    rw [map_extent_tagsFrom]
    exact cut.grammar []
  · obtain ⟨pieces, last, cut, rfl⟩ := grammar.cut [] source rfl rfl
    exact ⟨_, scan_eq_ok_iff.mpr ⟨pieces, last, cut, rfl⟩, map_extent_tagsFrom _ _⟩
  · have wide := scan_start_add_four_le_stop scanned member
    exact ⟨Nat.lt_of_lt_of_le (Nat.lt_add_of_pos_right (by decide)) wide,
      scan_slice? scanned member⟩
  · refine (scan_pairwise scanned).imp_of_mem fun {a b} memberA memberB ordered => ⟨?_, ordered⟩
    have wide := scan_start_add_four_le_stop scanned memberA
    exact Nat.lt_of_lt_of_le (Nat.lt_of_lt_of_le (Nat.lt_add_of_pos_right (by decide)) wide) ordered

/-- In `{{{ x }}}` the third opening brace belongs to the body, and the third
closing one is text. -/
example : ((scan "\x7b\x7b\x7b x \x7d\x7d\x7d".toList).map (·.map Tag.extent)).toOption =
    some [(.expression, ⟨0, 8⟩)] := by rfl

end TextTemplate
