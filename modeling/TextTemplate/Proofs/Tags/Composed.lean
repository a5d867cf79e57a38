/-
**Texts composed of tags and of text that may meet.**

A text is taken apart between its tags and put together again, so that what stood beside one tag
comes to stand beside another one, or beside other text. Whether a delimiter may form there depends
on which characters stand directly before and directly behind the tags.

* `Neighbours`: which characters may stand beside each other, before a tag and behind one, where what
  may stand before a tag and what may stand behind one may meet;
* `Composed`: a text of tags and stretches of text that keep to this;
* `Composed.append`: **such texts may be put one behind the other**;
* `Composed.cut_or_stray`: **the scanner finds their tags, or a stray closer**; no closer where the
  neighbours are loose (`Neighbours.Tight`);
* `Composed.slice`, `Composed.applyEdits`: the part between two tags is such a text, and so is what
  becomes of a text when tags and what they enclose are replaced by such texts;
* `Composed.stretch_of_replaced`: with stretches of text in the place of all tags, no tag is left;
* `Neighbours.quiet`, `Neighbours.clearBehind`, `Neighbours.clearBefore`: that no tag begins, that no
  closing brace stands behind a tag, and that no character before a tag makes a closer with one.
-/

import TextTemplate.Proofs.Tags.Drawn

namespace TextTemplate

/-! ### Characters that may meet -/

/-- **Which characters may meet**: side by side, and before and behind a tag. -/
structure Neighbours where
  beside : Char → Char → Prop
  before : Char → Prop
  behind : Char → Prop
  /-- Where a tag is taken away, what stood before it meets what stood behind it. -/
  meet : ∀ {c d : Char}, before c → behind d → beside c d
  unopened : ∀ {c d : Char}, beside c d → opens? c d = none
  noBrace : ∀ {c : Char}, before c → c ≠ '{'

/-- Neighbours that make no closer either. -/
def Neighbours.Tight (neighbours : Neighbours) : Prop :=
  ∀ c d, neighbours.beside c d → Loose c d

/-- **A stretch of text** without tags; `front` and `back` say whether a tag stands directly before it
and directly behind it. -/
structure Stretch (neighbours : Neighbours) (front back : Bool) (text : Text) : Prop where
  chain : text.IsChain neighbours.beside
  first : front = true → ∀ c ∈ text.head?, neighbours.behind c
  last : back = true → ∀ c ∈ text.getLast?, neighbours.before c

section Stretch

variable {neighbours : Neighbours} {front back : Bool} {text rest : Text}

theorem stretch_nil : Stretch neighbours front back [] where
  chain := List.isChain_nil
  first := fun _ c absent => absurd absent (by simp)
  last := fun _ c absent => absurd absent (by simp)

/-- **Where a tag is taken away**, the stretches before and behind it become one. -/
theorem Stretch.append (one : Stretch neighbours front true text)
    (two : Stretch neighbours true back rest) : Stretch neighbours front back (text ++ rest) := by
  refine ⟨?_, fun tagBefore c isFirst => ?_, fun tagBehind c isLast => ?_⟩
  · exact List.isChain_append.mpr ⟨one.chain, two.chain, fun c isLast d isFirst =>
      neighbours.meet (one.last rfl c isLast) (two.first rfl d isFirst)⟩
  · cases text with
    | nil => exact two.first rfl c isFirst
    | cons d text => exact one.first tagBefore c isFirst
  · rcases List.eq_nil_or_concat rest with rfl | ⟨rest, d, rfl⟩
    · rw [List.append_nil] at isLast
      exact one.last rfl c isLast
    · refine two.last tagBehind c ?_
      rwa [List.getLast?_append_of_ne_nil _ (by simp)] at isLast

theorem Stretch.unopened (stretch : Stretch neighbours front back text) : Unopened text :=
  stretch.chain.imp fun _ _ beside => neighbours.unopened beside

/-- A stretch before a tag is quiet. -/
theorem Stretch.quiet (stretch : Stretch neighbours front true text) : Quiet text := by
  refine List.isChain_append.mpr ⟨stretch.unopened, List.isChain_singleton _, fun c isLast d isFirst => ?_⟩
  cases isFirst
  rcases opened : opens? c '{' with - | kind
  · rfl
  · exact absurd (opens?_eq_some_iff.mp opened).1 (neighbours.noBrace (stretch.last rfl c isLast))

theorem Stretch.plain (tight : neighbours.Tight) (stretch : Stretch neighbours front back text) :
    Plain text :=
  stretch.chain.imp tight

/-- A quiet text that holds no delimiter makes none with a brace behind it. -/
theorem Quiet.plain_brace (quiet : Quiet text) (plain : Plain text) : Plain (text ++ ['{']) := by
  refine List.isChain_append.mpr ⟨plain, List.isChain_singleton _, fun c isLast d isFirst => ?_⟩
  cases isFirst
  refine ⟨(List.isChain_append.mp quiet).2.2 c isLast '{' rfl, ?_⟩
  rcases closed : closes? c '{' with - | kind
  · rfl
  · exact absurd (closes?_eq_some_iff.mp closed).2 (by decide)

/-- The scanner passes a stretch before a tag, or finds a stray closer in it. -/
theorem Stretch.plain_or_stray (stretch : Stretch neighbours front true text) (here : Position)
    (rest : Text) :
    Plain (text ++ ['{']) ∨ ¬ neighbours.Tight ∧ ∃ there close,
      scanFrom none here (text ++ '{' :: rest) = .error ⟨there, .unexpectedClose close⟩ := by
  by_cases tight : neighbours.Tight
  · exact Or.inl (stretch.quiet.plain_brace (stretch.plain tight))
  · exact (TextTemplate.plain_or_stray stretch.quiet here rest).imp_right (And.intro tight)

theorem Stretch.plain_or_stray_end (stretch : Stretch neighbours front back text) (here : Position) :
    Plain text ∨ ¬ neighbours.Tight ∧ ∃ there close,
      scanFrom none here text = .error ⟨there, .unexpectedClose close⟩ := by
  by_cases tight : neighbours.Tight
  · exact Or.inl (stretch.plain tight)
  · exact (TextTemplate.plain_or_stray_end stretch.unopened here).imp_right (And.intro tight)

end Stretch

/-! ### Composed texts -/

/-- The stretches and the tags of some pieces and the text behind them; `inside` says which tags there
may be. -/
inductive Composes (neighbours : Neighbours) (inside : TagKind → Text → Prop) (back : Bool) :
    (front : Bool) → List Piece → Text → Prop
  | last {front : Bool} {last : Text} :
    Stretch neighbours front back last → Composes neighbours inside back front [] last
  | piece {front : Bool} {piece : Piece} {pieces : List Piece} {last : Text} :
    Stretch neighbours front true piece.gap → Plain (piece.body ++ [piece.kind.closeMark]) →
      inside piece.kind piece.body → Composes neighbours inside back true pieces last →
        Composes neighbours inside back front (piece :: pieces) last

/-- **A composed text**: tags and stretches of text that keep to what may meet. -/
def Composed (neighbours : Neighbours) (inside : TagKind → Text → Prop) (front back : Bool)
    (text : Text) : Prop :=
  ∃ pieces last, text = textOf pieces ++ last ∧ Composes neighbours inside back front pieces last

section Composed

variable {neighbours : Neighbours} {inside : TagKind → Text → Prop} {front back : Bool}
  {text rest : Text}

theorem Composed.of_stretch (stretch : Stretch neighbours front back text) :
    Composed neighbours inside front back text :=
  ⟨[], text, rfl, Composes.last stretch⟩

theorem composed_nil : Composed neighbours inside front back [] :=
  Composed.of_stretch stretch_nil

/-- A tag by itself. -/
theorem Composed.of_tag {piece : Piece} (plain : Plain (piece.body ++ [piece.kind.closeMark]))
    (fits : inside piece.kind piece.body) : Composed neighbours inside front back piece.tagText := by
  refine ⟨[{ piece with gap := [] }], [], by simp [Piece.text, Piece.tagText], ?_⟩
  exact Composes.piece stretch_nil plain fits (Composes.last stretch_nil)

/-- **Composed texts one behind the other**, the first of which may stand before a tag and the second
of which may stand behind one. -/
theorem Composed.append (one : Composed neighbours inside front true text)
    (two : Composed neighbours inside true back rest) :
    Composed neighbours inside front back (text ++ rest) := by
  obtain ⟨pieces, last, rfl, composes⟩ := one
  obtain ⟨pieces', last', rfl, composes'⟩ := two
  induction composes with
  | @last front last stretch =>
    cases composes' with
    | last stretch' => exact Composed.of_stretch (stretch.append stretch')
    | @piece _ piece pieces' _ gap plain fits later =>
      -- the text before the first tag grows
      refine ⟨{ piece with gap := last ++ piece.gap } :: pieces', last', ?_,
        Composes.piece (stretch.append gap) plain fits later⟩
      simp [Piece.text, Piece.tagText]
  | @piece front piece pieces last gap plain fits _ ih =>
    obtain ⟨joint, last'', joined, composes''⟩ := ih
    refine ⟨piece :: joint, last'', ?_, Composes.piece gap plain fits composes''⟩
    rw [textOf_cons, textOf_cons, List.append_assoc piece.text, List.append_assoc piece.text,
      List.append_assoc piece.text, joined]

/-- The scanner finds the tags of composed pieces, or a stray closer; there is none where the neighbours
are loose. -/
theorem Composes.cut_or_stray {pieces : List Piece} {last : Text}
    (composes : Composes neighbours inside back front pieces last) (here : Position) :
    Cut (textOf pieces ++ last) pieces last ∨ ¬ neighbours.Tight ∧ ∃ there close,
      scanFrom none here (textOf pieces ++ last) = .error ⟨there, .unexpectedClose close⟩ := by
  induction composes generalizing here with
  | last stretch => exact (stretch.plain_or_stray_end here).imp_left Cut.nil
  | @piece front piece pieces last gap plain _ _ ih =>
    rw [textOf_cons, List.append_assoc]
    have shape := piece.text_eq_gap_cons (textOf pieces ++ last)
    rcases gap.plain_or_stray here (piece.kind.openMark ::
      (piece.body ++ (piece.kind.closer ++ (textOf pieces ++ last)))) with plain' | stray
    · have sound : piece.Sound := ⟨plain', plain⟩
      rcases ih (here.after piece.text) with cut | ⟨loose, there, close, stray⟩
      · exact Or.inl (Cut.cons sound cut)
      · rw [scanFrom_piece sound, stray]
        exact Or.inr ⟨loose, there, close, rfl⟩
    · rw [shape]
      exact Or.inr stray

/-- A composed text with the pieces that the scanner finds. -/
structure ComposedCut (neighbours : Neighbours) (inside : TagKind → Text → Prop) (front back : Bool)
    (text : Text) (pieces : List Piece) (last : Text) : Prop where
  cut : Cut text pieces last
  composes : Composes neighbours inside back front pieces last

/-- **What the scanner says of a composed text**: it finds the tags, or a stray closer; there is none
where the neighbours are loose. -/
theorem Composed.cut_or_stray (composed : Composed neighbours inside front back text) :
    (∃ pieces last, ComposedCut neighbours inside front back text pieces last) ∨
      ¬ neighbours.Tight ∧ ∃ there close, scan text = .error ⟨there, .unexpectedClose close⟩ := by
  obtain ⟨pieces, last, rfl, composes⟩ := composed
  exact (composes.cut_or_stray Position.start).imp_left fun cut => ⟨pieces, last, cut, composes⟩

theorem Composed.exists_cut (composed : Composed neighbours inside front back text)
    {found : List Tag} (scanned : scan text = .ok found) :
    ∃ pieces last, ComposedCut neighbours inside front back text pieces last ∧
      found = tagsFrom Position.start pieces := by
  rcases composed.cut_or_stray with ⟨pieces, last, cut⟩ | ⟨-, there, close, stray⟩
  · refine ⟨pieces, last, cut, ?_⟩
    rw [scan, cut.cut.scanFrom_eq] at scanned
    exact (Except.ok.inj scanned).symm
  · rw [stray] at scanned
    cases scanned

/-! ### Parts of composed texts -/

theorem Composes.of_mem {pieces : List Piece} {last : Text}
    (composes : Composes neighbours inside back front pieces last) : ∀ piece ∈ pieces,
      Quiet piece.gap ∧ Plain (piece.body ++ [piece.kind.closeMark]) ∧ inside piece.kind piece.body := by
  induction composes with
  | last => exact fun piece absent => absurd absent List.not_mem_nil
  | piece gap plain fits _ ih => exact List.forall_mem_cons.mpr ⟨⟨gap.quiet, plain, fits⟩, ih⟩

theorem Composes.stretch_last {pieces : List Piece} {last : Text}
    (composes : Composes neighbours inside back front pieces last) :
    ∃ flag, Stretch neighbours flag back last := by
  induction composes with
  | last stretch => exact ⟨_, stretch⟩
  | piece _ _ _ _ ih => exact ih

/-- What stands behind some of the pieces, with or without a tag directly before it. -/
theorem Composes.drop {before after : List Piece} {last : Text}
    (composes : Composes neighbours inside back front (before ++ after) last) :
    Composes neighbours inside back (front || !before.isEmpty) after last := by
  induction before generalizing front with
  | nil => simpa using composes
  | cons piece before ih =>
    cases composes with
    | piece _ _ _ later =>
      have rest := ih later
      simpa using rest

/-- What stands before the tag of a piece. -/
theorem Composes.take {middle after : List Piece} {piece : Piece} {last : Text}
    (composes : Composes neighbours inside back front (middle ++ piece :: after) last) :
    Composes neighbours inside true front middle piece.gap := by
  induction middle generalizing front with
  | nil =>
    cases composes with
    | piece gap _ _ _ => exact Composes.last gap
  | cons first middle ih =>
    cases composes with
    | piece gap plain fits later => exact Composes.piece gap plain fits (ih later)

/-- Where a part of a text begins: with the text, as the text itself does, or behind a tag. -/
def StartsAt (front : Bool) (tags : List Tag) (flag : Bool) (offset : Nat) : Prop :=
  flag = front ∧ offset = 0 ∨ flag = true ∧ ∃ tag ∈ tags, tag.stop.offset = offset

namespace ComposedCut

variable {last : Text} {pieces : List Piece}

/-- The pieces behind the place where a part begins. -/
theorem exists_of_startsAt (cut : ComposedCut neighbours inside front back text pieces last)
    {flag : Bool} {before rest : Text} (joined : text = before ++ rest)
    (starts : StartsAt front (tagsFrom Position.start pieces) flag before.byteSize) :
    ∃ before' after, pieces = before' ++ after ∧ before = textOf before' ∧
      rest = textOf after ++ last ∧ Composes neighbours inside back flag after last := by
  have begins : BeginsAt (tagsFrom Position.start pieces) before.byteSize :=
    starts.imp And.right And.right
  obtain ⟨before', after, rfl, rfl, rfl⟩ := exists_of_beginsAt cut.cut.joined joined begins
  refine ⟨before', after, rfl, rfl, rfl, ?_⟩
  have rest := cut.composes.drop
  rcases starts with ⟨rfl, empty⟩ | ⟨rfl, tag, member, stop⟩
  · cases before' with
    | nil => simpa using rest
    | cons piece before' =>
      rw [textOf_cons, Text.byteSize_append, Piece.byteSize_text] at empty
      omega
  · have wide := start_add_four_le_stop member
    cases before' with
    | nil =>
      rw [textOf_nil, Text.byteSize_nil] at stop
      omega
    | cons piece before' => simpa using rest

theorem composed_rest (cut : ComposedCut neighbours inside front back text pieces last)
    {flag : Bool} {before rest : Text} (joined : text = before ++ rest)
    (starts : StartsAt front (tagsFrom Position.start pieces) flag before.byteSize) :
    Composed neighbours inside flag back rest := by
  obtain ⟨before', after, rfl, -, rfl, composes⟩ := cut.exists_of_startsAt joined starts
  exact ⟨after, last, rfl, composes⟩

/-- **A part before a tag** may stand before a tag. -/
theorem composed_part (cut : ComposedCut neighbours inside front back text pieces last)
    {flag : Bool} {before part rest : Text} (joined : text = before ++ (part ++ rest))
    (starts : StartsAt front (tagsFrom Position.start pieces) flag before.byteSize)
    (ends : EndsAt (tagsFrom Position.start pieces) (before ++ part).byteSize) :
    Composed neighbours inside flag true part := by
  obtain ⟨before', after, rfl, rfl, -, composes⟩ := cut.exists_of_startsAt joined starts
  obtain ⟨before'', middle, piece, after', split, same, rfl⟩ :=
    exists_part cut.cut.joined joined (starts.imp And.right And.right) ends
  -- both ways to divide the pieces are the same
  have pieces' : before' = before'' := by
    rcases List.append_eq_append_iff.mp split with ⟨more, rfl, -⟩ | ⟨more, rfl, -⟩ <;>
    · rw [textOf_append] at same
      have size := congrArg Text.byteSize same
      rw [Text.byteSize_append] at size
      cases more with
      | nil => simp
      | cons first more =>
        rw [textOf_cons, Text.byteSize_append, Piece.byteSize_text] at size
        omega
  obtain rfl := pieces'
  obtain rfl := List.append_cancel_left split
  exact ⟨middle, piece.gap, rfl, composes.take⟩

end ComposedCut

section Parts

variable {found : List Tag} (composed : Composed neighbours inside front back text)
  (scanned : scan text = .ok found)
include composed scanned

/-- **The part between two tags** of a composed text is a composed text between tags. -/
theorem Composed.slice {start stop : Nat} (begins : ∃ tag ∈ found, tag.stop.offset = start)
    (ends : EndsAt found stop) : Composed neighbours inside true true (text.slice start stop) := by
  obtain ⟨pieces, last, cut, rfl⟩ := composed.exists_cut scanned
  rw [Text.slice]
  rcases part : text.slice? start stop with _ | middle
  · exact composed_nil
  · obtain ⟨before, rest, joined, rfl, rfl⟩ := Text.slice?_eq_some_iff.mp part
    rw [List.append_assoc] at joined
    exact cut.composed_part joined (Or.inr ⟨rfl, begins⟩) ends

/-- **A composed text in which tags and what they enclose are replaced** by composed texts. -/
theorem Composed.splices {edits : List Edit} {result : Text} (splices : Splices 0 text edits result)
    (placed : ∀ edit ∈ edits, EndsAt found edit.span.start ∧
      (∃ tag ∈ found, tag.stop.offset = edit.span.stop) ∧
        Composed neighbours inside true true edit.replacement) :
    Composed neighbours inside front back result := by
  obtain ⟨pieces, last, cut, rfl⟩ := composed.exists_cut scanned
  suffices general : ∀ {offset rest result} {edits : List Edit},
      Splices offset rest edits result → ∀ flag before, text = before ++ rest →
        before.byteSize = offset → StartsAt front (tagsFrom Position.start pieces) flag offset →
          (∀ edit ∈ edits, EndsAt (tagsFrom Position.start pieces) edit.span.start ∧
            (∃ tag ∈ tagsFrom Position.start pieces, tag.stop.offset = edit.span.stop) ∧
              Composed neighbours inside true true edit.replacement) →
            Composed neighbours inside flag back result from
    general splices front [] rfl rfl (Or.inl ⟨rfl, rfl⟩) placed
  intro offset rest result edits splices
  induction splices with
  | keep =>
    rintro flag before joined rfl starts -
    exact cut.composed_rest joined starts
  | @replace offset rest result edits gap old new later splices ih =>
    rintro flag before joined rfl starts placed
    obtain ⟨ends, begins', new'⟩ := placed _ List.mem_cons_self
    have rest' := ih true (before ++ (gap ++ old)) (by rw [joined]; simp)
      (Text.byteSize_append _ _) (Or.inr ⟨rfl, begins'⟩)
      fun edit member => placed edit (List.mem_cons_of_mem _ member)
    have gap' : Composed neighbours inside flag true gap :=
      cut.composed_part (by rw [joined, List.append_assoc]) starts
        (by rw [Text.byteSize_append]; exact ends)
    exact (gap'.append new').append rest'

/-- A batch of edits replaces tags and what they enclose in a composed text by composed texts. -/
theorem Composed.applyEdits {edits : List Edit} (sound : SoundSpans text (edits.map Edit.span))
    (placed : ∀ edit ∈ edits, EndsAt found edit.span.start ∧
      (∃ tag ∈ found, tag.stop.offset = edit.span.stop) ∧
        Composed neighbours inside true true edit.replacement) :
    Composed neighbours inside front back (TextTemplate.applyEdits text edits) := by
  obtain ⟨ordered, result, same, splices⟩ := exists_splices sound
  rw [applyEdits_eq_of_splices splices same]
  exact composed.splices scanned splices fun edit member => placed edit (same.mem_iff.mpr member)

end Parts

/-! ### Texts without tags -/

/-- Composed pieces with stretches of text in the place of their tags. -/
theorem Composes.exists_splices {pieces : List Piece} {last : Text}
    (composes : Composes neighbours inside back front pieces last) (here : Position)
    {edits : List Edit} (spans : edits.map Edit.span = (tagsFrom here pieces).map Tag.span)
    (stretches : ∀ edit ∈ edits, Stretch neighbours true true edit.replacement) :
    ∃ result, Splices here.offset (textOf pieces ++ last) edits result ∧
      Stretch neighbours front back result := by
  induction composes generalizing here edits with
  | @last front last stretch =>
    obtain rfl := List.map_eq_nil_iff.mp spans
    exact ⟨last, Splices.keep _ _, stretch⟩
  | @piece front piece pieces last gap _ _ _ ih =>
    rw [tagsFrom_cons, List.map_cons] at spans
    obtain ⟨⟨span, new⟩, edits, rfl, rfl, spans'⟩ := List.map_eq_cons_iff.mp spans
    obtain ⟨result, rest, stretch⟩ := ih (here.after piece.text) spans'
      fun edit member => stretches edit (List.mem_cons_of_mem _ member)
    have new' : Stretch neighbours true true new := stretches _ List.mem_cons_self
    refine ⟨piece.gap ++ new ++ result, ?_, (gap.append new').append stretch⟩
    rw [Position.after_offset] at rest
    have later : ∀ edit ∈ edits, here.offset + piece.gap.byteSize < edit.span.start := by
      intro edit member
      have beyond := rest.offset_le_start edit member
      rw [Piece.byteSize_text] at beyond
      omega
    have whole := Splices.replace piece.gap piece.tagText new later rest
    simp only [textOf_cons, Piece.text, List.append_assoc] at whole ⊢
    simpa [Tag.span, Piece.tag, Position.after_offset, Piece.text] using whole

/-- **A composed text with stretches of text in the place of all its tags** is a stretch of text. -/
theorem Composed.stretch_of_replaced (composed : Composed neighbours inside front back text)
    {found : List Tag} (scanned : scan text = .ok found) {edits : List Edit}
    (spans : edits.map Edit.span = found.map Tag.span)
    (stretches : ∀ edit ∈ edits, Stretch neighbours true true edit.replacement) :
    Stretch neighbours front back (TextTemplate.applyEdits text edits) := by
  obtain ⟨pieces, last, cut, rfl⟩ := composed.exists_cut scanned
  obtain ⟨result, splices, stretch⟩ := cut.composes.exists_splices Position.start spans stretches
  rw [← cut.cut.joined] at splices
  rwa [applyEdits_eq_of_splices splices (List.Perm.refl _)]

end Composed

/-! ### Three kinds of neighbours -/

/-- Any tag. -/
def anyTag (_ : TagKind) (_ : Text) : Prop := True

/-- What may meet if only no tag is to begin. -/
def Neighbours.quiet : Neighbours where
  beside c d := opens? c d = none
  before c := c ≠ '{'
  behind _ := True
  meet noBrace _ := by
    rcases opened : opens? _ _ with - | kind
    · rfl
    · exact absurd (opens?_eq_some_iff.mp opened).1 noBrace
  unopened := id
  noBrace := id

theorem stretch_quiet_iff {text : Text} :
    Stretch Neighbours.quiet true true text ↔ Quiet text := by
  constructor
  · exact Stretch.quiet
  · intro quiet
    refine ⟨(List.isChain_append.mp quiet).1, fun _ _ _ => trivial, fun _ c isLast => ?_⟩
    rintro rfl
    exact absurd ((List.isChain_append.mp quiet).2.2 '{' isLast '{' rfl) (by decide)

/-- The tags of a list, wherever they stand. -/
def Among (tags : List Tag) (kind : TagKind) (body : Text) : Prop :=
  ∃ tag ∈ tags, tag.kind = kind ∧ tag.body = body

/-- Drawn pieces are composed of tags of the list and quiet text. -/
theorem composes_of_drawn {tags : List Tag} {back : Bool} {pieces : List Piece} {last : Text}
    (drawn : ∀ piece ∈ pieces, piece.Drawn tags) (behind : Stretch Neighbours.quiet true back last) :
    Composes Neighbours.quiet (Among tags) back true pieces last := by
  induction pieces with
  | nil => exact Composes.last behind
  | cons piece pieces ih =>
    obtain ⟨head, later⟩ := List.forall_mem_cons.mp drawn
    exact Composes.piece (stretch_quiet_iff.mpr head.gap) head.body head.tag (ih later)

/-- A drawn text is composed of tags of the list and quiet text. -/
theorem Drawn.composed {tags : List Tag} {next text : Text} (drawn : Drawn tags next text) :
    Composed Neighbours.quiet (Among tags) true false text := by
  obtain ⟨pieces, last, rfl, drawn, unopened⟩ := drawn
  refine ⟨pieces, last, rfl, composes_of_drawn drawn ⟨?_, fun _ _ _ => trivial, ?_⟩⟩
  · exact (List.isChain_append.mp unopened).1
  · exact fun absent => absurd absent Bool.false_ne_true

/-- **Drawn texts that may stand before a tag** are those composed of some tags and quiet text. -/
theorem drawn_iff_composed {tags : List Tag} {text : Text} :
    Drawn tags ['{'] text ↔ Composed Neighbours.quiet (Among tags) true true text := by
  constructor
  · rintro ⟨pieces, last, rfl, drawn, quiet⟩
    exact ⟨pieces, last, rfl, composes_of_drawn drawn (stretch_quiet_iff.mpr quiet)⟩
  · rintro ⟨pieces, last, rfl, composes⟩
    obtain ⟨flag, stretch⟩ := composes.stretch_last
    refine ⟨pieces, last, rfl, fun piece member => ?_, stretch.quiet⟩
    obtain ⟨quiet, plain, fits⟩ := composes.of_mem piece member
    exact ⟨quiet, plain, fits⟩

/-- **No closing brace behind a tag.** -/
def Neighbours.clearBehind : Neighbours where
  beside := Loose
  before c := c ≠ '{'
  behind d := d ≠ '}'
  meet noBrace clear :=
    loose_iff.mpr ⟨fun _ opener => noBrace opener.1, fun _ closer => clear closer.2⟩
  unopened := Loose.noOpener
  noBrace := id

/-- **No character before a tag that makes a closer** with a closing brace. -/
def Neighbours.clearBefore : Neighbours where
  beside := Loose
  before c := c ≠ '{' ∧ c ≠ '}' ∧ c ≠ '%'
  behind _ := True
  meet := by
    rintro c d ⟨notOpen, notClose, notPercent⟩ -
    exact Loose.of_ne d notOpen notClose notPercent
  unopened := Loose.noOpener
  noBrace := And.left

theorem Neighbours.tight_clearBehind : clearBehind.Tight := fun _ _ loose => loose

theorem Neighbours.tight_clearBefore : clearBefore.Tight := fun _ _ loose => loose

/-- **No tag of a text has a closing brace directly behind it.** -/
def ClearBehind (text : Text) (tags : List Tag) : Prop :=
  ∀ tag ∈ tags, text.slice tag.stop.offset (tag.stop.offset + 1) ≠ ['}']

/-- **No tag of a text has a closing brace or a percent sign directly before it.** -/
def ClearBefore (text : Text) (tags : List Tag) : Prop :=
  ∀ tag ∈ tags, text.slice (tag.start.offset - 1) tag.start.offset ≠ ['}'] ∧
    text.slice (tag.start.offset - 1) tag.start.offset ≠ ['%']

instance (text : Text) (tags : List Tag) : Decidable (ClearBehind text tags) :=
  inferInstanceAs (Decidable (∀ tag ∈ tags, _))

instance (text : Text) (tags : List Tag) : Decidable (ClearBefore text tags) :=
  inferInstanceAs (Decidable (∀ tag ∈ tags, _))

section Scanned

variable {text : Text} {tags : List Tag}

/-- Pieces that the scanner has found make up a composed text, if their gaps are stretches. -/
theorem composes_of_sound {neighbours : Neighbours} {front : Bool} {pieces : List Piece} {last : Text}
    (sound : ∀ piece ∈ pieces, piece.Sound)
    (gaps : ∀ before piece after, pieces = before ++ piece :: after →
      Stretch neighbours (front || !before.isEmpty) true piece.gap)
    (behind : Stretch neighbours (front || !pieces.isEmpty) false last) :
    Composes neighbours anyTag false front pieces last := by
  induction pieces generalizing front with
  | nil => exact Composes.last (by simpa using behind)
  | cons piece pieces ih =>
    obtain ⟨head, later⟩ := List.forall_mem_cons.mp sound
    refine Composes.piece (by simpa using gaps [] piece pieces rfl) head.body trivial (ih later ?_ ?_)
    · intro before other after split
      simpa using gaps (piece :: before) other after (by rw [split]; rfl)
    · simpa using behind

/-- A stretch between tags that the scanner has found. -/
theorem Piece.Sound.gap_ends {piece : Piece} (sound : piece.Sound) : ∀ c ∈ piece.gap.getLast?, c ≠ '{' := by
  rintro c isLast rfl
  have loose := (List.isChain_append.mp sound.gap).2.2 '{' isLast '{' rfl
  exact absurd loose.noOpener (by decide)

/-- **A text that can be scanned is composed of quiet stretches.** -/
theorem composed_quiet (scanned : scan text = .ok tags) :
    Composed Neighbours.quiet anyTag false false text := by
  obtain ⟨pieces, last, cut, rfl⟩ := scan_eq_ok_iff.mp scanned
  refine ⟨pieces, last, cut.joined, composes_of_sound cut.sound ?_ ?_⟩
  · rintro before piece after rfl
    have sound := cut.sound piece (by simp)
    exact ⟨sound.plain_gap.unopened, fun _ _ _ => trivial, fun _ => sound.gap_ends⟩
  · exact ⟨cut.plain.unopened, fun _ _ _ => trivial, fun absent => absurd absent Bool.false_ne_true⟩

/-- Where no closing brace stands behind a tag, no gap behind a tag begins with one. -/
theorem clear_of_clearBehind {before : List Piece} {piece : Piece} (after : List Piece) {rest : Text}
    (joined : text = textOf (before ++ [piece]) ++ rest)
    (clear : ClearBehind text (tagsFrom Position.start (before ++ piece :: after))) :
    ∀ c ∈ rest.head?, c ≠ '}' := by
  rintro c isFirst rfl
  obtain ⟨rest, rfl⟩ := List.head?_eq_some_iff.mp isFirst
  have offset : (piece.tag (Position.start.after (textOf before))).stop.offset =
      (textOf (before ++ [piece])).byteSize := by
    simp [Piece.tag, Position.after_offset, Position.start]
  have brace := clear _ (tag_mem_tagsFrom Position.start before piece after)
  have part := Text.slice?_append (textOf (before ++ [piece])) ['}'] rest
  rw [offset, joined, Text.slice] at brace
  rw [List.append_assoc, List.singleton_append, Text.byteSize_append] at part
  exact brace (by rw [show Text.byteSize ['}'] = 1 from rfl] at part; rw [part]; rfl)

/-- **A text without closing braces behind its tags** is composed in this way. -/
theorem composed_clearBehind (scanned : scan text = .ok tags) (clear : ClearBehind text tags) :
    Composed Neighbours.clearBehind anyTag false false text := by
  obtain ⟨pieces, last, cut, rfl⟩ := scan_eq_ok_iff.mp scanned
  refine ⟨pieces, last, cut.joined, composes_of_sound cut.sound ?_ ?_⟩
  · rintro before piece after rfl
    have sound := cut.sound piece (by simp)
    refine ⟨sound.plain_gap, fun tagBefore c isFirst => ?_,
      fun _ => sound.gap_ends⟩
    rcases List.eq_nil_or_concat before with rfl | ⟨before, previous, rfl⟩
    · exact absurd tagBefore (by simp)
    · rw [List.concat_eq_append, List.append_assoc] at clear
      have joined : text = textOf (before ++ [previous]) ++
          (piece.gap ++ (piece.tagText ++ (textOf after ++ last))) := by
        rw [cut.joined]
        simp [Piece.text]
      refine clear_of_clearBehind (piece :: after) joined clear c ?_
      rw [List.head?_append, isFirst]
      rfl
  · refine ⟨cut.plain, fun tagBefore c isFirst => ?_, fun absent => absurd absent Bool.false_ne_true⟩
    rcases List.eq_nil_or_concat pieces with rfl | ⟨before, previous, rfl⟩
    · exact absurd tagBefore (by simp)
    · rw [List.concat_eq_append] at clear
      exact clear_of_clearBehind [] (cut.joined.trans (by rw [List.concat_eq_append])) clear c isFirst

/-- **A text without closing braces and percent signs before its tags** is composed in this way. -/
theorem composed_clearBefore (scanned : scan text = .ok tags) (clear : ClearBefore text tags) :
    Composed Neighbours.clearBefore anyTag false false text := by
  obtain ⟨pieces, last, cut, rfl⟩ := scan_eq_ok_iff.mp scanned
  refine ⟨pieces, last, cut.joined, composes_of_sound cut.sound ?_ ?_⟩
  · rintro before piece after rfl
    have sound := cut.sound piece (by simp)
    refine ⟨sound.plain_gap, fun _ _ _ => trivial, fun _ c isLast => ?_⟩
    obtain ⟨gap, shape⟩ := List.getLast?_eq_some_iff.mp isLast
    have member := tag_mem_tagsFrom Position.start before piece after
    -- the character before the tag, if it takes one byte
    have slice : c.utf8Size = 1 → text.slice
        ((piece.tag (Position.start.after (textOf before))).start.offset - 1)
        (piece.tag (Position.start.after (textOf before))).start.offset = [c] := by
      intro narrow
      have start : (piece.tag (Position.start.after (textOf before))).start.offset =
          (textOf before ++ gap ++ [c]).byteSize := by
        simp [Piece.tag, Position.after_offset, Position.start, shape]
      have size : (textOf before ++ gap ++ [c]).byteSize - 1 = (textOf before ++ gap).byteSize := by
        simp [narrow]
      have part := Text.slice?_append (textOf before ++ gap) [c] (piece.tagText ++ (textOf after ++ last))
      have joined : text =
          textOf before ++ gap ++ [c] ++ (piece.tagText ++ (textOf after ++ last)) := by
        rw [cut.joined]
        simp [Piece.text, shape]
      rw [start, size, Text.slice, joined, part]
      rfl
    refine ⟨sound.gap_ends c isLast, ?_, ?_⟩
    · rintro rfl
      exact (clear _ member).1 (slice rfl)
    · rintro rfl
      exact (clear _ member).2 (slice rfl)
  · exact ⟨cut.plain, fun _ _ _ => trivial, fun absent => absurd absent Bool.false_ne_true⟩

end Scanned

end TextTemplate
