/-
**Texts whose blocks stand side by side.**

Where no block lies in another one and all of them are closed, a text is a sequence of passages: tags
that are no part of a block, and blocks with their bodies. Putting other bodies into the blocks leaves
the sequence as it is, and merging a child does nothing else.

* `sideBySide`: whether the blocks of some tags stand side by side;
* `Laid`: a text of passages, the bodies of which may stand between any two tags;
* `laid_of_scan`: **a text whose blocks stand side by side is laid out** in this way;
* `Laid.tagged_or_stray`: **its blocks are those of its passages**, if it can be scanned;
* `Laid.splices_refill`: putting other bodies into the blocks is one pass over the text, and gives such
  a text again (`LaidOut.refill`);
* `LaidOut.mergeBlocks_eq`: **a merge puts the overriding bodies into the blocks**, and nothing else
  changes.
-/

import TextTemplate.Proofs.Inheritance.Override
import TextTemplate.Proofs.Inheritance.References

namespace TextTemplate

/-! ### Blocks side by side -/

/-- Whether a tag may stand in a block: it extends nothing, and `super()` stands behind no other brace
in it. -/
def Tag.mayStandInBlock (tag : Tag) : Bool :=
  (tag.reference? "extends").isNone && !tag.isBracedSuper

/-- **Whether the blocks of some tags stand side by side**, each of them closed; `opened` says whether
one has begun already. -/
def sideBySide : (opened : Bool) → List Tag → Bool
  | opened, [] => !opened
  | opened, tag :: tags =>
    match blockRole tag with
    | .opens _ => !opened && sideBySide true tags
    | .closes => sideBySide false tags
    | .neither => (!opened || tag.mayStandInBlock) && sideBySide opened tags

/-- A tag in a block. -/
def InBlock (kind : TagKind) (body : Text) : Prop :=
  let tag : Tag := ⟨kind, Position.start, Position.start, body⟩
  blockRole tag = .neither ∧ tag.mayStandInBlock = true

theorem unbraced_inBlock : UnbracedTags InBlock := by
  intro piece inBlock
  have may := (Bool.and_eq_true_iff.mp inBlock.2).2
  rwa [Bool.not_eq_true'] at may

/-- **A passage of a text**: a tag that is no part of a block, or a block; both with the text before
them. -/
inductive Passage where
  | tag (piece : Piece)
  | block (name : String) (opening : Piece) (body : Text) (closing : Piece)

namespace Passage

/-- The characters of a passage. -/
def text : Passage → Text
  | .tag piece => piece.text
  | .block _ opening body closing => opening.text ++ body ++ closing.text

/-- A passage with another body in its block. -/
def refill (change : String → Text → Text) : Passage → Passage
  | .tag piece => .tag piece
  | .block name opening body closing => .block name opening (change name body) closing

/-- The block of a passage by its name, with its body. -/
def body? : Passage → Option (String × Text)
  | .tag _ => none
  | .block name _ body _ => some (name, body)

/-- The template that a passage outside of blocks extends. -/
def parent? : Passage → Option String
  | .tag piece => (piece.tag Position.start).reference? "extends"
  | .block _ _ _ _ => none

end Passage

/-- The characters of some passages. -/
def layoutText (passages : List Passage) : Text :=
  passages.flatMap Passage.text

@[simp] theorem layoutText_nil : layoutText [] = [] := rfl

@[simp] theorem layoutText_cons (passage : Passage) (passages : List Passage) :
    layoutText (passage :: passages) = passage.text ++ layoutText passages := rfl

/-- The bodies of some passages by the names of the blocks. -/
def bodiesOf (passages : List Passage) : Bindings Text :=
  passages.filterMap Passage.body?

/-- The blocks of some passages, the first of which begins at `here`, with their bodies. -/
def entriesFrom (here : Position) : List Passage → List (Block × Text)
  | [] => []
  | .tag piece :: passages => entriesFrom (here.after piece.text) passages
  | .block name opening body closing :: passages =>
    (⟨name, opening.tag here, closing.tag (here.after (opening.text ++ body))⟩, body) ::
      entriesFrom (here.after (opening.text ++ body ++ closing.text)) passages

theorem bodiesOf_eq_map (here : Position) (passages : List Passage) :
    bodiesOf passages = (entriesFrom here passages).map fun entry => (entry.1.info, entry.2) := by
  induction passages generalizing here with
  | nil => rfl
  | cons passage passages ih =>
    cases passage with
    | tag piece => exact ih _
    | block name opening body closing => exact congrArg ((name, body) :: ·) (ih _)

/-- **Passages that make up a text**, with the text behind them; `front` says whether a tag stands
directly before it. -/
inductive Laid (neighbours : Neighbours) : (front : Bool) → List Passage → Text → Prop
  | last {front : Bool} {last : Text} :
    Stretch neighbours front false last → Laid neighbours front [] last
  | tag {front : Bool} {piece : Piece} {passages : List Passage} {last : Text} :
    Stretch neighbours front true piece.gap → Plain (piece.body ++ [piece.kind.closeMark]) →
      (∀ name, blockRole (piece.tag Position.start) ≠ .opens name) →
        Laid neighbours true passages last → Laid neighbours front (.tag piece :: passages) last
  | block {front : Bool} {name : String} {opening closing : Piece} {body : Text}
      {passages : List Passage} {last : Text} :
    Stretch neighbours front true opening.gap → Plain (opening.body ++ [opening.kind.closeMark]) →
      blockRole (opening.tag Position.start) = .opens name →
        Composed neighbours InBlock true true body → closing.gap = [] →
          Plain (closing.body ++ [closing.kind.closeMark]) →
            blockRole (closing.tag Position.start) = .closes → Laid neighbours true passages last →
              Laid neighbours front (.block name opening body closing :: passages) last

section Layout

variable {neighbours : Neighbours} {front : Bool}

/-! ### Laying out a text -/

/-- The body of a block that has begun, its closing tag and the passages behind it. -/
structure LaidInside (neighbours : Neighbours) (pieces : List Piece) (last body : Text)
    (closing : Piece) (passages : List Passage) : Prop where
  joined : textOf pieces = body ++ (closing.text ++ layoutText passages)
  body : Composed neighbours InBlock true true body
  gap : closing.gap = []
  plain : Plain (closing.body ++ [closing.kind.closeMark])
  closes : blockRole (closing.tag Position.start) = .closes
  laid : Laid neighbours true passages last

/-- **Pieces whose blocks stand side by side are laid out**, from the outside and from the inside of a
block. -/
theorem laid_of_composes {pieces : List Piece} {last : Text}
    (composes : Composes neighbours anyTag false front pieces last) (here : Position) :
    (sideBySide false (tagsFrom here pieces) = true →
      ∃ passages, textOf pieces = layoutText passages ∧ Laid neighbours front passages last) ∧
    (front = true → sideBySide true (tagsFrom here pieces) = true →
      ∃ body closing passages, LaidInside neighbours pieces last body closing passages) := by
  induction composes generalizing here with
  | last stretch =>
    refine ⟨fun _ => ⟨[], rfl, Laid.last stretch⟩, fun _ beside => ?_⟩
    exact absurd beside Bool.false_ne_true
  | @piece front piece pieces last gap plain _ later ih =>
    obtain ⟨outside, inside⟩ := ih (here.after piece.text)
    have same : blockRole (piece.tag here) = blockRole (piece.tag Position.start) := rfl
    -- a tag outside of a block that does not begin one
    have passed : (∀ name, blockRole (piece.tag here) ≠ .opens name) →
        sideBySide false (tagsFrom (here.after piece.text) pieces) = true →
          ∃ passages, textOf (piece :: pieces) = layoutText passages ∧
            Laid neighbours front passages last := by
      intro noOpener beside
      obtain ⟨passages, joined, laid⟩ := outside beside
      exact ⟨.tag piece :: passages, by rw [textOf_cons, joined]; rfl,
        Laid.tag gap plain (same ▸ noOpener) laid⟩
    constructor
    · intro beside
      rw [tagsFrom_cons, sideBySide] at beside
      rcases role : blockRole (piece.tag here) with name | _ | _ <;> rw [role] at beside
      · obtain ⟨body, closing, passages, block⟩ := inside rfl beside
        refine ⟨.block name piece body closing :: passages, ?_, ?_⟩
        · rw [textOf_cons, block.joined]
          simp [Passage.text]
        · exact Laid.block gap plain (same ▸ role) block.body block.gap block.plain block.closes
            block.laid
      · exact passed (fun name opens => by rw [role] at opens; cases opens) beside
      · exact passed (fun name opens => by rw [role] at opens; cases opens) beside
    · rintro rfl beside
      rw [tagsFrom_cons, sideBySide] at beside
      rcases role : blockRole (piece.tag here) with name | _ | _ <;> rw [role] at beside
      · exact absurd beside Bool.false_ne_true
      · obtain ⟨passages, joined, laid⟩ := outside beside
        exact ⟨piece.gap, { piece with gap := [] }, passages,
          by rw [textOf_cons, joined]; simp [Piece.text, Piece.tagText], Composed.of_stretch gap, rfl,
          plain, role, laid⟩
      · obtain ⟨may, beside⟩ := Bool.and_eq_true_iff.mp beside
        obtain ⟨body, closing, passages, block⟩ := inside rfl beside
        obtain ⟨inner, behind, rfl, composes⟩ := block.body
        refine ⟨piece.text ++ (textOf inner ++ behind), closing, passages, ?_, ?_, block.gap,
          block.plain, block.closes, block.laid⟩
        · rw [textOf_cons, block.joined]
          simp
        · exact ⟨piece :: inner, behind, by simp, Composes.piece gap plain ⟨role, may⟩ composes⟩

/-- **A text whose blocks stand side by side is laid out.** -/
theorem laid_of_scan {text : Text} {tags : List Tag} (scanned : scan text = .ok tags)
    (beside : sideBySide false tags = true)
    (composed : Composed neighbours anyTag false false text) :
    ∃ passages last, text = layoutText passages ++ last ∧ Laid neighbours false passages last := by
  obtain ⟨pieces, last, cut, rfl⟩ := composed.exists_cut scanned
  obtain ⟨passages, joined, laid⟩ := (laid_of_composes cut.composes Position.start).1 beside
  exact ⟨passages, last, by rw [← joined]; exact cut.cut.joined, laid⟩

/-! ### The tags of a layout -/

/-- A tag that begins or ends a block extends nothing. -/
theorem reference?_of_blockRole {tag : Tag} (role : blockRole tag ≠ .neither) :
    tag.reference? "extends" = none := by
  rw [Tag.reference?]
  rcases found : tag.directive? with _ | ⟨keyword, argument⟩
  · rfl
  · refine if_neg ?_
    rintro rfl
    apply role
    unfold blockRole
    rw [found]
    simp

/-- What lies between the tags of a block is passed over. -/
theorem pairTags_inBlock {ahead back : Bool} {pieces : List Piece} {last : Text}
    (composes : Composes neighbours InBlock back ahead pieces last) (here : Position)
    (opened : List (String × Tag)) (tags : List Tag) :
    pairTags blockRole opened (tagsFrom here pieces ++ tags) = pairTags blockRole opened tags ∧
      (tagsFrom here pieces).filterMap (Tag.reference? "extends") = [] := by
  induction composes generalizing here with
  | last => exact ⟨rfl, rfl⟩
  | @piece _ piece _ _ _ _ inBlock _ ih =>
    obtain ⟨paired, none'⟩ := ih (here.after piece.text)
    have neither : blockRole (piece.tag here) = .neither := inBlock.1
    have extendsNothing : (piece.tag here).reference? "extends" = none :=
      Option.isNone_iff_eq_none.mp (Bool.and_eq_true_iff.mp inBlock.2).1
    refine ⟨?_, ?_⟩
    · rw [tagsFrom_cons, List.cons_append, pairTags_neither neither, paired]
    · rw [tagsFrom_cons, List.filterMap_cons, extendsNothing]
      exact none'

/-- The tags of some pieces, and what they say of blocks and of parents. -/
structure Outlines (pieces : List Piece) (passages : List Passage) : Prop where
  joined : textOf pieces = layoutText passages
  blocks : ∀ here, pairTags blockRole [] (tagsFrom here pieces) =
    (entriesFrom here passages).map Prod.fst
  parents : ∀ here, (tagsFrom here pieces).filterMap (Tag.reference? "extends") =
    passages.filterMap Passage.parent?

theorem Outlines.tag {piece : Piece} {pieces : List Piece} {passages : List Passage}
    (notOpening : ∀ name, blockRole (piece.tag Position.start) ≠ .opens name)
    (outlines : Outlines pieces passages) :
    Outlines (piece :: pieces) (.tag piece :: passages) := by
  refine ⟨?_, fun here => ?_, fun here => ?_⟩
  · rw [textOf_cons, outlines.joined]
    rfl
  · have passed : pairTags blockRole [] (piece.tag here :: tagsFrom (here.after piece.text) pieces) =
        pairTags blockRole [] (tagsFrom (here.after piece.text) pieces) := by
      rcases role : blockRole (piece.tag here) with name | _ | _
      · exact absurd role (notOpening name)
      · exact pairTags_closes_nil role
      · exact pairTags_neither role
    rw [tagsFrom_cons, passed]
    exact outlines.blocks _
  · have same : Passage.parent? (.tag piece) = (piece.tag here).reference? "extends" :=
      Tag.reference?_congr rfl rfl "extends"
    rw [tagsFrom_cons, List.filterMap_cons, List.filterMap_cons, outlines.parents, same]

theorem Outlines.block {name : String} {opening closing : Piece} {inner pieces : List Piece}
    {behind : Text} {passages : List Passage}
    (opens : blockRole (opening.tag Position.start) = .opens name)
    (composes : Composes neighbours InBlock true true inner behind) (gap : closing.gap = [])
    (closes : blockRole (closing.tag Position.start) = .closes) (outlines : Outlines pieces passages) :
    Outlines (opening :: (inner ++ ⟨behind, closing.kind, closing.body⟩ :: pieces))
      (.block name opening (textOf inner ++ behind) closing :: passages) := by
  obtain ⟨none, kind, argument⟩ := closing
  obtain rfl : none = [] := gap
  refine ⟨?_, fun here => ?_, fun here => ?_⟩
  · simp [Passage.text, outlines.joined, Piece.text, Piece.tagText]
  · have opens' : blockRole (opening.tag here) = .opens name := opens
    have closes' : ∀ there, blockRole ((⟨behind, kind, argument⟩ : Piece).tag there) = .closes :=
      fun _ => closes
    have paired := (pairTags_inBlock composes (here.after opening.text) [(name, opening.tag here)]
      (tagsFrom ((here.after opening.text).after (textOf inner)) (⟨behind, kind, argument⟩ :: pieces))).1
    rw [tagsFrom_cons, tagsFrom_append, pairTags_opens opens', paired, tagsFrom_cons,
      pairTags_closes (closes' _), outlines.blocks]
    simp [entriesFrom, Piece.tag, Piece.text, Piece.tagText, Position.after_append]
  · have first : (opening.tag here).reference? "extends" = Option.none :=
      reference?_of_blockRole fun neither => by
        cases (show blockRole (opening.tag here) = .opens name from opens).symm.trans neither
    have final : ∀ there, ((⟨behind, kind, argument⟩ : Piece).tag there).reference? "extends" =
        Option.none :=
      fun there => reference?_of_blockRole fun neither => by cases closes.symm.trans neither
    have inside := (pairTags_inBlock composes (here.after opening.text) [] []).2
    rw [tagsFrom_cons, tagsFrom_append, tagsFrom_cons, List.filterMap_cons_none first,
      List.filterMap_append, inside, List.nil_append, List.filterMap_cons_none (final _),
      outlines.parents]
    rfl

/-- What may stand in a block is followed by the tag that ends it. -/
theorem Composes.close {ahead : Bool} {inner pieces : List Piece} {behind last : Text} {closing : Piece}
    (composes : Composes neighbours InBlock true ahead inner behind)
    (plain : Plain (closing.body ++ [closing.kind.closeMark]))
    (later : Composes neighbours anyTag false true pieces last) :
    Composes neighbours anyTag false ahead
      (inner ++ ⟨behind, closing.kind, closing.body⟩ :: pieces) last := by
  induction composes with
  | last stretch => exact Composes.piece stretch plain trivial later
  | piece gap plain' _ _ ih => exact Composes.piece gap plain' trivial ih

/-- **What is laid out is composed of tags**, the blocks and parents of which are those of the
passages. -/
theorem Laid.exists_pieces {passages : List Passage} {last : Text}
    (laid : Laid neighbours front passages last) :
    ∃ pieces, Composes neighbours anyTag false front pieces last ∧ Outlines pieces passages := by
  induction laid with
  | last stretch => exact ⟨[], Composes.last stretch, rfl, fun _ => rfl, fun _ => rfl⟩
  | @tag front piece passages last gap plain notOpening _ ih =>
    obtain ⟨pieces, composes, outlines⟩ := ih
    exact ⟨piece :: pieces, Composes.piece gap plain trivial composes, outlines.tag notOpening⟩
  | @block front name opening closing body passages last gap plain opens composed noGap plain' closes _
      ih =>
    obtain ⟨pieces, composes, outlines⟩ := ih
    obtain ⟨inner, behind, rfl, composes'⟩ := composed
    exact ⟨_, Composes.piece gap plain trivial (composes'.close plain' composes),
      Outlines.block opens composes' noGap closes outlines⟩

/-! ### Other bodies in the blocks -/

section Refill

variable {passages : List Passage} {last : Text}

/-- The body of a block may stand between any two tags. -/
theorem Laid.composed_of_mem (laid : Laid neighbours front passages last) :
    ∀ entry ∈ bodiesOf passages, Composed neighbours InBlock true true entry.2 := by
  induction laid with
  | last => exact fun entry absent => absurd absent List.not_mem_nil
  | tag _ _ _ _ ih => exact ih
  | block _ _ _ composed _ _ _ _ ih => exact List.forall_mem_cons.mpr ⟨composed, ih⟩

/-- **Other bodies in the blocks** leave the layout as it is. -/
theorem Laid.refill {change : String → Text → Text} (laid : Laid neighbours front passages last)
    (fits : ∀ entry ∈ bodiesOf passages,
      Composed neighbours InBlock true true (change entry.1 entry.2)) :
    Laid neighbours front (passages.map (Passage.refill change)) last := by
  induction laid with
  | last stretch => exact Laid.last stretch
  | tag gap plain notOpening _ ih => exact Laid.tag gap plain notOpening (ih fits)
  | block gap plain opens _ noGap plain' closes _ ih =>
    obtain ⟨head, others⟩ := List.forall_mem_cons.mp fits
    exact Laid.block gap plain opens head noGap plain' closes (ih others)

theorem bodiesOf_refill (change : String → Text → Text) (passages : List Passage) :
    bodiesOf (passages.map (Passage.refill change)) =
      (bodiesOf passages).map fun entry => (entry.1, change entry.1 entry.2) := by
  rw [bodiesOf, List.filterMap_map, bodiesOf, List.map_filterMap]
  refine List.filterMap_congr fun passage _ => ?_
  cases passage <;> rfl

theorem parents_refill (change : String → Text → Text) (passages : List Passage) :
    (passages.map (Passage.refill change)).filterMap Passage.parent? =
      passages.filterMap Passage.parent? := by
  rw [List.filterMap_map]
  refine List.filterMap_congr fun passage _ => ?_
  cases passage <;> rfl

/-- The edits that put other bodies into the blocks of some passages; a block may keep its body. -/
def bodyEdits (edit? : String → Text → Option Text) (here : Position) (passages : List Passage) :
    List Edit :=
  (entriesFrom here passages).filterMap fun entry =>
    (edit? entry.1.info entry.2).map (Edit.mk entry.1.body)

theorem bodyEdits_block {edit? : String → Text → Option Text} {name : String} {opening closing : Piece}
    (noGap : closing.gap = []) (here : Position) (body : Text) (passages : List Passage) :
    bodyEdits edit? here (.block name opening body closing :: passages) =
      ((edit? name body).map (Edit.mk ⟨here.offset + opening.text.byteSize,
        here.offset + (opening.text ++ body).byteSize⟩)).toList ++
          bodyEdits edit? (here.after (opening.text ++ body ++ closing.text)) passages := by
  rw [bodyEdits, entriesFrom]
  rcases edited : edit? name body with _ | new
  · rw [List.filterMap_cons_none (by rw [edited]; rfl)]
    rfl
  · rw [List.filterMap_cons_some (by rw [edited]; rfl)]
    simp [bodyEdits, Enclosure.body, Piece.tag, Position.after_offset, noGap]

/-- **Putting bodies into blocks is one pass over the text.** A block that keeps its body needs no
edit. -/
theorem Laid.splices_refill (laid : Laid neighbours front passages last)
    (change : String → Text → Text) (edit? : String → Text → Option Text)
    (same : ∀ entry ∈ bodiesOf passages,
      (edit? entry.1 entry.2).getD entry.2 = change entry.1 entry.2) (here : Position) :
    Splices here.offset (layoutText passages ++ last) (bodyEdits edit? here passages)
      (layoutText (passages.map (Passage.refill change)) ++ last) := by
  induction laid generalizing here with
  | last => exact Splices.keep _ _
  | @tag front piece passages last _ _ _ _ ih =>
    have later := ih same (here.after piece.text)
    rw [Position.after_offset] at later
    rw [layoutText_cons, List.append_assoc, List.map_cons, layoutText_cons, List.append_assoc]
    exact later.lengthen
  | @block front name opening closing body passages last _ _ _ _ noGap _ _ _ ih =>
    obtain ⟨head, others⟩ := List.forall_mem_cons.mp same
    have head : (edit? name body).getD body = change name body := head
    have later := ih others (here.after (opening.text ++ body ++ closing.text))
    rw [Position.after_offset, Text.byteSize_append, ← Nat.add_assoc] at later
    have behind := later.lengthen
    rw [bodyEdits_block noGap, List.map_cons, layoutText_cons, layoutText_cons, Passage.refill, ← head]
    simp only [Passage.text, List.append_assoc] at behind ⊢
    rcases edited : edit? name body with _ | new
    · rw [Text.byteSize_append, ← Nat.add_assoc] at behind
      exact behind.lengthen.lengthen
    · have further : ∀ edit ∈ bodyEdits edit? (here.after (opening.text ++ (body ++ closing.text)))
          passages, here.offset + opening.text.byteSize < edit.span.start := by
        intro edit member
        have start := later.offset_le_start edit (by rwa [List.append_assoc])
        rw [Piece.byteSize_text, Text.byteSize_append] at start
        omega
      have whole := Splices.replace opening.text body new further behind
      rw [List.append_assoc, List.append_assoc] at whole
      exact whole

/-- The body of a block is what stands between its tags. -/
theorem Laid.body_of_entry (laid : Laid neighbours front passages last) (before : Text)
    (here : Position) (atStart : before.byteSize = here.offset) :
    ∀ entry ∈ entriesFrom here passages,
      entry.1.body.of (before ++ (layoutText passages ++ last)) = entry.2 := by
  induction laid generalizing before here with
  | last => exact fun entry absent => absurd absent List.not_mem_nil
  | @tag front piece passages last _ _ _ _ ih =>
    have later := ih (before ++ piece.text) (here.after piece.text)
      (by rw [Text.byteSize_append, atStart, Position.after_offset])
    simpa only [entriesFrom, layoutText_cons, Passage.text, List.append_assoc] using later
  | @block front name opening closing body passages last _ _ _ _ noGap _ _ _ ih =>
    refine List.forall_mem_cons.mpr ⟨?_, ?_⟩
    · have part := Text.slice?_append (before ++ opening.text) body
        (closing.text ++ (layoutText passages ++ last))
      have start : (opening.tag here).stop.offset = (before ++ opening.text).byteSize := by
        rw [Text.byteSize_append, atStart]
        exact Position.after_offset _ _
      have stop : (closing.tag (here.after (opening.text ++ body))).start.offset =
          (before ++ opening.text ++ body).byteSize := by
        simp [Piece.tag, noGap, Position.after_offset, atStart, Nat.add_assoc]
      rw [Enclosure.body, Span.of, start, stop, Text.slice]
      simp only [layoutText_cons, Passage.text, List.append_assoc] at part ⊢
      rw [part]
      rfl
    · have later := ih (before ++ (opening.text ++ body ++ closing.text))
        (here.after (opening.text ++ body ++ closing.text))
        (by rw [Text.byteSize_append, atStart, Position.after_offset])
      simpa only [layoutText_cons, Passage.text, List.append_assoc] using later

/-- The blocks of a layout come one behind the other. -/
theorem entriesFrom_apart (here : Position) (passages : List Passage) :
    (∀ entry ∈ entriesFrom here passages,
      here.offset ≤ entry.1.body.start ∧ entry.1.body.start ≤ entry.1.body.stop) ∧
    (entriesFrom here passages).Pairwise fun a b => a.1.body.stop < b.1.body.start := by
  induction passages generalizing here with
  | nil => exact ⟨fun entry absent => absurd absent List.not_mem_nil, List.Pairwise.nil⟩
  | cons passage passages ih =>
    cases passage with
    | tag piece =>
      obtain ⟨placed, apart⟩ := ih (here.after piece.text)
      refine ⟨fun entry member => ?_, apart⟩
      obtain ⟨start, stop⟩ := placed entry member
      rw [Position.after_offset] at start
      exact ⟨by omega, stop⟩
    | block name opening body closing =>
      obtain ⟨placed, apart⟩ := ih (here.after (opening.text ++ body ++ closing.text))
      have first : (⟨name, opening.tag here, closing.tag (here.after (opening.text ++ body))⟩ :
          Block).body = ⟨here.offset + opening.text.byteSize,
            here.offset + (opening.text ++ body).byteSize + closing.gap.byteSize⟩ := by
        simp only [Enclosure.body, Piece.tag, Position.after_offset]
      refine ⟨List.forall_mem_cons.mpr ⟨?_, fun entry member => ?_⟩,
        List.pairwise_cons.mpr ⟨fun entry member => ?_, apart⟩⟩
      · rw [first, Text.byteSize_append]
        exact ⟨Nat.le_add_right _ _, by show _ + _ ≤ _ + _ + _; omega⟩
      · obtain ⟨start, stop⟩ := placed entry member
        rw [Position.after_offset] at start
        exact ⟨by omega, stop⟩
      · have start := (placed entry member).1
        rw [first]
        rw [Position.after_offset, Text.byteSize_append, Piece.byteSize_text] at start
        show _ + _ + _ < _
        omega

end Refill

end Layout

/-- No body of a layout is inside of another one. -/
theorem bodyEdits_apart (edit? : String → Text → Option Text) (here : Position)
    (passages : List Passage) : (bodyEdits edit? here passages).Pairwise fun a b =>
      ¬ a.span.encloses b.span ∧ ¬ b.span.encloses a.span := by
  obtain ⟨placed, apart⟩ := entriesFrom_apart here passages
  have spans : (entriesFrom here passages).Pairwise fun a b =>
      ¬ a.1.body.encloses b.1.body ∧ ¬ b.1.body.encloses a.1.body := by
    refine apart.imp_of_mem fun {a b} memberA memberB before => ?_
    have ordered := (placed a memberA).2
    have ordered' := (placed b memberB).2
    rw [Span.encloses_iff, Span.encloses_iff]
    omega
  refine List.pairwise_filterMap.mpr (spans.imp fun {a b} related edit made edit' made' => ?_)
  obtain ⟨_, -, rfl⟩ := Option.map_eq_some_iff.mp made
  obtain ⟨_, -, rfl⟩ := Option.map_eq_some_iff.mp made'
  exact related

/-! ### Texts that are laid out -/

/-- The tags of a text, the blocks and parents of which are those of some passages. -/
structure TaggedAs (text : Text) (passages : List Passage) (tags : List Tag) : Prop where
  scanned : scan text = .ok tags
  blocks : pairTags blockRole [] tags = (entriesFrom Position.start passages).map Prod.fst
  parents : tags.filterMap (Tag.reference? "extends") = passages.filterMap Passage.parent?

section Scanned

variable {neighbours : Neighbours} {text last : Text} {passages : List Passage}
  (laid : Laid neighbours false passages last) (joined : text = layoutText passages ++ last)
include laid joined

/-- **What the scanner says of a text that is laid out**: it finds the blocks, or a stray closer; there
is none where the neighbours are loose. -/
theorem Laid.tagged_or_stray : (∃ tags, TaggedAs text passages tags) ∨
    ¬ neighbours.Tight ∧ ∃ there close, scan text = .error ⟨there, .unexpectedClose close⟩ := by
  obtain ⟨pieces, composes, outlines⟩ := laid.exists_pieces
  rw [← outlines.joined] at joined
  rw [joined]
  refine (composes.cut_or_stray Position.start).imp_left fun cut => ?_
  exact ⟨tagsFrom Position.start pieces, cut.scanFrom_eq Position.start,
    outlines.blocks Position.start, outlines.parents Position.start⟩

theorem Laid.taggedAs {tags : List Tag} (scanned : scan text = .ok tags) :
    TaggedAs text passages tags := by
  rcases laid.tagged_or_stray joined with ⟨tags', tagged⟩ | ⟨-, there, close, stray⟩
  · rwa [Except.ok.inj (scanned.symm.trans tagged.scanned)]
  · cases scanned.symm.trans stray

/-- The bodies of a text that is laid out are the parts of it between the tags of its blocks. -/
theorem Laid.bodiesOf_eq {tags : List Tag} (tagged : TaggedAs text passages tags) :
    bodiesOf passages =
      (pairTags blockRole [] tags).map fun block => (block.info, block.body.of text) := by
  rw [tagged.blocks, List.map_map, bodiesOf_eq_map Position.start]
  refine List.map_congr_left fun entry member => ?_
  have body := laid.body_of_entry [] .start rfl entry member
  rw [List.nil_append, ← joined] at body
  rw [← body]
  rfl

end Scanned

/-- **A text laid out in passages**, with blocks of different names. -/
structure LaidOut (neighbours : Neighbours) (text : Text) (passages : List Passage) (last : Text) :
    Prop where
  joined : text = layoutText passages ++ last
  laid : Laid neighbours false passages last
  distinct : ((bodiesOf passages).map Prod.fst).Nodup

section LaidOut

variable {neighbours neighbours' : Neighbours} {text text' last last' : Text}
  {passages passages' : List Passage}

/-- Other bodies in the blocks of a text that is laid out. -/
theorem LaidOut.refill {change : String → Text → Text} (out : LaidOut neighbours text passages last)
    (fits : ∀ entry ∈ bodiesOf passages,
      Composed neighbours InBlock true true (change entry.1 entry.2)) :
    LaidOut neighbours (layoutText (passages.map (Passage.refill change)) ++ last)
      (passages.map (Passage.refill change)) last where
  joined := rfl
  laid := out.laid.refill fits
  distinct := by
    rw [bodiesOf_refill, List.map_map]
    exact out.distinct

theorem LaidOut.blocksOf_eq (out : LaidOut neighbours text passages last) {tags : List Tag}
    (tagged : TaggedAs text passages tags) :
    blocksOf text =
      .ok ((entriesFrom Position.start passages).map fun entry => (entry.1.info, entry.1)) := by
  have distinct : (((entriesFrom Position.start passages).map Prod.fst).map fun block =>
      (block.info, block)).map Prod.fst = (bodiesOf passages).map Prod.fst := by
    rw [bodiesOf_eq_map Position.start, List.map_map, List.map_map, List.map_map]
    rfl
  have whole : blocksOf text = .ok (Bindings.ofList
      ((pairTags blockRole [] tags).map fun block => (block.info, block))) := by
    rw [blocksOf, tagged.scanned]
    rfl
  rw [whole, tagged.blocks, Bindings.ofList_of_nodup (by rw [distinct]; exact out.distinct),
    List.map_map]
  rfl

/-- What takes the place of a body in a merge with a child that has some bodies, if one of them has
its name. -/
def overriding? (bodies : Bindings Text) (name : String) (old : Text) : Option Text :=
  (Bindings.find? name bodies).map (overrideBody old)

/-- What a body becomes in a merge with a child that has some bodies. -/
def overriding (bodies : Bindings Text) (name : String) (old : Text) : Text :=
  ((Bindings.find? name bodies).map (overrideBody old)).getD old

/-- The edits of a merge, before those inside of others are left out. -/
theorem LaidOut.mergeEdits_eq (parent : LaidOut neighbours text passages last) {tags tags' : List Tag}
    (tagged : TaggedAs text passages tags) (child : LaidOut neighbours' text' passages' last')
    (tagged' : TaggedAs text' passages' tags') :
    mergeEdits text text' =
      .ok (outermost Edit.span (bodyEdits (overriding? (bodiesOf passages')) .start passages)) := by
  let blocks := (entriesFrom Position.start passages).map fun entry => (entry.1.info, entry.1)
  let blocks' := (entriesFrom Position.start passages').map fun entry => (entry.1.info, entry.1)
  have bodies' : bodiesOf passages' = blocks'.map fun entry => (entry.1, entry.2.body.of text') := by
    rw [child.laid.bodiesOf_eq child.joined tagged', tagged'.blocks, List.map_map, List.map_map]
    rfl
  have same : blocks.filterMap (fun entry => overrideBlock? text text' blocks' entry.2) =
      bodyEdits (overriding? (bodiesOf passages')) .start passages := by
    rw [bodyEdits, List.filterMap_map]
    refine List.filterMap_congr fun entry member => ?_
    have body := parent.laid.body_of_entry [] .start rfl entry member
    rw [List.nil_append, ← parent.joined] at body
    have found := Bindings.find?_map (fun _ block => block.body.of text') entry.1.info blocks'
    show (Bindings.find? entry.1.info blocks').map _ = (overriding? _ _ _).map _
    rw [overriding?, bodies', found, Option.map_map, Option.map_map, ← body]
    rfl
  rw [mergeEdits, parent.blocksOf_eq tagged, child.blocksOf_eq tagged', ← same]
  rfl

/-- **A merge puts the overriding bodies into the blocks of the parent**, and nothing else changes. -/
theorem LaidOut.mergeBlocks_eq (parent : LaidOut neighbours text passages last) {tags tags' : List Tag}
    (tagged : TaggedAs text passages tags) (child : LaidOut neighbours' text' passages' last')
    (tagged' : TaggedAs text' passages' tags') :
    mergeBlocks text text' =
      .ok (layoutText (passages.map (Passage.refill (overriding (bodiesOf passages')))) ++ last) := by
  have splices := parent.laid.splices_refill (overriding (bodiesOf passages'))
    (overriding? (bodiesOf passages')) (fun _ _ => rfl) Position.start
  rw [mergeBlocks, parent.mergeEdits_eq tagged child tagged']
  show Except.ok (applyEdits text _) = _
  rw [parent.joined, applyEdits_eq_of_splices splices (outermost_perm (bodyEdits_apart _ _ _))]

end LaidOut

end TextTemplate
