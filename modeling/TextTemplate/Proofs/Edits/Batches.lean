/-
**Every batch of edits is sound.**

Four functions make batches of edits: the loops and the branches of a text are replaced, its tags
are replaced by their output, and a child's blocks are put into its parent. What the edits replace
are enclosures of the text, so however the tags are mixed they do not overlap.

* `SoundBatch`: the spans are sound, no edit is skipped, and all other text is kept in order;
* `batches_sound`: **whatever is handed to `applyEdits` is a sound batch** of the text.
-/

import TextTemplate.Inheritance.Block
import TextTemplate.Proofs.Bindings
import TextTemplate.Proofs.Edits.Nesting
import TextTemplate.Proofs.Rendering.Outcome
import TextTemplate.Rendering.Render

namespace TextTemplate

/-- **A sound batch of edits**: the edits begin at different places of the text, do not overlap and
replace slices of it; so none of them is skipped, and what lies between them is kept in order. -/
structure SoundBatch (text : Text) (edits : List Edit) : Prop where
  spans : SoundSpans text (edits.map Edit.span)
  noneSkipped : NoneSkipped text edits
  kept : ∃ ordered, edits.Perm ordered ∧ Splices 0 text ordered (applyEdits text edits)

theorem SoundSpans.batch {text : Text} {edits : List Edit}
    (sound : SoundSpans text (edits.map Edit.span)) : SoundBatch text edits := by
  obtain ⟨ordered, result, same, splices⟩ := exists_splices sound
  refine ⟨sound, noneSkipped_of_splices splices same, ordered, same, ?_⟩
  rw [applyEdits_eq_of_splices splices same]
  exact splices

/-! ### The passes of a rendering -/

namespace Rendering

variable {renderer : Renderer} {text : Text} {before after : RenderState} {edits : List Edit}

/-- The outermost loops of a text are sound spans of it. -/
theorem soundSpans_outermostLoops {all tags : List Tag} (scanned : scan text = .ok all)
    (among : tags.Sublist all) : SoundSpans text ((outermostLoops tags).map Enclosure.span) := by
  obtain ⟨laminar, placed⟩ := pairTags_span_laminar loopRole scanned among
  exact outermost_sound laminar placed

/-- The edits of the outermost loops. -/
theorem soundBatch_loopEdits {repetition : Text → Rendering Text}
    (gives : Gives (loopEdits renderer repetition text) before edits after) :
    SoundBatch text edits := by
  obtain ⟨tags, between, found, made⟩ := gives_bind_iff.mp gives
  obtain ⟨all, scanned, among⟩ := scan_of_gives_statementsOf found
  have spans : edits.map Edit.span = (outermostLoops tags).map Enclosure.span :=
    map_span_of_mapM (fun loop {_ _ _} gives => span_of_gives gives) made
  refine SoundSpans.batch ?_
  rw [spans]
  exact soundSpans_outermostLoops scanned among

/-- The outermost groups of branches of a text are sound spans of it. -/
theorem soundSpans_outermostGroups {all tags : List Tag} (scanned : scan text = .ok all)
    (among : tags.Sublist all) : SoundSpans text ((outermostGroups tags).map BranchGroup.span) := by
  obtain ⟨laminar, placed⟩ := pairTags_span_laminar branchRole scanned among
  have groups : (groupBranches [] tags).map BranchGroup.span =
      (pairTags branchRole [] tags).map Enclosure.span := groupBranches_span rfl
  refine outermost_sound ?_ fun group member => ?_
  · have mapped := List.pairwise_map.mpr laminar
    rw [← groups] at mapped
    exact List.pairwise_map.mp mapped
  · have inside : group.span ∈ (groupBranches [] tags).map BranchGroup.span :=
      List.mem_map_of_mem member
    rw [groups] at inside
    obtain ⟨enclosure, member', same⟩ := List.mem_map.mp inside
    rw [← same]
    exact placed enclosure member'

/-- The edits of the outermost groups of branches. -/
theorem soundBatch_branchEdits {inner : Text → Rendering Text}
    (gives : Gives (branchEdits renderer inner text) before edits after) :
    SoundBatch text edits := by
  obtain ⟨tags, between, found, made⟩ := gives_bind_iff.mp gives
  obtain ⟨all, scanned, among⟩ := scan_of_gives_statementsOf found
  have spans : edits.map Edit.span = (outermostGroups tags).map BranchGroup.span := by
    refine map_span_of_mapM (fun group {_ _ _} gives => ?_) made
    obtain ⟨chosen, between', -, gives⟩ := gives_bind_iff.mp gives
    exact span_of_gives gives
  refine SoundSpans.batch ?_
  rw [spans]
  exact soundSpans_outermostGroups scanned among

/-- The tags of a text are sound spans of it. -/
theorem soundSpans_tags {tags : List Tag} (scanned : scan text = .ok tags) :
    SoundSpans text (tags.map Tag.span) := by
  have pairwise := scan_pairwise scanned
  refine ⟨List.pairwise_map.mpr ?_, List.pairwise_map.mpr ?_, fun span inside => ?_⟩
  · refine pairwise.imp_of_mem fun {a b} memberA _ behind => ?_
    have wide := (scan_places scanned memberA).2.2
    exact Nat.ne_of_lt (Nat.lt_of_lt_of_le wide behind)
  · exact pairwise.imp fun {a b} behind => Or.inl behind
  · obtain ⟨tag, member, rfl⟩ := List.mem_map.mp inside
    exact ⟨tag.text, scan_slice? scanned member⟩

/-- The edits of all tags. -/
theorem soundBatch_outputEdits (gives : Gives (outputEdits renderer text) before edits after) :
    SoundBatch text edits := by
  obtain ⟨tags, between, found, made⟩ := gives_bind_iff.mp gives
  have spans : edits.map Edit.span = tags.map Tag.span :=
    map_span_of_mapM (fun tag {_ _ _} gives => span_of_gives gives) made
  refine SoundSpans.batch ?_
  rw [spans]
  exact soundSpans_tags (gives_tagsOf_iff.mp found).1

end Rendering

/-! ### The blocks of a child in its parent -/

section Merging

variable {text parent child merged : Text} {blocks : Bindings Block} {edits : List Edit}

theorem blocksOf_eq_ok_iff : blocksOf text = .ok blocks ↔ ∃ tags, scan text = .ok tags ∧
    blocks = Bindings.ofList ((pairTags blockRole [] tags).map fun block => (block.info, block)) := by
  unfold blocksOf
  rcases scan text with error | tags
  · constructor
    · rintro ⟨⟩
    · rintro ⟨_, ⟨⟩, _⟩
  · constructor
    · rintro ⟨⟩
      exact ⟨tags, rfl, rfl⟩
    · rintro ⟨_, ⟨⟩, rfl⟩
      rfl

theorem mergeEdits_eq_ok_iff : mergeEdits parent child = .ok edits ↔
    ∃ blocks blocks', blocksOf parent = .ok blocks ∧ blocksOf child = .ok blocks' ∧
      edits = outermost Edit.span
        (blocks.filterMap fun (_, block) => overrideBlock? parent child blocks' block) := by
  unfold mergeEdits
  rcases blocksOf parent with error | blocks
  · constructor
    · rintro ⟨⟩
    · rintro ⟨_, _, ⟨⟩, _⟩
  rcases blocksOf child with error | blocks'
  · constructor
    · rintro ⟨⟩
    · rintro ⟨_, _, _, ⟨⟩, _⟩
  constructor
  · rintro ⟨⟩
    exact ⟨blocks, blocks', rfl, rfl, rfl⟩
  · rintro ⟨_, _, ⟨⟩, ⟨⟩, rfl⟩
    rfl

theorem mergeBlocks_eq_ok_iff : mergeBlocks parent child = .ok merged ↔
    ∃ edits, mergeEdits parent child = .ok edits ∧ merged = applyEdits parent edits := by
  unfold mergeBlocks
  rcases mergeEdits parent child with error | edits
  · constructor
    · rintro ⟨⟩
    · rintro ⟨_, ⟨⟩, _⟩
  · constructor
    · rintro ⟨⟩
      exact ⟨edits, rfl, rfl⟩
    · rintro ⟨_, ⟨⟩, rfl⟩
      rfl

end Merging

/-- **The bodies of the blocks of a text do not cross** and are slices of it, whichever of several
blocks with one name counts. -/
theorem blocksOf_laminar {text : Text} {blocks : Bindings Block} (found : blocksOf text = .ok blocks) :
    blocks.Pairwise (fun a b => a.2.body.Laminar b.2.body) ∧
      ∀ entry ∈ blocks, ∃ part, text.slice? entry.2.body.start entry.2.body.stop = some part := by
  obtain ⟨tags, scanned, rfl⟩ := blocksOf_eq_ok_iff.mp found
  obtain ⟨laminar, placed⟩ :=
    pairTags_body_laminar blockRole scanned (List.Sublist.refl tags)
  have listed : ((pairTags blockRole [] tags).map fun block => (block.info, block)).Pairwise
      fun a b => a.2.body.Laminar b.2.body := List.pairwise_map.mpr laminar
  refine ⟨Bindings.pairwise_ofList (fun a b : Block => a.body.Laminar b.body)
    Span.Laminar.symm listed, fun entry member => ?_⟩
  obtain ⟨name, listed⟩ := Bindings.mem_of_mem_ofList member
  obtain ⟨block, member, same⟩ := List.mem_map.mp listed
  cases same
  exact placed _ member

theorem span_of_overrideBlock? {parent child : Text} {blocks : Bindings Block} {block : Block}
    {edit : Edit} (overrides : overrideBlock? parent child blocks block = some edit) :
    edit.span = block.body := by
  obtain ⟨override, -, rfl⟩ := Option.map_eq_some_iff.mp overrides
  rfl

/-- The edits that put a child's blocks into its parent. -/
theorem soundBatch_mergeEdits {parent child : Text} {edits : List Edit}
    (made : mergeEdits parent child = .ok edits) : SoundBatch parent edits := by
  obtain ⟨blocks, blocks', found, -, rfl⟩ := mergeEdits_eq_ok_iff.mp made
  obtain ⟨laminar, placed⟩ := blocksOf_laminar found
  refine SoundSpans.batch (outermost_sound ?_ fun edit member => ?_)
  · refine List.pairwise_filterMap.mpr (laminar.imp fun {a b} related edit here edit' here' => ?_)
    rw [span_of_overrideBlock? here, span_of_overrideBlock? here']
    exact related
  · obtain ⟨entry, listed, here⟩ := List.mem_filterMap.mp member
    rw [span_of_overrideBlock? here]
    exact placed entry listed

/-! ### All batches -/

/-- A pass over a text whose result is the text with a sound batch of edits made in it. -/
def Rendering.MakesBatch (pass : Rendering Text) (batch : Rendering (List Edit)) (text : Text) :
    Prop :=
  ∀ before result after, Gives pass before result after →
    ∃ edits, Gives batch before edits after ∧ SoundBatch text edits ∧
      result = applyEdits text edits

theorem Rendering.makesBatch_of_sound {batch : Rendering (List Edit)} {text : Text}
    (sound : ∀ {before edits after}, Gives batch before edits after → SoundBatch text edits) :
    MakesBatch (do return applyEdits text (← batch)) batch text := by
  intro before result after gives
  obtain ⟨edits, between, made, returned⟩ := gives_bind_iff.mp gives
  obtain ⟨rfl, rfl⟩ := gives_pure_iff.mp returned
  exact ⟨edits, made, sound made, rfl⟩

/-- **Whatever is handed to `applyEdits` is a sound batch**, in whatever state and whatever the
tags are: when the loops of a text are expanded, at every depth of its branches, when its tags are
replaced by their output, and when a child is merged into a parent. -/
theorem batches_sound (renderer : Renderer) :
    (∀ repetition text,
      Rendering.MakesBatch (Rendering.expandLoops renderer repetition text)
        (Rendering.loopEdits renderer repetition text) text) ∧
    (∀ depth text,
      Rendering.MakesBatch (Rendering.branchLoop renderer (depth + 1) text)
        (Rendering.branchEdits renderer (Rendering.branchLoop renderer depth) text) text) ∧
    (∀ text,
      Rendering.MakesBatch (Rendering.substitute renderer text)
        (Rendering.outputEdits renderer text) text) ∧
    ∀ parent child merged, mergeBlocks parent child = .ok merged →
      ∃ edits, mergeEdits parent child = .ok edits ∧ SoundBatch parent edits ∧
        merged = applyEdits parent edits := by
  refine ⟨fun repetition text => ?_, fun depth text => ?_, fun text => ?_,
    fun parent child merged ok => ?_⟩
  · exact Rendering.makesBatch_of_sound Rendering.soundBatch_loopEdits
  · exact Rendering.makesBatch_of_sound Rendering.soundBatch_branchEdits
  · exact Rendering.makesBatch_of_sound Rendering.soundBatch_outputEdits
  · unfold mergeBlocks at ok
    rcases made : mergeEdits parent child with error | edits
    · rw [made] at ok
      cases ok
    · rw [made] at ok
      cases ok
      exact ⟨edits, rfl, soundBatch_mergeEdits made, rfl⟩

/-- A parent whose outer block is never closed: the one edit of the inner block is a sound batch. -/
theorem batch_of_unclosed_block :
    let parent := "\x7b% block a %\x7d\x7b% block b %\x7dx\x7b% endblock %\x7d".toList
    let child := "\x7b% block b %\x7dy\x7b% endblock %\x7d".toList
    ∃ edits, mergeEdits parent child = .ok edits ∧ SoundBatch parent edits ∧
      "\x7b% block a %\x7d\x7b% block b %\x7dy\x7b% endblock %\x7d".toList =
        applyEdits parent edits :=
  (batches_sound ⟨fun _ _ => .ok .null, []⟩).2.2.2 _ _ _ (by decide +kernel)

end TextTemplate
