/-
**The blocks of a text.**

Which blocks a text has is told by how its tags match like brackets: a name stands for the pair that is
closed last among those that it names, at the place of the one that is closed first.

* `Enclosure.Surrounds`: the body of an enclosure is all that stands between its two tags;
* `FirstClosed`: of the blocks of a name the one that is closed first;
* `blocksOf_matched`: **the blocks of a text that can be scanned are its matched pairs of tags.**
-/

import TextTemplate.Proofs.Inheritance.Merging

namespace TextTemplate

/-! ### The parts of a text -/

/-- **The body of an enclosure is the text between its two tags**, each of which stands at its place. -/
def Enclosure.Surrounds {α : Type} (enclosure : Enclosure α) (text : Text) : Prop :=
  ∃ before behind, text = before ++ (enclosure.opening.text ++
      (enclosure.body.of text ++ (enclosure.closing.text ++ behind))) ∧
    before.byteSize = enclosure.opening.start.offset

/-- The pairs of tags of a text stand around their bodies. -/
theorem surrounds_of_mem_pairTags {α : Type} {role : Tag → Role α} {text : Text} {tags : List Tag}
    (scanned : scan text = .ok tags) {enclosure : Enclosure α}
    (member : enclosure ∈ pairTags role [] tags) : enclosure.Surrounds text := by
  obtain ⟨-, proper⟩ := pairTags_proper role scanned (List.Sublist.refl tags)
  obtain ⟨⟨-, ordered, -⟩, opening, closing⟩ := proper enclosure member
  obtain ⟨before, rest, first, start, stop⟩ :=
    Text.slice?_eq_some_iff.mp (scan_slice? scanned opening)
  obtain ⟨front, behind, second, start', -⟩ :=
    Text.slice?_eq_some_iff.mp (scan_slice? scanned closing)
  -- the first tag ends before the second one begins
  have same : (before ++ enclosure.opening.text) ++ rest =
      front ++ (enclosure.closing.text ++ behind) := by
    rw [← first, second, List.append_assoc]
  have shorter : (before ++ enclosure.opening.text).byteSize ≤ front.byteSize := by
    rw [stop, start']
    exact ordered
  obtain ⟨between, rfl, rfl⟩ := Text.exists_append_of_byteSize_le same shorter
  have whole : text = (before ++ enclosure.opening.text) ++ between ++
      (enclosure.closing.text ++ behind) := by
    rw [first, ← List.append_assoc]
  have body : enclosure.body.of text = between := by
    have found : text.slice? enclosure.body.start enclosure.body.stop = some between :=
      Text.slice?_eq_some_iff.mpr ⟨_, _, whole, stop, start'⟩
    rw [Span.of, Text.slice, found, Option.getD_some]
  exact ⟨before, behind, by rw [body, whole]; simp, start⟩

/-! ### The blocks -/

/-- **The block that is closed first** of those of its name. -/
structure FirstClosed (tags : List Tag) (block : Block) : Prop where
  matched : Matched blockRole tags block
  first : ∀ other, Matched blockRole tags other → other.info = block.info →
    block.closing.stop.offset ≤ other.closing.stop.offset

/-- **The bindings of a text's blocks**, as its tags match like brackets. -/
structure MatchedBlocks (text : Text) (tags : List Tag) (blocks : Bindings Block) : Prop where
  /-- A name stands once, for the pair of tags that is closed last among those that it names. -/
  recorded : (blocks.map Prod.fst).Nodup ∧
    ∀ name block, (name, block) ∈ blocks ↔ block.info = name ∧ Recorded tags block
  /-- The body of a block is the text between its two tags. -/
  surrounds : ∀ entry ∈ blocks, entry.2.Surrounds text
  /-- The bodies lie apart or one within the other. -/
  laminar : blocks.Pairwise fun a b => a.2.body.Laminar b.2.body
  /-- A tag that matches no other one belongs to no block. -/
  unmatched : ∀ tag, (∀ block, Matched blockRole tags block → block.opening ≠ tag ∧
    block.closing ≠ tag) → ∀ entry ∈ blocks, entry.2.opening ≠ tag ∧ entry.2.closing ≠ tag
  /-- The names stand in the order in which a pair of each was closed first. -/
  order : ∃ firsts : List Block, blocks.map Prod.fst = firsts.map Enclosure.info ∧
    (∀ block ∈ firsts, FirstClosed tags block) ∧
    firsts.Pairwise fun a b => a.closing.stop.offset ≤ b.closing.start.offset

section Blocks

variable {text : Text} {tags : List Tag} (scanned : scan text = .ok tags)

include scanned

/-- The names of the blocks stand in the order in which a pair of each was closed first. -/
theorem exists_firstClosed :
    ∃ firsts : List Block,
      (Bindings.ofList ((pairTags blockRole [] tags).map fun block => (block.info, block))).map
        Prod.fst = firsts.map Enclosure.info ∧
      (∀ block ∈ firsts, FirstClosed tags block) ∧
      firsts.Pairwise fun a b => a.closing.stop.offset ≤ b.closing.start.offset := by
  obtain ⟨pairs, among, names, -, each⟩ := Bindings.exists_firsts
    ((pairTags blockRole [] tags).map fun block => (block.info, block))
  obtain ⟨firsts, among', rfl⟩ := List.sublist_map_iff.mp among
  obtain ⟨closed, -⟩ := pairTags_proper blockRole scanned (List.Sublist.refl tags)
  refine ⟨firsts, by rw [names, List.map_map]; rfl, fun block member => ?_,
    (closed.sublist among').imp fun before => before.closing⟩
  obtain ⟨before, after, joined, different⟩ := each _ (List.mem_map_of_mem member)
  obtain ⟨earlier, rest, split, rfl, joined'⟩ := List.map_eq_append_iff.mp joined
  obtain ⟨_, later, rfl, same, rfl⟩ := List.map_eq_cons_iff.mp joined'
  obtain rfl := (Prod.mk.inj same).2
  obtain ⟨-, behind⟩ := closing_stop_le_of_pairTags scanned split
  refine ⟨mem_pairTags_iff.mp (by simp [split]), fun other matched named => ?_⟩
  have listed := mem_pairTags_iff.mpr matched
  rw [split, List.mem_append, List.mem_cons] at listed
  rcases listed with inFront | rfl | further
  · exact absurd named (different _ (List.mem_map_of_mem inFront))
  · exact Nat.le_refl _
  · exact Nat.le_of_lt (behind other further)

/-- **The blocks of a text that can be scanned are its matched pairs of tags**: of the pairs of a name
the last one, at the place of the first one. -/
theorem blocksOf_matched : ∃ blocks, blocksOf text = .ok blocks ∧ MatchedBlocks text tags blocks := by
  refine ⟨Bindings.ofList ((pairTags blockRole [] tags).map fun block => (block.info, block)), ?_, ?_⟩
  · unfold blocksOf
    rw [scanned]
    rfl
  have matched : ∀ entry ∈ Bindings.ofList
      ((pairTags blockRole [] tags).map fun block => (block.info, block)),
      Matched blockRole tags entry.2 :=
    fun entry member => ((mem_blocks_iff scanned).mp member).2.matched
  refine ⟨⟨Bindings.nodup_ofList _, fun name block => mem_blocks_iff scanned⟩,
    fun entry member => ?_, ?_, fun tag alone entry member => alone _ (matched entry member),
    exists_firstClosed scanned⟩
  · exact surrounds_of_mem_pairTags scanned (mem_pairTags_iff.mpr (matched entry member))
  · refine Bindings.pairwise_ofList (fun a b : Block => a.body.Laminar b.body) Span.Laminar.symm ?_
    exact List.pairwise_map.mpr
      (pairTags_body_laminar blockRole scanned (List.Sublist.refl tags)).1

end Blocks

/-- A closer and an opener too many, a block within another one, and a name that is closed twice: it
keeps the place of the first pair, and has the body of the second one. -/
theorem blocksOf_of_unmatched_tags :
    let text := ("\x7b% endblock %\x7d\x7b% block a %\x7d1\x7b% block b %\x7d2\x7b% endblock %\x7d" ++
      "\x7b% endblock %\x7d\x7b% block c %\x7d3\x7b% endblock %\x7d\x7b% block a %\x7d4" ++
      "\x7b% endblock %\x7d\x7b% block d %\x7d").toList
    ∃ tags blocks, scan text = .ok tags ∧ blocksOf text = .ok blocks ∧
      blocks.map (fun entry => (entry.1, entry.2.body.of text)) =
        [("b", ['2']), ("a", ['4']), ("c", ['3'])] ∧
      MatchedBlocks text tags blocks := by
  intro text
  have scanned : scan text = .ok ((scan text).toOption.getD []) := by decide +kernel
  obtain ⟨blocks, found, matched⟩ := blocksOf_matched scanned
  have bodies : (blocksOf text).toOption.map (List.map fun entry => (entry.1, entry.2.body.of text)) =
      some [("b", ['2']), ("a", ['4']), ("c", ['3'])] := by decide +kernel
  rw [found] at bodies
  exact ⟨_, blocks, scanned, found, Option.some.inj bodies, matched⟩

end TextTemplate
