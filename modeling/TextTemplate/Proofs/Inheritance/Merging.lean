/-
**What merging a child into its parent gives.**

The result is the parent with some of the bodies of its blocks replaced. Which ones, and by what, is
said here by the tags and the characters of the two texts alone, without the stacks, the bindings and
the matcher that find them.

* `IsSuperCall`, `CallsReplaced`: calls of `super()`, and a body with another text in their places;
* `overrideBody_eq_iff`: **an override has the replaced body in the place of its leftmost calls**;
* `Recorded`: of the blocks of a name the one that is closed last;
* `find?_blocks_iff`: **the blocks of a text are the recorded ones**;
* `Overrides`, `OutermostEdit`: the replacement of the body of a block that no other replaced body
  encloses;
* `mergeBlocks_exact`: **merging makes these replacements and nothing else.**
-/

import TextTemplate.Proofs.Bindings
import TextTemplate.Proofs.Inheritance.Lineage
import TextTemplate.Proofs.Inheritance.References
import TextTemplate.Proofs.Tags.Matching

namespace TextTemplate

/-! ### Calls of `super()` -/

/-- **A call of `super()`** between double braces, with blanks around it. -/
def IsSuperCall (call : Text) : Prop :=
  ∃ blanks blanks' : Text, blanks.all Text.isBlank = true ∧ blanks'.all Text.isBlank = true ∧
    call = ['{', '{'] ++ (blanks ++ (superCall ++ (blanks' ++ ['}', '}'])))

/-- **A text with another one in the place of its calls**: each time the call that begins leftmost
gives way, and the search goes on behind it. -/
inductive CallsReplaced (new : Text) : Text → Text → Prop
  | none {text : Text} :
    (∀ before call after, text = before ++ (call ++ after) → ¬ IsSuperCall call) →
      CallsReplaced new text text
  | call {before call rest result : Text} :
    IsSuperCall call →
      (∀ before' call' after', before ++ (call ++ rest) = before' ++ (call' ++ after') →
        IsSuperCall call' → before.length ≤ before'.length) →
        CallsReplaced new rest result →
          CallsReplaced new (before ++ (call ++ rest)) (before ++ (new ++ result))

/-- Blanks in front of a visible character are passed. -/
theorem passBlankThen?_blanks {blanks part rest : Text} {c : Char}
    (blank : blanks.all Text.isBlank = true) (visible : Text.isBlank c = false) :
    passBlankThen? (c :: part) (blanks ++ (c :: part ++ rest)) = some rest := by
  have passed : Text.trimStart (blanks ++ (c :: part ++ rest)) = c :: part ++ rest := by
    rw [List.cons_append, Text.trimStart_append_cons visible]
    have nothing : Text.trimStart blanks = [] :=
      List.dropWhile_eq_nil_iff.mpr (List.all_eq_true.mp blank)
    rw [nothing, List.nil_append]
  rw [passBlankThen?, passed, Text.dropPrefix?_eq_some_iff]

/-- What a matcher takes is the part of the text in front of the rest. -/
theorem Text.take_length_sub (front rest : Text) :
    (front ++ rest).take ((front ++ rest).length - rest.length) = front := by
  rw [List.length_append, Nat.add_sub_cancel]
  exact List.take_left' rfl

/-- **The matcher finds the call at the front of a text**, if there is one. -/
theorem superMatcher_eq_some_iff {text call rest : Text} :
    superMatcher text = some (call, rest) ↔ text = call ++ rest ∧ IsSuperCall call := by
  constructor
  · intro found
    obtain ⟨rest', passed, same⟩ := Option.map_eq_some_iff.mp found
    obtain ⟨inside, opener, passed⟩ := Option.bind_eq_some_iff.mp passed
    obtain ⟨behind, named, closer⟩ := Option.bind_eq_some_iff.mp passed
    obtain ⟨taken, rfl⟩ := Prod.mk.inj same
    obtain ⟨blanks, blank, rfl⟩ := exists_of_passBlankThen? named
    obtain ⟨blanks', blank', rfl⟩ := exists_of_passBlankThen? closer
    rw [Text.dropPrefix?_eq_some_iff] at opener
    have joined : text =
        (['{', '{'] ++ (blanks ++ (superCall ++ (blanks' ++ ['}', '}'])))) ++ rest' := by
      rw [opener]
      simp [superCall]
    rw [joined, Text.take_length_sub] at taken
    subst taken
    exact ⟨joined, blanks, blanks', blank, blank', rfl⟩
  · rintro ⟨rfl, blanks, blanks', blank, blank', rfl⟩
    have joined : ['{', '{'] ++ (blanks ++ (superCall ++ (blanks' ++ ['}', '}']))) ++ rest =
        ['{', '{'] ++ (blanks ++ (superCall ++ (blanks' ++ (['}', '}'] ++ rest)))) := by
      simp only [List.append_assoc]
    refine Option.map_eq_some_iff.mpr ⟨rest, ?_, ?_⟩
    · refine Option.bind_eq_some_iff.mpr ⟨_, Text.dropPrefix?_eq_some_iff.mpr joined, ?_⟩
      refine Option.bind_eq_some_iff.mpr ⟨_, passBlankThen?_blanks blank (by decide), ?_⟩
      exact passBlankThen?_blanks blank' (by decide)
    · rw [Text.take_length_sub]

theorem IsSuperCall.ne_nil {call : Text} (calls : IsSuperCall call) : call ≠ [] := by
  obtain ⟨blanks, blanks', -, -, rfl⟩ := calls
  exact List.cons_ne_nil _ _

/-- **The matcher finds the calls of a text.** -/
theorem finds_superMatcher : Text.Matcher.Finds superMatcher IsSuperCall :=
  .of_iff (fun _ calls => calls.ne_nil) fun _ _ _ => superMatcher_eq_some_iff

section CallsReplaced

variable {new body result : Text}

/-- The calls that give way are those that a search takes. -/
theorem callsReplaced_iff :
    CallsReplaced new body result ↔ ∃ found last, Text.MatchesIn IsSuperCall body found last ∧
      result = Text.withReplaced (fun _ => new) found last := by
  constructor
  · intro replaced
    induction replaced with
    | none free => exact ⟨[], _, .none free, rfl⟩
    | @call before call rest result calls leftmost _ ih =>
      obtain ⟨found, last, parts, rfl⟩ := ih
      have matched : superMatcher (call ++ rest) = some (call, rest) :=
        superMatcher_eq_some_iff.mpr ⟨rfl, calls⟩
      have longest := (finds_superMatcher.taken _ _ _ matched).2.2
      exact ⟨_, last, .next ⟨calls, leftmost, longest⟩ parts, by rw [Text.withReplaced_cons]⟩
  · rintro ⟨found, last, parts, rfl⟩
    induction parts with
    | none free => exact .none free
    | next foremost _ ih =>
      rw [Text.withReplaced_cons]
      exact .call foremost.isPart foremost.leftmost ih

/-- The calls of any text can be replaced. -/
theorem exists_callsReplaced (new body : Text) : ∃ result, CallsReplaced new body result := by
  obtain ⟨found, last, parts⟩ := finds_superMatcher.exists_matchesIn body
  exact ⟨_, callsReplaced_iff.mpr ⟨found, last, parts, rfl⟩⟩

/-- **An override has the replaced body in the place of its leftmost calls.** -/
theorem overrideBody_eq_iff : overrideBody new body = result ↔ CallsReplaced new body result := by
  have replaced {result : Text} (calls : CallsReplaced new body result) :
      overrideBody new body = result := by
    obtain ⟨found, last, parts, rfl⟩ := callsReplaced_iff.mp calls
    exact finds_superMatcher.replaceMatches_eq parts
  refine ⟨?_, replaced⟩
  rintro rfl
  obtain ⟨result, calls⟩ := exists_callsReplaced new body
  rw [replaced calls]
  exact calls

end CallsReplaced

/-! ### The blocks that are recorded -/

/-- **A recorded block** of a text: of the blocks of its name the one that is closed last. -/
structure Recorded (tags : List Tag) (block : Block) : Prop where
  matched : Matched blockRole tags block
  last : ∀ other, Matched blockRole tags other → other.info = block.info →
    other.closing.stop.offset ≤ block.closing.stop.offset

/-- The pairs of a text that are closed before a block, and those that are closed behind it. -/
theorem closing_stop_le_of_pairTags {α : Type} {role : Tag → Role α} {text : Text} {tags : List Tag}
    (scanned : scan text = .ok tags) {before behind : List (Enclosure α)} {enclosure : Enclosure α}
    (joined : pairTags role [] tags = before ++ enclosure :: behind) :
    (∀ earlier ∈ before, earlier.closing.stop.offset ≤ enclosure.closing.stop.offset) ∧
      ∀ later ∈ behind, enclosure.closing.stop.offset < later.closing.stop.offset := by
  obtain ⟨closed, proper⟩ := pairTags_proper role scanned (List.Sublist.refl tags)
  rw [joined] at closed proper
  obtain ⟨-, closed', between⟩ := List.pairwise_append.mp closed
  refine ⟨fun earlier member => ?_, fun later member => ?_⟩
  · have first := (between earlier member enclosure List.mem_cons_self).closing
    have wide := (proper enclosure (by simp)).1.closing
    omega
  · have second := ((List.pairwise_cons.mp closed').1 later member).closing
    have wide := (proper later (by simp [member])).1.closing
    omega

/-- **The blocks of a text are the recorded ones**, each under its name. -/
theorem find?_blocks_iff {text : Text} {tags : List Tag} (scanned : scan text = .ok tags)
    {name : String} {block : Block} :
    Bindings.find? name (Bindings.ofList
        ((pairTags blockRole [] tags).map fun block => (block.info, block))) = some block ↔
      block.info = name ∧ Recorded tags block := by
  rw [Bindings.find?_ofList_eq_some_iff]
  constructor
  · rintro ⟨before, after, joined, different⟩
    obtain ⟨ahead, _, split, rfl, joined'⟩ := List.map_eq_append_iff.mp joined
    obtain ⟨_, behind, rfl, same, rfl⟩ := List.map_eq_cons_iff.mp joined'
    cases same
    obtain ⟨earlier, -⟩ := closing_stop_le_of_pairTags scanned split
    refine ⟨rfl, mem_pairTags_iff.mp (by simp [split]), fun other matched named => ?_⟩
    have listed := mem_pairTags_iff.mpr matched
    rw [split, List.mem_append, List.mem_cons] at listed
    rcases listed with inFront | rfl | later
    · exact earlier other inFront
    · exact Nat.le_refl _
    · exact absurd named (different _ (List.mem_map_of_mem later))
  · rintro ⟨rfl, matched, last⟩
    obtain ⟨ahead, behind, split⟩ := List.append_of_mem (mem_pairTags_iff.mpr matched)
    obtain ⟨-, later⟩ := closing_stop_le_of_pairTags scanned split
    refine ⟨_, _, by rw [split, List.map_append, List.map_cons], fun pair member named => ?_⟩
    obtain ⟨other, member', rfl⟩ := List.mem_map.mp member
    have matched' : Matched blockRole tags other := mem_pairTags_iff.mp (by simp [split, member'])
    exact absurd (last other matched' named) (Nat.not_le.mpr (later other member'))

/-! ### Merging -/

/-- **A block that is overridden**: a recorded block of the parent, and the recorded block of the child
that has its name. -/
structure Overrides (parentTags childTags : List Tag) (block override : Block) : Prop where
  recorded : Recorded parentTags block
  recorded' : Recorded childTags override
  named : override.info = block.info

/-- **The replacement of the body of an overridden block** that the body of no other one encloses: the
body of the child's block, with the original body in the place of its calls of `super()`. -/
def OutermostEdit (parent child : Text) (parentTags childTags : List Tag) (edit : Edit) : Prop :=
  ∃ block override, Overrides parentTags childTags block override ∧
    (∀ other override', Overrides parentTags childTags other override' → other ≠ block →
      ¬ other.body.encloses block.body) ∧
    edit.span = block.body ∧
    CallsReplaced (block.body.of parent) (override.body.of child) edit.replacement

section Merging

variable {parent child : Text} {parentTags childTags : List Tag}

/-- The entries of the blocks of a text are the recorded blocks, each under its name. -/
theorem mem_blocks_iff (scanned : scan parent = .ok parentTags) {name : String} {block : Block} :
    (name, block) ∈ Bindings.ofList
        ((pairTags blockRole [] parentTags).map fun block => (block.info, block)) ↔
      block.info = name ∧ Recorded parentTags block := by
  rw [← find?_blocks_iff scanned]
  exact ⟨Bindings.find?_eq_some_of_mem (Bindings.nodup_ofList _), Bindings.entry_mem_of_find?⟩

/-- Two overridden blocks of a parent have different bodies. -/
theorem Overrides.body_ne (scanned : scan parent = .ok parentTags)
    {block block' override override' : Block}
    (overrides : Overrides parentTags childTags block override)
    (overrides' : Overrides parentTags childTags block' override') (different : block' ≠ block) :
    block'.body ≠ block.body := by
  obtain ⟨laminar, -⟩ := pairTags_body_laminar blockRole scanned (List.Sublist.refl parentTags)
  have symmetric : Std.Symm fun a b : Block => a.body.Laminar b.body := ⟨fun _ _ => Span.Laminar.symm⟩
  have related := laminar.forall (mem_pairTags_iff.mpr overrides'.recorded.matched)
    (mem_pairTags_iff.mpr overrides.recorded.matched) different
  exact fun same => related.distinct (congrArg Span.start same)

/-- The edits that are made of the blocks of two texts, before the outermost ones are chosen. -/
theorem mem_overridingEdits_iff (scanned : scan parent = .ok parentTags)
    (scanned' : scan child = .ok childTags) {edit : Edit} :
    edit ∈ (Bindings.ofList ((pairTags blockRole [] parentTags).map
        fun block => (block.info, block))).filterMap (fun entry => overrideBlock? parent child
          (Bindings.ofList ((pairTags blockRole [] childTags).map fun block => (block.info, block)))
          entry.2) ↔
      ∃ block override, Overrides parentTags childTags block override ∧ edit.span = block.body ∧
        CallsReplaced (block.body.of parent) (override.body.of child) edit.replacement := by
  rw [List.mem_filterMap]
  constructor
  · rintro ⟨⟨name, block⟩, member, made⟩
    obtain ⟨-, recorded⟩ := (mem_blocks_iff scanned).mp member
    obtain ⟨override, found, rfl⟩ := Option.map_eq_some_iff.mp made
    obtain ⟨named, recorded'⟩ := (find?_blocks_iff scanned').mp found
    exact ⟨block, override, ⟨recorded, recorded', named⟩, rfl, overrideBody_eq_iff.mp rfl⟩
  · rintro ⟨block, override, ⟨recorded, recorded', named⟩, span, replaced⟩
    refine ⟨(block.info, block), (mem_blocks_iff scanned).mpr ⟨rfl, recorded⟩, ?_⟩
    have found := (find?_blocks_iff scanned').mpr ⟨named, recorded'⟩
    refine Option.map_eq_some_iff.mpr ⟨override, found, ?_⟩
    rw [overrideBody_eq_iff.mpr replaced, ← span]

/-- **Merging is exact.** The result is the parent in which the outermost overridden blocks have their
new bodies; all else of the parent is kept in order, and nothing else of the child appears. -/
theorem mergeBlocks_exact (scanned : scan parent = .ok parentTags)
    (scanned' : scan child = .ok childTags) :
    ∃ merged edits, mergeBlocks parent child = .ok merged ∧ Splices 0 parent edits merged ∧
      ∀ edit, edit ∈ edits ↔ OutermostEdit parent child parentTags childTags edit := by
  obtain ⟨batch, made, listed⟩ : ∃ batch, mergeEdits parent child = .ok batch ∧
      batch = outermost Edit.span _ := by
    unfold mergeEdits blocksOf
    rw [scanned, scanned']
    exact ⟨_, rfl, rfl⟩
  obtain ⟨ordered, same, splices⟩ := (soundBatch_mergeEdits made).kept
  have merged : mergeBlocks parent child = .ok (applyEdits parent batch) := by
    unfold mergeBlocks
    rw [made]
    rfl
  refine ⟨_, ordered, merged, splices, fun edit => ?_⟩
  rw [← same.mem_iff, listed, mem_outermost]
  constructor
  · rintro ⟨member, alone⟩
    obtain ⟨block, override, overrides, span, replaced⟩ :=
      (mem_overridingEdits_iff scanned scanned').mp member
    refine ⟨block, override, overrides, ?_, span, replaced⟩
    intro other override' overrides' different
    rw [← span]
    obtain ⟨replacement, replaced'⟩ :=
      exists_callsReplaced (other.body.of parent) (override'.body.of child)
    refine alone ⟨other.body, replacement⟩ ((mem_overridingEdits_iff scanned scanned').mpr
      ⟨other, override', overrides', rfl, replaced'⟩) ?_
    rw [span]
    exact overrides.body_ne scanned overrides' different
  · rintro ⟨block, override, overrides, alone, span, replaced⟩
    refine ⟨(mem_overridingEdits_iff scanned scanned').mpr
      ⟨block, override, overrides, span, replaced⟩, fun other member different => ?_⟩
    obtain ⟨block', override', overrides', span', -⟩ :=
      (mem_overridingEdits_iff scanned scanned').mp member
    rw [span, span'] at different
    rw [span, span']
    refine alone block' override' overrides' ?_
    rintro rfl
    exact different rfl

end Merging

/-- A parent that has a block twice, the second time around another one, and an `endblock` too many.
The second one is overridden, with the inner one in the bodies that take the places of the calls. -/
theorem mergeBlocks_of_repeated_block :
    let parent := ("\x7b% block a %\x7d0\x7b% endblock %\x7d|\x7b% block a %\x7d1" ++
      "\x7b% block b %\x7d2\x7b% endblock %\x7d\x7b% endblock %\x7d\x7b% endblock %\x7d").toList
    let child := ("lost\x7b% block a %\x7d<\x7b\x7b super() \x7d\x7d,\x7b\x7bsuper()\x7d\x7d>" ++
      "\x7b% endblock %\x7d\x7b% block b %\x7d3\x7b% endblock %\x7d").toList
    let merged := ("\x7b% block a %\x7d0\x7b% endblock %\x7d|\x7b% block a %\x7d" ++
      "<1\x7b% block b %\x7d2\x7b% endblock %\x7d,1\x7b% block b %\x7d2\x7b% endblock %\x7d>" ++
      "\x7b% endblock %\x7d\x7b% endblock %\x7d").toList
    ∃ parentTags childTags edits, scan parent = .ok parentTags ∧ scan child = .ok childTags ∧
      mergeBlocks parent child = .ok merged ∧ Splices 0 parent edits merged ∧
        ∀ edit, edit ∈ edits ↔ OutermostEdit parent child parentTags childTags edit := by
  intro parent child merged
  have scanned : scan parent = .ok ((scan parent).toOption.getD []) := by decide +kernel
  have scanned' : scan child = .ok ((scan child).toOption.getD []) := by decide +kernel
  obtain ⟨_, edits, made, splices, outermost⟩ := mergeBlocks_exact scanned scanned'
  have same : mergeBlocks parent child = .ok merged := by decide +kernel
  rw [← Except.ok.inj (same.symm.trans made)] at splices
  exact ⟨_, _, edits, scanned, scanned', same, splices, outermost⟩

end TextTemplate
