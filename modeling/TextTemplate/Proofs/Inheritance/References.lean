/-
**What a resolved text refers to.**

The includes of a template are resolved before its blocks are merged into its parents, and nothing
is resolved once more. So it matters that a merged text has no tags but those of the two texts that
were merged.

* `Referenceless`: a text without references of a keyword;
* `drawn_mergeBlocks`: **a merged text has only tags of the parent and of the child**, if in no tag of
  the child `super()` stands behind another brace;
* `resolved_without_references`: **no reference survives the resolution**, with that exception;
* `resolved_include_of_braced_super`: the exception.
-/

import TextTemplate.Proofs.Edits.Batches
import TextTemplate.Proofs.Inheritance.Compiled
import TextTemplate.Proofs.Inheritance.Override

namespace TextTemplate

/-- **A text without references of a keyword.** -/
def Referenceless (keyword : String) (text : Text) : Prop :=
  ∀ tags, scan text = .ok tags → ∀ tag ∈ tags, tag.reference? keyword = none

/-- A text in which no tag says `super()` behind another brace. -/
def Unbraced (text : Text) : Prop :=
  ∀ tags, scan text = .ok tags → ∀ tag ∈ tags, tag.isBracedSuper = false

/-- Whether a tag is a reference is a matter of its kind and its body. -/
theorem Tag.reference?_congr {tag tag' : Tag} (kind : tag.kind = tag'.kind)
    (body : tag.body = tag'.body) (keyword : String) :
    tag.reference? keyword = tag'.reference? keyword := by
  unfold reference? directive? inner
  rw [kind, body]

/-- A text without a first reference has none. -/
theorem referenceless_of_firstReference? {keyword : String} {text : Text}
    (none : firstReference? keyword text = .ok none) : Referenceless keyword text := by
  intro tags scanned tag member
  rw [firstReference?, scanned] at none
  have unmatched := List.findSome?_eq_none_iff.mp (Except.ok.inj none) tag member
  exact Option.map_eq_none_iff.mp unmatched

theorem IncludeFree.referenceless {text : Text} (free : IncludeFree text) :
    Referenceless "include" text := by
  intro tags scanned
  obtain ⟨tags', scanned', none⟩ := free.scan
  rw [scanned] at scanned'
  cases scanned'
  exact none

/-! ### Merging -/

/-- The blocks of a text are enclosed by tags of it. -/
theorem exists_scan_of_blocksOf {text : Text} {blocks : Bindings Block}
    (found : blocksOf text = .ok blocks) :
    ∃ tags, scan text = .ok tags ∧
      ∀ entry ∈ blocks, entry.2.opening ∈ tags ∧ entry.2.closing ∈ tags := by
  obtain ⟨tags, scanned, rfl⟩ := blocksOf_eq_ok_iff.mp found
  refine ⟨tags, scanned, fun entry member => ?_⟩
  obtain ⟨name, listed⟩ := Bindings.mem_of_mem_ofList member
  obtain ⟨block, inside, same⟩ := List.mem_map.mp listed
  cases same
  obtain ⟨closing, opening⟩ := mem_of_mem_pairTags blockRole inside
  exact ⟨opening.resolve_left List.not_mem_nil, closing⟩

/-- An edit of a merge puts the body of a block of the child, overriding, into a block of the parent.
-/
theorem exists_blocks_of_mem_mergeEdits {parent child : Text} {edits : List Edit}
    (made : mergeEdits parent child = .ok edits) {edit : Edit} (member : edit ∈ edits) :
    ∃ blocks blocks' entry entry', blocksOf parent = .ok blocks ∧ blocksOf child = .ok blocks' ∧
      entry ∈ blocks ∧ entry' ∈ blocks' ∧
        edit = ⟨entry.2.body, overrideBody (entry.2.body.of parent) (entry'.2.body.of child)⟩ := by
  obtain ⟨blocks, blocks', found, found', rfl⟩ := mergeEdits_eq_ok_iff.mp made
  obtain ⟨entry, listed, overrides⟩ := List.mem_filterMap.mp (mem_outermost.mp member).1
  obtain ⟨override, bound, rfl⟩ := Option.map_eq_some_iff.mp overrides
  exact ⟨blocks, blocks', entry, (entry.2.info, override), found, found', listed,
    Bindings.entry_mem_of_find? bound, rfl⟩

/-- **A merged text has only tags of the parent and of the child**, wherever they stand, if in no tag
of the child `super()` stands behind another brace. -/
theorem drawn_mergeBlocks {parent child merged : Text} {tags tags' : List Tag}
    (scanned : scan parent = .ok tags) (scanned' : scan child = .ok tags') (unbraced : Unbraced child)
    (merges : mergeBlocks parent child = .ok merged) : Drawn (tags ++ tags') [] merged := by
  obtain ⟨edits, made, rfl⟩ := mergeBlocks_eq_ok_iff.mp merges
  have whole : Drawn (tags ++ tags') [] parent :=
    (drawn_of_scan scanned).mono (List.subset_append_left _ _)
  refine whole.applyEdits_between scanned (soundBatch_mergeEdits made).spans fun edit member => ?_
  obtain ⟨blocks, blocks', entry, entry', found, found', listed, listed', rfl⟩ :=
    exists_blocks_of_mem_mergeEdits made member
  obtain ⟨all, scan, among⟩ := exists_scan_of_blocksOf found
  obtain ⟨all', scan', among'⟩ := exists_scan_of_blocksOf found'
  obtain rfl : tags = all := Except.ok.inj (scanned.symm.trans scan)
  obtain rfl : tags' = all' := Except.ok.inj (scanned'.symm.trans scan')
  have begins : BeginsAt tags entry.2.body.start := Or.inr ⟨_, (among entry listed).1, rfl⟩
  have ends : EndsAt tags entry.2.body.stop := ⟨_, (among entry listed).2, rfl⟩
  have begins' : BeginsAt tags' entry'.2.body.start := Or.inr ⟨_, (among' entry' listed').1, rfl⟩
  have ends' : EndsAt tags' entry'.2.body.stop := ⟨_, (among' entry' listed').2, rfl⟩
  have body : Drawn tags' ['{'] (entry'.2.body.of child) :=
    (drawn_of_scan scanned').slice scanned' begins' ends'
  have replaced : Drawn (tags ++ tags') ['{'] (entry.2.body.of parent) :=
    whole.slice scanned begins ends
  exact ⟨begins, ends, body.overrideBody (unbraced tags' scanned')
    (List.subset_append_right _ _) replaced⟩

/-- Where neither the parent nor the child has references of a keyword, the merged text has none. -/
theorem Referenceless.mergeBlocks {keyword : String} {parent child merged : Text}
    (parent' : Referenceless keyword parent) (child' : Referenceless keyword child)
    (unbraced : Unbraced child) (merges : mergeBlocks parent child = .ok merged) :
    Referenceless keyword merged := by
  intro found scannedMerged tag member
  obtain ⟨edits, made, -⟩ := mergeBlocks_eq_ok_iff.mp merges
  obtain ⟨blocks, blocks', found', found'', -⟩ := mergeEdits_eq_ok_iff.mp made
  obtain ⟨tags, scanned, -⟩ := exists_scan_of_blocksOf found'
  obtain ⟨tags', scanned', -⟩ := exists_scan_of_blocksOf found''
  obtain ⟨tag', inside, kind, body⟩ :=
    (drawn_mergeBlocks scanned scanned' unbraced merges).exists_tag scannedMerged member
  rw [← Tag.reference?_congr kind body]
  rcases List.mem_append.mp inside with ofParent | ofChild
  · exact parent' tags scanned tag' ofParent
  · exact child' tags' scanned' tag' ofChild

/-! ### The way up -/

section Ascent

variable {loader : Loader} (finite : loader.Finite) {entry : String} {source : Text}
include finite

theorem includeFree_of_resolveIncludes {seen : List String} {text out : Text}
    (resolved : resolveIncludes loader seen text = .ok out) : IncludeFree out := by
  obtain ⟨names, fewer, complete⟩ := finite
  have ends := includesEnd_resolveIncludes complete fewer seen text
  rw [resolved] at ends
  exact ends.includeFree out rfl

/-- A parent has its includes resolved when it is merged. -/
theorem includeFree_of_readParent {name : String} {parent : Text}
    (read : readParent loader name = .ok parent) : IncludeFree parent := by
  rcases loaded : loader.read name with error | text
  · rw [readParent, loaded] at read
    cases read
  · rcases resolved : resolveIncludes loader [name] text.toList with error | out
    · simp [readParent, loaded, scanned, resolved, Except.mapError, bind, Except.bind] at read
    · simp only [readParent, loaded, scanned, resolved, Except.mapError, bind, Except.bind] at read
      cases read
      exact includeFree_of_resolveIncludes finite resolved

/-- **The texts on the way up include nothing**, if in none of them that is merged into a parent
`super()` stands behind another brace. -/
theorem Ascends.referenceless {names : List String} {text : Text}
    (ascends : Ascends loader entry source names text)
    (unbraced : ∀ names text reference, Ascends loader entry source names text →
      firstReference? "extends" text = .ok (some reference) → Unbraced text) :
    Referenceless "include" text := by
  induction ascends with
  | entry resolved => exact (includeFree_of_resolveIncludes finite resolved).referenceless
  | parent ascends found read merges ih =>
    exact (includeFree_of_readParent finite read).referenceless.mergeBlocks ih
      (unbraced _ _ _ ascends found) merges

/-- What the way up from a text ends with lies on the way up. -/
theorem ParentsEnd.exists_ascends {depth rounds : Nat} {chain : List String} {text : Text}
    {outcome : Except TemplateError Text} (ends : ParentsEnd loader depth rounds chain text outcome)
    (ascends : Ascends loader entry source chain text) :
    ∀ resolved, outcome = .ok resolved → ∃ names, Ascends loader entry source names resolved := by
  induction ends with
  | done =>
    rintro _ ⟨⟩
    exact ⟨_, ascends⟩
  | fault | cycle | parentFault | mergeFault => rintro _ ⟨⟩
  | merge found _ read merges _ ih =>
    exact ih (ascends.parent found (read.eq_readParent finite) merges)

/-- What a resolution ends with lies on the way up. -/
theorem ResolutionEnds.exists_ascends {depth rounds : Nat} {resolved : Text}
    (ends : ResolutionEnds loader depth rounds entry source (.ok resolved)) :
    ∃ names, Ascends loader entry source names resolved := by
  cases ends with
  | parents inner ends =>
    exact ends.exists_ascends finite (Ascends.entry (inner.eq_resolveIncludes finite).symm) resolved rfl

end Ascent

/-- **No reference survives the resolution.** What a template is resolved to can be scanned and
extends nothing. It includes nothing either, if in no text that is merged into a parent there is a tag
that says `super()` behind another brace: there the replaced body may begin behind a brace that is
left. -/
theorem resolved_without_references {loader : Loader} (finite : loader.Finite) {entry : String}
    {source out : Text} (resolved : resolve loader entry source = .ok out) :
    ∃ tags, scan out = .ok tags ∧ (∀ tag ∈ tags, tag.reference? "extends" = none) ∧
      ((∀ names text reference, Ascends loader entry source names text →
          firstReference? "extends" text = .ok (some reference) → Unbraced text) →
        ∀ tag ∈ tags, tag.reference? "include" = none) := by
  have ⟨names, fewer, complete⟩ := finite
  have ends := resolutionEnds_resolve complete fewer entry source
  rw [resolved] at ends
  obtain ⟨tags, scanned⟩ := scan_of_firstReference?_eq_ok ends.firstReference?_eq_none
  refine ⟨tags, scanned, ?_, fun unbraced => ?_⟩
  · exact referenceless_of_firstReference? ends.firstReference?_eq_none tags scanned
  · obtain ⟨names, ascends⟩ := ends.exists_ascends finite
    exact ascends.referenceless finite unbraced tags scanned

section OneParent

variable {loader : Loader} {entry name : String} {source child parent out : Text}
  (resolved : resolveIncludes loader [entry] source = .ok child)
  (upward : (firstReference? "extends" child).map (Option.map Prod.snd) = .ok (some name))
  (read : readParent loader name = .ok parent) (merges : mergeBlocks parent child = .ok out)
  (topmost : firstReference? "extends" out = .ok none)
include resolved upward read merges topmost

/-- The way up to a parent that extends nothing. -/
theorem Ascends.eq_of_topmost {names : List String} {text : Text}
    (ascends : Ascends loader entry source names text) : text = child ∨ text = out := by
  induction ascends with
  | entry resolved' => exact Or.inl (Except.ok.inj (resolved'.symm.trans resolved))
  | parent _ found read' merges' ih =>
    rcases ih with rfl | rfl
    · rw [found] at upward
      cases upward
      cases read'.symm.trans read
      exact Or.inr (Except.ok.inj (merges'.symm.trans merges))
    · rw [topmost] at found
      cases found

/-- With a parent that extends nothing, only the template itself is merged. -/
theorem unbraced_of_topmost
    (unbraced : (scan child).map (List.all · fun tag => !tag.isBracedSuper) = .ok true)
    (names : List String) (text : Text) (reference : Tag × String)
    (ascends : Ascends loader entry source names text)
    (found : firstReference? "extends" text = .ok (some reference)) : Unbraced text := by
  rcases ascends.eq_of_topmost resolved upward read merges topmost with rfl | rfl
  · intro tags scanned tag member
    rw [scanned] at unbraced
    have all := List.all_eq_true.mp (Except.ok.inj unbraced) tag member
    rwa [Bool.not_eq_true'] at all
  · rw [topmost] at found
    cases found

end OneParent

/-- A page that includes another template in a block, merged into its parent. -/
theorem resolved_page_without_references :
    let loader := Loader.ofTemplates
      [("base", "<\x7b% block main %\x7d\x7b% endblock %\x7d>\x7b% include 'end' %\x7d"),
        ("end", "\x7b\x7b year \x7d\x7d")]
    let source := ("\x7b% extends 'base' %\x7d\x7b% block main %\x7d\x7b% include 'end' %\x7d" ++
      "\x7b\x7b super() \x7d\x7d\x7b% endblock %\x7d").toList
    let out := ("<\x7b% block main %\x7d\x7b\x7b year \x7d\x7d\x7b% endblock %\x7d>" ++
      "\x7b\x7b year \x7d\x7d").toList
    resolve loader "page" source = .ok out ∧
      ∃ tags, scan out = .ok tags ∧ (∀ tag ∈ tags, tag.reference? "extends" = none) ∧
        ∀ tag ∈ tags, tag.reference? "include" = none := by
  intro loader source out
  have resolved : resolve loader "page" source = .ok out := by decide +kernel
  obtain ⟨tags, scanned, noParent, noInclude⟩ :=
    resolved_without_references (Loader.finite_ofTemplates _) resolved
  let child := ("\x7b% extends 'base' %\x7d\x7b% block main %\x7d\x7b\x7b year \x7d\x7d" ++
    "\x7b\x7b super() \x7d\x7d\x7b% endblock %\x7d").toList
  let parent := "<\x7b% block main %\x7d\x7b% endblock %\x7d>\x7b\x7b year \x7d\x7d".toList
  have first : resolveIncludes loader ["page"] source = .ok child := by decide +kernel
  have upward : (firstReference? "extends" child).map (Option.map Prod.snd) = .ok (some "base") := by
    decide +kernel
  have read : readParent loader "base" = .ok parent := by decide +kernel
  have merges : mergeBlocks parent child = .ok out := by decide +kernel
  have topmost : firstReference? "extends" out = .ok none := by decide +kernel
  have unbraced : (scan child).map (List.all · fun tag => !tag.isBracedSuper) = .ok true := by
    decide +kernel
  exact ⟨resolved, tags, scanned, noParent,
    noInclude (unbraced_of_topmost first upward read merges topmost unbraced)⟩

/-- **An include that comes into being**: the third brace of the child is left, and makes a tag with
the body of the parent. -/
theorem resolved_include_of_braced_super :
    let loader := Loader.ofTemplates
      [("base", "\x7b% block x %\x7d% include 'a' %\x7b% endblock %\x7d")]
    let source := ("\x7b% extends 'base' %\x7d\x7b% block x %\x7d" ++
      "\x7b\x7b\x7b super() \x7d\x7d\x7d\x7b% endblock %\x7d").toList
    let out := "\x7b% block x %\x7d\x7b% include 'a' %\x7d\x7b% endblock %\x7d".toList
    loader.Finite ∧ resolve loader "page" source = .ok out ∧
      ∃ tags tag, scan out = .ok tags ∧ tag ∈ tags ∧ tag.reference? "include" = some "a" := by
  intro loader source out
  let opening : Tag := ⟨.statement, ⟨0, 0, 0⟩, ⟨13, 0, 13⟩, " block x ".toList⟩
  let inserted : Tag := ⟨.statement, ⟨13, 0, 13⟩, ⟨30, 0, 30⟩, " include 'a' ".toList⟩
  let closing : Tag := ⟨.statement, ⟨30, 0, 30⟩, ⟨44, 0, 44⟩, " endblock ".toList⟩
  exact ⟨Loader.finite_ofTemplates _, by decide +kernel, [opening, inserted, closing], inserted,
    by decide +kernel, by decide +kernel, by decide +kernel⟩

end TextTemplate
