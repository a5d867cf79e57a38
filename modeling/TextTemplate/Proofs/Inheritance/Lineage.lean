/-
**Blocks along a chain of templates.**

A template is merged into its parent, the result into the parent of that one, and so on. Each merge
keeps the text of the parent outside of its blocks, so a block reaches the last template only through
templates that all have a block of its name. In the last template it has the body of the first one of
these, in which each `super()` tag has given way to the body of the next one, made in the same way.

* `Lineage`: a chain of templates each of which extends the next one, with blocks side by side;
* `inherit`: the body made of several ones, and `inherited`: the body of a block of the last template;
* `Link.merge`: **what one merge adds**;
* `resolve_lineage`: **the last template of a chain has the inherited bodies in its blocks**, and all
  else of it is unchanged.
-/

import Mathlib.Data.List.DropRight
import Mathlib.Data.List.ReduceOption
import TextTemplate.Proofs.Inheritance.Layout

namespace TextTemplate

/-! ### Chains of templates -/

/-- **A template of a chain**: its name, its text and its tags. It includes nothing, and its blocks
stand side by side under different names. -/
structure Link where
  name : String
  text : Text
  tags : List Tag
  scanned : scan text = .ok tags
  includeFree : ∀ tag ∈ tags, tag.reference? "include" = none
  beside : sideBySide false tags = true
  distinct : ((pairTags blockRole [] tags).map Enclosure.info).Nodup

namespace Link

/-- The blocks of a template. -/
def blocks (link : Link) : List Block :=
  pairTags blockRole [] link.tags

/-- The bodies of the blocks of a template. -/
def bodies (link : Link) : Bindings Text :=
  link.blocks.map fun block => (block.info, block.body.of link.text)

/-- The body of the block of a name. -/
def body? (name : String) (link : Link) : Option Text :=
  Bindings.find? name link.bodies

/-- The names of the templates that a template extends. -/
def parents (link : Link) : List String :=
  link.tags.filterMap (Tag.reference? "extends")

end Link

/-- **A chain of templates**, each of which extends the next one only and the last of which extends
nothing. -/
inductive Lineage (loader : Loader) : List Link → Prop
  | root {root : Link} : root.parents = [] → Lineage loader [root]
  | child {child parent : Link} {later : List Link} :
    child.parents = [parent.name] → loader.read parent.name = .ok (String.ofList parent.text) →
      Lineage loader (parent :: later) → Lineage loader (child :: parent :: later)

/-- **The body made of several ones**: the first one, with the body made of the others in the place of
its `super()` tags. The last one keeps them. -/
def inherit : List Text → Text
  | [] => []
  | [body] => body
  | body :: later => withSuper (inherit later) body

/-- The bodies of a block in the templates at the end of a chain that all have one of its name. -/
def run (chain : List Link) (name : String) : List Text :=
  ((chain.map (Link.body? name)).rtakeWhile Option.isSome).reduceOption

/-- **The body of a block of the last template** of a chain, with all that it inherits. -/
def inherited (chain : List Link) (name : String) : Text :=
  inherit (run chain name)

/-! ### Runs of bodies -/

section Run

variable {chain : List Link} {link : Link} {name : String} {body : Text}

theorem run_concat_of_some (found : link.body? name = some body) :
    run (chain ++ [link]) name = run chain name ++ [body] := by
  rw [run, List.map_append, List.map_singleton, found,
    List.rtakeWhile_concat_pos _ _ _ Option.isSome_some, List.reduceOption_append]
  rfl

theorem run_concat_of_none (absent : link.body? name = none) :
    run (chain ++ [link]) name = [] := by
  rw [run, List.map_append, List.map_singleton, absent,
    List.rtakeWhile_concat_neg _ _ _ (by simp)]
  rfl

/-- The bodies of a run are bodies of blocks. -/
theorem exists_link_of_mem_run (member : body ∈ run chain name) :
    ∃ link ∈ chain, (name, body) ∈ link.bodies := by
  have inside := List.reduceOption_mem_iff.mp member
  obtain ⟨link, listed, found⟩ := List.mem_map.mp ((List.rtakeWhile_suffix _ _).subset inside)
  exact ⟨link, listed, Bindings.entry_mem_of_find? found⟩

end Run

/-! ### Bodies that are inherited -/

/-- **A body that can be inherited**: it may stand between any two tags, and its `super()` tags are
all that an override replaces. -/
structure Heritable (body : Text) : Prop where
  composed : Composed Neighbours.quiet InBlock true true body
  overrides : ∀ new, overrideBody new body = withSuper new body

section Heritable

variable {bodies : List Text} (heritable : ∀ body ∈ bodies, Heritable body) (some : bodies ≠ [])
include heritable some

theorem composed_inherit : Composed Neighbours.quiet InBlock true true (inherit bodies) := by
  fun_induction inherit bodies with
  | case1 => exact absurd rfl some
  | case2 body => exact (heritable body List.mem_cons_self).composed
  | case3 body later more ih =>
    obtain ⟨head, others⟩ := List.forall_mem_cons.mp heritable
    rw [← head.overrides]
    exact head.composed.overrideBody unbraced_inBlock (fun _ _ => id) (ih others more)

/-- **A further body at the end takes the place of the last `super()` tags**: this is what merging
into one more parent does. -/
theorem inherit_concat (last : Text) :
    inherit (bodies ++ [last]) = overrideBody last (inherit bodies) := by
  fun_induction inherit bodies with
  | case1 => exact absurd rfl some
  | case2 body => exact ((heritable body List.mem_cons_self).overrides last).symm
  | case3 body later more ih =>
    obtain ⟨head, others⟩ := List.forall_mem_cons.mp heritable
    have step : inherit (body :: (later ++ [last])) = withSuper (inherit (later ++ [last])) body := by
      rw [inherit]
      simp
    calc inherit (body :: (later ++ [last]))
        = overrideBody (inherit (later ++ [last])) body := by rw [step, head.overrides]
      _ = overrideBody (overrideBody last (inherit later)) body := by rw [ih others more]
      _ = overrideBody last (overrideBody (inherit later) body) :=
        (head.composed.overrideBody_overrideBody unbraced_inBlock (composed_inherit others more)
          unbraced_inBlock last).symm
      _ = overrideBody last (withSuper (inherit later) body) := by rw [head.overrides]

end Heritable

/-! ### The templates of a chain -/

namespace Link

variable (link : Link) {neighbours : Neighbours}

theorem bodies_distinct : (link.bodies.map Prod.fst).Nodup := by
  rw [bodies, List.map_map]
  exact link.distinct

/-- **A template of a chain is laid out**, with its own blocks and parents. -/
theorem exists_layout (composed : Composed neighbours anyTag false false link.text) :
    ∃ passages last, LaidOut neighbours link.text passages last ∧
      TaggedAs link.text passages link.tags ∧ bodiesOf passages = link.bodies := by
  obtain ⟨passages, last, joined, laid⟩ := laid_of_scan link.scanned link.beside composed
  have tagged := laid.taggedAs joined link.scanned
  have bodies : bodiesOf passages = link.bodies := laid.bodiesOf_eq joined tagged
  exact ⟨passages, last, ⟨joined, laid, by rw [bodies]; exact link.bodies_distinct⟩, tagged, bodies⟩

/-- **The bodies of a template of a chain can be inherited.** -/
theorem heritable : ∀ entry ∈ link.bodies, Heritable entry.2 := by
  intro entry member
  obtain ⟨passages, last, out, -, bodies⟩ := link.exists_layout (composed_quiet link.scanned)
  have composed := out.laid.composed_of_mem entry (bodies ▸ member)
  refine ⟨composed, fun new => ?_⟩
  -- the body lies between two tags, so it can be scanned
  obtain ⟨block, listed, rfl⟩ := List.mem_map.mp member
  obtain ⟨closing, opening⟩ := mem_of_mem_pairTags blockRole listed
  obtain ⟨-, placed⟩ := pairTags_body_laminar blockRole link.scanned (List.Sublist.refl _)
  obtain ⟨part, found⟩ := placed block listed
  obtain ⟨inside, scanned, -⟩ := scan_slice link.scanned found
    (Or.inr ⟨_, opening.resolve_left List.not_mem_nil, rfl⟩) ⟨_, closing, rfl⟩
  have same : block.body.of link.text = part := by rw [Span.of, Text.slice, found]; rfl
  exact composed.overrideBody_eq_withSuper unbraced_inBlock (same ▸ scanned) new

/-- Any texts may be put into the blocks of a template. -/
theorem exists_splices (new : String → Text) :
    ∃ out, Splices 0 link.text (link.blocks.map fun block => ⟨block.body, new block.info⟩) out := by
  obtain ⟨passages, last, out, tagged, -⟩ := link.exists_layout (composed_quiet link.scanned)
  have splices := out.laid.splices_refill (fun name _ => new name) (fun name _ => some (new name))
    (fun _ _ => rfl) Position.start
  rw [blocks, tagged.blocks, List.map_map, ← List.filterMap_eq_map, out.joined]
  exact ⟨_, splices⟩

theorem resolveIncludes_eq (loader : Loader) (seen : List String) :
    resolveIncludes loader seen link.text = .ok link.text := by
  have found : firstReference? "include" link.text = .ok none := by
    rw [firstReference?, link.scanned]
    refine congrArg Except.ok (List.findSome?_eq_none_iff.mpr fun tag member => ?_)
    rw [link.includeFree tag member]
    rfl
  rw [resolveIncludes]
  cases loader.bound with
  | zero => exact replaceIncludes_of_none found
  | succ depth => exact replaceIncludes_of_none found

theorem readParent_eq {loader : Loader} (read : loader.read link.name = .ok (String.ofList link.text)) :
    readParent loader link.name = .ok link.text := by
  rw [readParent, read]
  show TextTemplate.scanned (resolveIncludes loader [link.name] (String.ofList link.text).toList) = _
  rw [String.toList_ofList, link.resolveIncludes_eq]
  rfl

end Link

/-- The bodies of a run can be inherited. -/
theorem heritable_of_mem_run {chain : List Link} {name : String} :
    ∀ body ∈ run chain name, Heritable body := by
  intro body member
  obtain ⟨link, -, listed⟩ := exists_link_of_mem_run member
  exact link.heritable _ listed

/-! ### Merges -/

/-- **What a template has become** when the templates before it in a chain are merged into it. -/
structure Merged (neighbours : Neighbours) (earlier : List Link) (link : Link) (text : Text)
    (passages : List Passage) (last : Text) : Prop where
  out : LaidOut neighbours text passages last
  bodies : bodiesOf passages =
    link.bodies.map fun entry => (entry.1, inherited (earlier ++ [link]) entry.1)
  parents : passages.filterMap Passage.parent? = link.parents
  splices : Splices 0 link.text
    (link.blocks.map fun block => ⟨block.body, inherited (earlier ++ [link]) block.info⟩) text

section Merge

variable {neighbours : Neighbours} {earlier : List Link} {link : Link} {text last : Text}
  {passages : List Passage}

/-- A template with inherited bodies in its blocks. -/
theorem merged_of_refill (out : LaidOut neighbours link.text passages last)
    (tagged : TaggedAs link.text passages link.tags) (bodies : bodiesOf passages = link.bodies)
    (change : String → Text → Text)
    (inherits : ∀ entry ∈ link.bodies, change entry.1 entry.2 = inherited (earlier ++ [link]) entry.1 ∧
      Composed neighbours InBlock true true (change entry.1 entry.2)) :
    Merged neighbours earlier link (layoutText (passages.map (Passage.refill change)) ++ last)
      (passages.map (Passage.refill change)) last where
  out := out.refill fun entry member => (inherits entry (bodies ▸ member)).2
  bodies := by
    rw [bodiesOf_refill, bodies]
    exact List.map_congr_left fun entry member => by rw [(inherits entry member).1]
  parents := by rw [parents_refill, ← tagged.parents, Link.parents]
  splices := by
    have splices := out.laid.splices_refill change
      (fun name _ => some (inherited (earlier ++ [link]) name))
      (fun entry member => (inherits entry (bodies ▸ member)).1.symm) Position.start
    rw [Link.blocks, tagged.blocks, List.map_map, ← List.filterMap_eq_map, out.joined]
    exact splices

/-- A template by itself has its own bodies. -/
theorem exists_merged_nil (composed : Composed neighbours anyTag false false link.text) :
    ∃ passages last, Merged neighbours [] link link.text passages last := by
  obtain ⟨passages, last, out, tagged, bodies⟩ := link.exists_layout composed
  have merged : Merged neighbours [] link _ _ last :=
    merged_of_refill out tagged bodies (fun _ old => old) fun entry member => ?_
  · have same : passages.map (Passage.refill fun _ old => old) = passages := by
      refine List.map_id'' (fun passage => ?_) passages
      cases passage <;> rfl
    rw [same, ← out.joined] at merged
    exact ⟨passages, last, merged⟩
  · have found : link.body? entry.1 = some entry.2 :=
      Bindings.find?_eq_some_of_mem link.bodies_distinct member
    refine ⟨?_, out.laid.composed_of_mem entry (bodies ▸ member)⟩
    rw [inherited, run_concat_of_some found]
    rfl

/-- **What one merge adds**: where the child has a block of the name, the body of the parent takes the
place of its last `super()` tags, and elsewhere the parent keeps its own body. -/
theorem Merged.merge {parent : Link} (merged : Merged neighbours earlier link text passages last)
    {tags : List Tag} (scanned : scan text = .ok tags)
    (composed : Composed neighbours anyTag false false parent.text) :
    ∃ text' passages' last', mergeBlocks parent.text text = .ok text' ∧
      Merged neighbours (earlier ++ [link]) parent text' passages' last' := by
  obtain ⟨passages', last', out, tagged, bodies⟩ := parent.exists_layout composed
  refine ⟨_, _, last', out.mergeBlocks_eq tagged merged.out
    (merged.out.laid.taggedAs merged.out.joined scanned), merged_of_refill out tagged bodies _ ?_⟩
  rintro ⟨name, old⟩ member
  have own : parent.body? name = some old :=
    Bindings.find?_eq_some_of_mem parent.bodies_distinct member
  have composed' : Composed neighbours InBlock true true old :=
    out.laid.composed_of_mem (name, old) (bodies ▸ member)
  have bound : Bindings.find? name (bodiesOf passages) =
      (link.body? name).map fun _ => inherited (earlier ++ [link]) name := by
    rw [merged.bodies]
    exact Bindings.find?_map (fun name _ => inherited (earlier ++ [link]) name) name link.bodies
  have whole : inherited (earlier ++ [link] ++ [parent]) name =
      inherit (run (earlier ++ [link]) name ++ [old]) := by
    rw [inherited, run_concat_of_some own]
  show overriding _ name old = inherited _ name ∧ Composed _ _ _ _ (overriding _ name old)
  rw [overriding, bound, whole]
  rcases found : link.body? name with _ | body
  · rw [run_concat_of_none found]
    exact ⟨rfl, composed'⟩
  · have some : run (earlier ++ [link]) name ≠ [] := by
      rw [run_concat_of_some found]
      simp
    rw [inherit_concat heritable_of_mem_run some]
    refine ⟨rfl, ?_⟩
    have overriding' : (name, inherited (earlier ++ [link]) name) ∈ bodiesOf passages :=
      Bindings.entry_mem_of_find? (by rw [bound, found]; rfl)
    exact (merged.out.laid.composed_of_mem _ overriding').overrideBody unbraced_inBlock
      (fun _ _ => id) composed'

end Merge

/-! ### The way up a chain -/

/-- The first reference of a text is the first one among its tags. -/
theorem exists_firstReference? (keyword : String) {text : Text} {tags : List Tag}
    (scanned : scan text = .ok tags) :
    ∃ first, firstReference? keyword text = .ok first ∧
      first.map Prod.snd = (tags.filterMap (Tag.reference? keyword)).head? := by
  refine ⟨tags.findSome? fun tag => (tag.reference? keyword).map (tag, ·), ?_, ?_⟩
  · rw [firstReference?, scanned]
    rfl
  · rw [List.head?_filterMap, List.map_findSome?]
    congr 1
    funext tag
    cases found : tag.reference? keyword <;> simp [found]

section Ascent

variable {loader : Loader} (finite : loader.Finite) {neighbours : Neighbours} {entry : String}
  {source : Text}
include finite

/-- A merged text can be scanned, or the resolution ends with a stray closer. -/
theorem Merged.tagged_or_stray {earlier : List Link} {link : Link} {text last : Text}
    {passages : List Passage} (merged : Merged neighbours earlier link text passages last)
    {names : List String} (ascends : Ascends loader entry source names text) (distinct : names.Nodup) :
    (∃ tags, TaggedAs text passages tags) ∨ ¬ neighbours.Tight ∧ ∃ there close,
      resolve loader entry source = .error (.malformed ⟨there, .unexpectedClose close⟩) := by
  refine (merged.out.laid.tagged_or_stray merged.out.joined).imp_right ?_
  rintro ⟨loose, there, close, stray⟩
  obtain ⟨rounds, same⟩ := ascends.resolve_eq distinct finite
  refine ⟨loose, there, close, ?_⟩
  rw [same, resolveParents_of_fault (firstReference?_of_fault stray)]

/-- **From a template of a chain on, the resolution merges the ones behind it**, or comes upon a stray
closer. -/
theorem Merged.resolve_eq {earlier later : List Link} {link : Link} {text last : Text}
    {passages : List Passage} (merged : Merged neighbours earlier link text passages last)
    (ascends : Ascends loader entry source ((earlier ++ [link]).map Link.name) text)
    (lineage : Lineage loader (link :: later))
    (distinct : ((earlier ++ link :: later).map Link.name).Nodup)
    (composed : ∀ parent ∈ later, Composed neighbours anyTag false false parent.text) :
    (∃ out, Splices 0 ((link :: later).getLast (List.cons_ne_nil _ _)).text
        (((link :: later).getLast (List.cons_ne_nil _ _)).blocks.map fun block =>
          ⟨block.body, inherited (earlier ++ link :: later) block.info⟩) out ∧
      resolve loader entry source = .ok out) ∨
    ¬ neighbours.Tight ∧ ∃ there close,
      resolve loader entry source = .error (.malformed ⟨there, .unexpectedClose close⟩) := by
  induction later generalizing earlier link text last passages with
  | nil =>
    refine (merged.tagged_or_stray finite ascends distinct).imp_left ?_
    rintro ⟨tags, tagged⟩
    have none : link.parents = [] := by
      cases lineage with
      | root none => exact none
    obtain ⟨first, found, extended⟩ := exists_firstReference? "extends" tagged.scanned
    rw [tagged.parents, merged.parents, none, List.head?_nil, Option.map_eq_none_iff] at extended
    obtain ⟨rounds, same⟩ := ascends.resolve_eq distinct finite
    rw [same, resolveParents_of_none (extended ▸ found)]
    exact ⟨text, merged.splices, rfl⟩
  | cons parent later ih =>
    cases lineage with
    | child one read lineage =>
      have regroup : earlier ++ link :: parent :: later = earlier ++ [link] ++ parent :: later := by
        simp
      rw [regroup] at distinct ⊢
      have distinct' : ((earlier ++ [link]).map Link.name).Nodup := by
        rw [List.map_append] at distinct
        exact (List.nodup_append.mp distinct).1
      rcases merged.tagged_or_stray finite ascends distinct' with ⟨tags, tagged⟩ | stray
      · obtain ⟨head, others⟩ := List.forall_mem_cons.mp composed
        obtain ⟨first, found, extended⟩ := exists_firstReference? "extends" tagged.scanned
        rw [tagged.parents, merged.parents, one, List.head?_cons, Option.map_eq_some_iff] at extended
        obtain ⟨⟨tag, _⟩, rfl, rfl⟩ := extended
        obtain ⟨text', passages', last', merges, merged'⟩ := merged.merge tagged.scanned head
        have ascends' := ascends.parent found (parent.readParent_eq read) merges
        exact ih merged' (by simpa using ascends') lineage distinct others
      · exact Or.inr stray

end Ascent

/-- **The last template of a chain has the inherited bodies in its blocks**, and all else of it is
unchanged; the resolution gives this text, or finds that a closer came into being where a body was put
in the place of a `super()` tag. No such closer is found if no tag of the chain has a closing brace
directly behind it, or none has a closing brace or a percent sign directly before it. -/
theorem resolve_lineage {loader : Loader} (finite : loader.Finite) {entry : Link}
    {parents : List Link} (lineage : Lineage loader (entry :: parents))
    (distinct : ((entry :: parents).map Link.name).Nodup) :
    let chain := entry :: parents
    let root := chain.getLast (List.cons_ne_nil _ _)
    ∃ out, Splices 0 root.text
        (root.blocks.map fun block => ⟨block.body, inherited chain block.info⟩) out ∧
      (resolve loader entry.name entry.text = .ok out ∨ ∃ there close,
        resolve loader entry.name entry.text = .error (.malformed ⟨there, .unexpectedClose close⟩)) ∧
      ((∀ link ∈ chain, ClearBehind link.text link.tags) ∨
          (∀ link ∈ chain, ClearBefore link.text link.tags) →
        resolve loader entry.name entry.text = .ok out) := by
  intro chain root
  obtain ⟨out, splices⟩ := root.exists_splices (inherited chain)
  have ends : ∀ neighbours, (∀ link ∈ chain, Composed neighbours anyTag false false link.text) →
      resolve loader entry.name entry.text = .ok out ∨ ¬ neighbours.Tight ∧ ∃ there close,
        resolve loader entry.name entry.text = .error (.malformed ⟨there, .unexpectedClose close⟩) := by
    intro neighbours composed
    obtain ⟨head, others⟩ := List.forall_mem_cons.mp composed
    obtain ⟨passages, last, merged⟩ := exists_merged_nil head
    have ascends : Ascends loader entry.name entry.text [entry.name] entry.text :=
      Ascends.entry (entry.resolveIncludes_eq loader [entry.name])
    refine (merged.resolve_eq finite ascends lineage distinct others).imp_left ?_
    rintro ⟨out', splices', resolved⟩
    rw [resolved, ← applyEdits_eq_of_splices splices (List.Perm.refl _)]
    exact congrArg Except.ok (applyEdits_eq_of_splices splices' (List.Perm.refl _)).symm
  refine ⟨out, splices, ?_, ?_⟩
  · exact (ends Neighbours.quiet fun link _ => composed_quiet link.scanned).imp_right And.right
  · rintro (clear | clear)
    · exact (ends Neighbours.clearBehind fun link member =>
        composed_clearBehind link.scanned (clear link member)).resolve_right
          fun stray => stray.1 Neighbours.tight_clearBehind
    · exact (ends Neighbours.clearBefore fun link member =>
        composed_clearBefore link.scanned (clear link member)).resolve_right
          fun stray => stray.1 Neighbours.tight_clearBefore

/-- A `super()` tag with a brace on both sides leaves a closer where it gives way to nothing. -/
example : resolve (Loader.ofTemplates [("base", "\x7b% block main %\x7d\x7b% endblock %\x7d")]) "page"
    ("\x7b% extends 'base' %\x7d\x7b% block main %\x7d" ++
      "\x7d\x7b\x7b super() \x7d\x7d\x7d\x7b% endblock %\x7d").toList =
    .error (.malformed ⟨⟨16, 0, 16⟩, .unexpectedClose .expression⟩) := by
  decide +kernel

/-! ### A page, its layout and its base -/

/-- The base of a page. -/
def baseLink : Link where
  name := "base"
  text := "<\x7b% block main %\x7d1\x7b% endblock %\x7d>".toList
  tags := (scan "<\x7b% block main %\x7d1\x7b% endblock %\x7d>".toList).toOption.getD []
  scanned := by decide +kernel
  includeFree := by decide +kernel
  beside := by decide +kernel
  distinct := by decide +kernel

/-- A layout that adds to the block of its base. -/
def layoutLink : Link where
  name := "layout"
  text := ("\x7b% extends 'base' %\x7d\x7b% block main %\x7d" ++
    "\x7b\x7b super() \x7d\x7d2\x7b% endblock %\x7d").toList
  tags := (scan ("\x7b% extends 'base' %\x7d\x7b% block main %\x7d" ++
    "\x7b\x7b super() \x7d\x7d2\x7b% endblock %\x7d").toList).toOption.getD []
  scanned := by decide +kernel
  includeFree := by decide +kernel
  beside := by decide +kernel
  distinct := by decide +kernel

/-- A layout without the block. -/
def blankLink : Link where
  name := "layout"
  text := "\x7b% extends 'base' %\x7d".toList
  tags := (scan "\x7b% extends 'base' %\x7d".toList).toOption.getD []
  scanned := by decide +kernel
  includeFree := by decide +kernel
  beside := by decide +kernel
  distinct := by decide +kernel

/-- A page that adds to the block of its layout. -/
def pageLink : Link where
  name := "page"
  text := ("\x7b% extends 'layout' %\x7d\x7b% block main %\x7d" ++
    "3\x7b\x7b super() \x7d\x7d\x7b% endblock %\x7d").toList
  tags := (scan ("\x7b% extends 'layout' %\x7d\x7b% block main %\x7d" ++
    "3\x7b\x7b super() \x7d\x7d\x7b% endblock %\x7d").toList).toOption.getD []
  scanned := by decide +kernel
  includeFree := by decide +kernel
  beside := by decide +kernel
  distinct := by decide +kernel

/-- The loader of a layout and the base. -/
def pageLoader (layout : Link) : Loader :=
  Loader.ofTemplates
    [("layout", String.ofList layout.text), ("base", String.ofList baseLink.text)]

/-- The page calls `super()` through both templates that it extends. -/
theorem resolve_pageLink :
    let chain := [pageLink, layoutLink, baseLink]
    Lineage (pageLoader layoutLink) chain ∧ (chain.map Link.name).Nodup ∧
      (∀ link ∈ chain, ClearBehind link.text link.tags) ∧
        ∃ out, Splices 0 baseLink.text
            (baseLink.blocks.map fun block => ⟨block.body, inherited chain block.info⟩) out ∧
          inherited chain "main" = "312".toList ∧
          resolve (pageLoader layoutLink) pageLink.name pageLink.text = .ok out := by
  intro chain
  have lineage : Lineage (pageLoader layoutLink) chain := by
    refine Lineage.child (by decide +kernel) (by decide +kernel) ?_
    exact Lineage.child (by decide +kernel) (by decide +kernel) (Lineage.root (by decide +kernel))
  have distinct : (chain.map Link.name).Nodup := by decide +kernel
  have clear : ∀ link ∈ chain, ClearBehind link.text link.tags := by decide +kernel
  obtain ⟨out, splices, -, resolved⟩ :=
    resolve_lineage (Loader.finite_ofTemplates _) lineage distinct
  exact ⟨lineage, distinct, clear, out, splices, by decide +kernel, resolved (Or.inl clear)⟩

/-- **A block does not pass a template that has no block of its name**: the block of the page is lost at
the layout, and the base keeps its own. -/
theorem resolve_of_skipped_block :
    let chain := [pageLink, blankLink, baseLink]
    (pageLoader blankLink).Finite ∧ Lineage (pageLoader blankLink) chain ∧
      (chain.map Link.name).Nodup ∧
        ∀ out, Splices 0 baseLink.text (baseLink.blocks.map fun block =>
            ⟨block.body, inherit (chain.filterMap (Link.body? block.info))⟩) out →
          resolve (pageLoader blankLink) pageLink.name pageLink.text ≠ .ok out := by
  intro chain
  have lineage : Lineage (pageLoader blankLink) chain := by
    refine Lineage.child (by decide +kernel) (by decide +kernel) ?_
    exact Lineage.child (by decide +kernel) (by decide +kernel) (Lineage.root (by decide +kernel))
  refine ⟨Loader.finite_ofTemplates _, lineage, by decide +kernel, fun out splices => ?_⟩
  rw [← applyEdits_eq_of_splices splices (List.Perm.refl _)]
  decide +kernel

end TextTemplate
