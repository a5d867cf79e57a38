/-
**The passes over composed texts.**

Each pass of a rendering scans the text that the pass before has made. As long as that text is composed
of tags and of text that may meet, so is what lies between any two of its tags, and so is the text that
the pass makes. What a turn of a loop renders to is a stretch of text without tags.

* `Branch.Between`, `between_of_mem_groupBranches`: loops and branches lie between tags;
* `Covers`: a contract that allows what happens to composed texts;
* `Covers.expandLoops`, `Covers.branchLoop`, `Covers.substitute`: **so the passes meet it** and give
  composed texts;
* `Covers.guardedRepetition`: **so does a repetition of a loop's body**, by induction on its depth;
* `Covers.guardedRender`: **so does the guarded rendering** of a composed text.
-/

import TextTemplate.Proofs.Edits.Batches
import TextTemplate.Proofs.Rendering.Contract
import TextTemplate.Proofs.Tags.Composed

namespace TextTemplate

/-! ### Enclosures and groups between tags -/

/-- The opening tag of an enclosure has the information of the enclosure. -/
theorem opens_of_mem_pairTags {α : Type} {role : Tag → Role α} {opened : List (α × Tag)}
    {tags : List Tag} (opens : ∀ entry ∈ opened, role entry.2 = .opens entry.1)
    {enclosure : Enclosure α} (member : enclosure ∈ pairTags role opened tags) :
    role enclosure.opening = .opens enclosure.info := by
  fun_induction pairTags role opened tags with
  | case1 => exact absurd member List.not_mem_nil
  | case2 tag tags opened info opens' ih =>
    exact ih (List.forall_mem_cons.mpr ⟨opens', opens⟩) member
  | case3 tag tags info opening opened closes ih =>
    obtain ⟨first, opens⟩ := List.forall_mem_cons.mp opens
    rcases List.mem_cons.mp member with rfl | later
    · exact first
    · exact ih opens later
  | case4 tag tags closes ih => exact ih opens member
  | case5 tag tags opened neither ih => exact ih opens member

/-- An outermost loop opens and closes with statements of its text. -/
theorem tags_of_mem_outermostLoops {statements : List Tag} {loop : Enclosure LoopHead}
    (member : loop ∈ Rendering.outermostLoops statements) :
    loop.opening ∈ statements ∧ loop.closing ∈ statements ∧
      loopRole loop.opening = .opens loop.info := by
  have paired := (mem_outermost.mp member).1
  obtain ⟨closing, opening⟩ := mem_of_mem_pairTags loopRole paired
  exact ⟨opening.resolve_left List.not_mem_nil, closing,
    opens_of_mem_pairTags (fun entry absent => absurd absent List.not_mem_nil) paired⟩

/-- A branch between two tags, with a condition that stands in a tag. -/
structure Branch.Between (tags : List Tag) (branch : Branch) : Prop where
  begins : ∃ tag ∈ tags, tag.stop.offset = branch.body.start
  ends : EndsAt tags branch.body.stop
  guard : ∀ condition, branch.guard = .holds condition → ∃ tag ∈ tags, condition <:+: tag.body

/-- A group between two tags, and so are its branches. -/
structure BranchGroup.Between (tags : List Tag) (group : BranchGroup) : Prop where
  begins : EndsAt tags group.span.start
  ends : ∃ tag ∈ tags, tag.stop.offset = group.span.stop
  branches : ∀ branch ∈ group.branches, branch.Between tags

/-- An open group that begins with a tag, and whose branches lie between tags. -/
structure OpenGroup.Between (tags : List Tag) (group : OpenGroup) : Prop where
  begins : EndsAt tags group.start
  finished : ∀ branch ∈ group.finished, branch.Between tags
  guard : ∀ condition, group.guard = .holds condition → ∃ tag ∈ tags, condition <:+: tag.body
  bodyStart : ∃ tag ∈ tags, tag.stop.offset = group.bodyStart

section Groups

variable {all : List Tag} {tag : Tag}

theorem Guard.infix_of_ofArgument {keyword : String} {argument condition : Text}
    (directive : tag.directive? = some (keyword, argument))
    (same : Guard.ofArgument argument = .holds condition) : condition <:+: tag.body := by
  unfold Guard.ofArgument at same
  split at same
  · cases same
  · cases same
    exact Tag.directive?_within directive

theorem OpenGroup.Between.endBranch {group : OpenGroup} (between : group.Between all)
    (member : tag ∈ all) : ∀ branch ∈ group.endBranch tag, branch.Between all :=
  List.forall_mem_cons.mpr
    ⟨⟨between.bodyStart, ⟨tag, member, rfl⟩, between.guard⟩, between.finished⟩

theorem OpenGroup.Between.next {group : OpenGroup} (between : group.Between all)
    (member : tag ∈ all) {guard : Guard}
    (within : ∀ condition, guard = .holds condition → condition <:+: tag.body) :
    (group.next tag guard).Between all :=
  ⟨between.begins, between.endBranch member,
    fun condition same => ⟨tag, member, within condition same⟩, ⟨tag, member, rfl⟩⟩

/-- **The groups of branches lie between tags**, and so do their branches. -/
theorem between_of_mem_groupBranches {opened : List OpenGroup} {tags : List Tag}
    (opened' : ∀ group ∈ opened, group.Between all) (among : ∀ tag ∈ tags, tag ∈ all)
    {group : BranchGroup} (member : group ∈ groupBranches opened tags) : group.Between all := by
  fun_induction groupBranches opened tags with
  | case1 => exact absurd member List.not_mem_nil
  | case2 tag tags argument opened directive ih =>
    obtain ⟨here, among⟩ := List.forall_mem_cons.mp among
    refine ih (List.forall_mem_cons.mpr ⟨?_, opened'⟩) among member
    exact ⟨⟨tag, here, rfl⟩, fun branch absent => absurd absent List.not_mem_nil,
      fun condition same => ⟨tag, here, Guard.infix_of_ofArgument directive same⟩, ⟨tag, here, rfl⟩⟩
  | case3 tag tags argument group opened directive ih =>
    obtain ⟨here, among⟩ := List.forall_mem_cons.mp among
    obtain ⟨first, opened'⟩ := List.forall_mem_cons.mp opened'
    refine ih (List.forall_mem_cons.mpr ⟨first.next here fun condition same => ?_, opened'⟩) among member
    exact Guard.infix_of_ofArgument directive same
  | case4 tag tags argument group opened directive ih =>
    obtain ⟨here, among⟩ := List.forall_mem_cons.mp among
    obtain ⟨first, opened'⟩ := List.forall_mem_cons.mp opened'
    refine ih (List.forall_mem_cons.mpr ⟨first.next here fun condition same => ?_, opened'⟩) among member
    cases same
  | case5 tag tags argument group' opened directive ih =>
    obtain ⟨here, among⟩ := List.forall_mem_cons.mp among
    obtain ⟨first, opened'⟩ := List.forall_mem_cons.mp opened'
    rcases List.mem_cons.mp member with rfl | later
    · exact ⟨first.begins, ⟨tag, here, rfl⟩, fun branch inside =>
        first.endBranch here branch (List.mem_reverse.mp inside)⟩
    · exact ih opened' among later
  | case6 tag tags opened _ _ _ _ ih =>
    exact ih opened' (List.forall_mem_cons.mp among).2 member

end Groups

/-! ### Stretches -/

section Stretch

variable {neighbours : Neighbours}

/-- Stretches of text that stand between tags may be put together. -/
theorem stretch_flatten (texts : List Text)
    (stretches : ∀ text ∈ texts, Stretch neighbours true true text) :
    Stretch neighbours true true texts.flatten := by
  induction texts with
  | nil => exact stretch_nil
  | cons text texts ih =>
    obtain ⟨first, later⟩ := List.forall_mem_cons.mp stretches
    exact first.append (ih later)

/-- A tag of a composed text is one of those that there may be. -/
theorem Composed.inside_of_mem {inside : TagKind → Text → Prop} {front back : Bool} {text : Text}
    (composed : Composed neighbours inside front back text) {found : List Tag}
    (scanned : scan text = .ok found) {tag : Tag} (member : tag ∈ found) : inside tag.kind tag.body := by
  obtain ⟨pieces, last, cut, rfl⟩ := composed.exists_cut scanned
  obtain ⟨before, piece, after, rfl, rfl⟩ := exists_piece_of_mem_tagsFrom member
  exact (cut.composes.of_mem piece (by simp)).2.2

end Stretch

namespace Rendering

/-- **A text without tags has no loops.** -/
theorem expandLoops_of_unopened {renderer : Renderer} {repetition : Text → Rendering Text}
    {text : Text} (unopened : Unopened text) :
    expandLoops renderer repetition text = (do
      let _ ← tagsOf text
      return text) := by
  rcases scanned : scan text with error | tags
  · rw [expandLoops, loopEdits, statementsOf, tagsOf_of_fault scanned]
    rfl
  · obtain rfl := scan_of_unopened unopened scanned
    rw [expandLoops_of_no_loops renderer repetition scanned outermostLoops_nil, tagsOf_of_scan scanned,
      pure_bind]

/-! ### Contracts for composed texts -/

/-- The texts of all values that an evaluator gives may stand between tags. -/
def StretchValues (neighbours : Neighbours) (renderer : Renderer) : Prop :=
  ∀ expression scope value, renderer.evaluator expression scope = .ok value →
    Stretch neighbours true true value.text

/-- **A contract covers composed texts**: what stands in a tag may be evaluated, and the faults of
composed texts that cannot be scanned are allowed. -/
structure Covers (contract : Contract) (renderer : Renderer) (neighbours : Neighbours)
    (inside : TagKind → Text → Prop) : Prop where
  asks : ∀ {kind : TagKind} {body : Text}, inside kind body → Askable contract renderer body
  scans : ∀ {front back : Bool} {text : Text} {error : ScanError},
    Composed neighbours inside front back text → scan text = .error error →
      contract.allows (.malformed error)

/-- **The guard of a rendering gives stretches of text**: it may refuse, and what it lets pass is such a
stretch; or all values are. -/
def Settles (contract : Contract) (renderer : Renderer) (neighbours : Neighbours) : Prop :=
  (contract.allows refusal ∧ ∀ text, Quiet text → Stretch neighbours true true text) ∨
    StretchValues neighbours renderer

/-- A sound batch of edits that replace tags of a text, and what they enclose, by composed texts. -/
def ComposedBatch (neighbours : Neighbours) (inside : TagKind → Text → Prop) (text : Text)
    (edits : List Edit) : Prop :=
  ∃ found, scan text = .ok found ∧ SoundSpans text (edits.map Edit.span) ∧
    ∀ edit ∈ edits, EndsAt found edit.span.start ∧ (∃ tag ∈ found, tag.stop.offset = edit.span.stop) ∧
      Composed neighbours inside true true edit.replacement

theorem ComposedBatch.composed {neighbours : Neighbours} {inside : TagKind → Text → Prop}
    {front back : Bool} {text : Text} {edits : List Edit}
    (batch : ComposedBatch neighbours inside text edits)
    (composed : Composed neighbours inside front back text) :
    Composed neighbours inside front back (applyEdits text edits) := by
  obtain ⟨found, scanned, sound, placed⟩ := batch
  exact composed.applyEdits scanned sound placed

namespace Covers

variable {contract : Contract} {renderer : Renderer} {neighbours : Neighbours}
  {inside : TagKind → Text → Prop} (covers : Covers contract renderer neighbours inside)
include covers

section Passes

variable {front back : Bool} {text : Text} (composed : Composed neighbours inside front back text)
include composed

theorem tagsOf : Meets contract (fun tags => scan text = .ok tags) (tagsOf text) :=
  meets_tagsOf fun _ => covers.scans composed

theorem statementsOf :
    Meets contract (fun tags => ∃ all, scan text = .ok all ∧ tags.Sublist all) (statementsOf text) :=
  (covers.tagsOf composed).bind fun all scanned => meets_pure ⟨all, scanned, List.filter_sublist⟩

/-- What stands in a tag of a composed text may be evaluated. -/
theorem askable {found : List Tag} (scanned : scan text = .ok found) {tag : Tag} (member : tag ∈ found)
    {part : Text} (within : part <:+: tag.body) : Askable contract renderer part :=
  (covers.asks (composed.inside_of_mem scanned member)).within within

/-- **The assignments of a composed text.** -/
theorem runAssignments : Meets contract (fun _ => True) (runAssignments renderer text) := by
  refine (covers.statementsOf composed).bind fun statements ⟨all, scanned, among⟩ => ?_
  refine Meets.forM fun assignment member => ?_
  obtain ⟨tag, listed, held⟩ := List.mem_flatMap.mp member
  have may := covers.askable composed scanned (among.mem listed) (Tag.expression_within held)
  exact may.ask.bind fun value _ => meets_changeScope _

/-- **The loops of a composed text**, if the repetitions of shorter texts give stretches of text. -/
theorem loopEdits {repetition : Text → Rendering Text}
    (turns : ∀ body, Composed neighbours inside true true body → body.length < text.length →
      Meets contract (Stretch neighbours true true) (repetition body)) :
    Meets contract (ComposedBatch neighbours inside text) (loopEdits renderer repetition text) := by
  refine (covers.statementsOf composed).bind fun statements ⟨all, scanned, among⟩ => ?_
  refine (Meets.mapM_edits Enclosure.span (Stretch neighbours true true) fun loop member => ?_).mono
    fun edits ⟨spans, each⟩ => ?_
  · obtain ⟨opening, closing, opens⟩ := tags_of_mem_outermostLoops member
    have opening := among.mem opening
    have body := composed.slice scanned ⟨_, opening, rfl⟩ ⟨_, among.mem closing, rfl⟩
    have shorter : (loop.body.of text).length < text.length := length_slice_lt scanned opening _
    have may := covers.askable composed scanned opening (iterable_within opens)
    exact (meets_runLoop stretch_flatten (turns _ body shorter) may).edit loop.span
  · refine ⟨all, scanned, spans ▸ soundSpans_outermostLoops scanned among, fun edit member => ?_⟩
    obtain ⟨⟨loop, outer, same⟩, stretch⟩ := each edit member
    obtain ⟨opening, closing, -⟩ := tags_of_mem_outermostLoops outer
    rw [same]
    exact ⟨⟨_, among.mem opening, rfl⟩, ⟨_, among.mem closing, rfl⟩, Composed.of_stretch stretch⟩

theorem expandLoops {repetition : Text → Rendering Text}
    (turns : ∀ body, Composed neighbours inside true true body → body.length < text.length →
      Meets contract (Stretch neighbours true true) (repetition body)) :
    Meets contract (Composed neighbours inside front back) (expandLoops renderer repetition text) :=
  (covers.loopEdits composed turns).bind fun _ batch => meets_pure (batch.composed composed)

/-- What takes the places of the tags of a composed text. -/
theorem outputEdits :
    Meets contract (fun edits => ∃ found, scan text = .ok found ∧
      edits.map Edit.span = found.map Tag.span ∧ ∀ edit ∈ edits,
        StretchValues neighbours renderer → Stretch neighbours true true edit.replacement)
      (outputEdits renderer text) := by
  refine (covers.tagsOf composed).bind fun found scanned => ?_
  refine (Meets.mapM_edits Tag.span
    (fun output => StretchValues neighbours renderer → Stretch neighbours true true output)
    fun tag member => ?_).mono fun edits ⟨spans, each⟩ =>
      ⟨found, scanned, spans, fun edit member => (each edit member).2⟩
  have output : Meets contract
      (fun output => StretchValues neighbours renderer → Stretch neighbours true true output)
      (outputOf renderer tag) := by
    unfold outputOf
    split
    · exact meets_pure fun _ => stretch_nil
    · refine (covers.askable composed scanned member tag.inner_within).ask.bind ?_
      exact fun value ⟨scope, answer⟩ => meets_pure fun values => values _ _ _ answer
  exact output.edit tag.span

/-- **The output of a composed text** is a stretch of text, if all values are. -/
theorem substitute :
    Meets contract (fun result => StretchValues neighbours renderer → Stretch neighbours front back result)
      (substitute renderer text) :=
  (covers.outputEdits composed).bind fun _ ⟨_, scanned, spans, stretches⟩ => meets_pure fun values =>
    composed.stretch_of_replaced scanned spans fun edit member => stretches edit member values

/-- **The branches of a composed text**, if what replaces the groups in shorter texts is composed. -/
theorem branchEdits {inner : Text → Rendering Text}
    (nested : ∀ chosen, Composed neighbours inside true true chosen → chosen.length < text.length →
      Meets contract (Composed neighbours inside true true) (inner chosen)) :
    Meets contract (ComposedBatch neighbours inside text) (branchEdits renderer inner text) := by
  refine (covers.statementsOf composed).bind fun statements ⟨all, scanned, among⟩ => ?_
  have groups : ∀ group ∈ outermostGroups statements, group.Between all := fun group member =>
    between_of_mem_groupBranches (fun group absent => absurd absent List.not_mem_nil)
      (fun tag listed => among.mem listed) (mem_outermost.mp member).1
  have chosen : ∀ group ∈ outermostGroups statements, Meets contract
      (fun chosen => Composed neighbours inside true true chosen ∧ chosen.length < text.length)
      (chosenText renderer text group.branches) := by
    intro group member
    obtain ⟨⟨tag, listed, -⟩, -, branches⟩ := groups group member
    refine meets_chosenText (fun branch among condition same => ?_) (fun branch among => ?_) ?_
    · obtain ⟨tag, listed, within⟩ := (branches branch among).guard condition same
      exact covers.askable composed scanned listed within
    · obtain ⟨⟨tag, listed, start⟩, ends, -⟩ := branches branch among
      have shorter := length_slice_lt scanned listed branch.body.stop
      rw [start] at shorter
      exact ⟨composed.slice scanned ⟨tag, listed, start⟩ ends, shorter⟩
    · exact ⟨composed_nil, Nat.lt_of_le_of_lt (Nat.zero_le _) (length_slice_lt scanned listed 0)⟩
  refine (Meets.mapM_edits BranchGroup.span (Composed neighbours inside true true)
    fun group member => ?_).mono fun edits ⟨spans, each⟩ => ?_
  · exact (chosen group member).bind fun text' ⟨composed', shorter⟩ =>
      (nested text' composed' shorter).edit group.span
  · refine ⟨all, scanned, spans ▸ soundSpans_outermostGroups scanned among, fun edit member => ?_⟩
    obtain ⟨⟨group, outer, same⟩, composed'⟩ := each edit member
    rw [same]
    exact ⟨(groups group outer).begins, (groups group outer).ends, composed'⟩

end Passes

/-- **The branches of a composed text are chosen**, if the bound is greater than the text is long. -/
theorem branchLoop {depth : Nat} {front back : Bool} {text : Text}
    (composed : Composed neighbours inside front back text) (shallow : text.length < depth) :
    Meets contract (Composed neighbours inside front back) (branchLoop renderer depth text) := by
  induction depth generalizing front back text with
  | zero => exact absurd shallow (Nat.not_lt_zero _)
  | succ depth ih =>
    have nested : ∀ chosen, Composed neighbours inside true true chosen →
        chosen.length < text.length →
          Meets contract (Composed neighbours inside true true)
            (Rendering.branchLoop renderer depth chosen) :=
      fun chosen composed' shorter => ih composed' (by omega)
    exact (covers.branchEdits composed nested).bind fun edits batch =>
      meets_pure (batch.composed composed)

section Guarded

variable (settles : Settles contract renderer neighbours)
include settles

/-- **The guarded output of a composed text** is a stretch of text. -/
theorem guardedSubstitute {text : Text} (composed : Composed neighbours inside true true text) :
    Meets contract (Stretch neighbours true true) (guardedSubstitute renderer text) := by
  refine (covers.substitute composed).bind fun result stretch => ?_
  split
  · rename_i quiet
    exact meets_pure (settles.elim (fun passes => passes.2 result quiet) stretch)
  · rename_i refused
    rcases settles with ⟨allowed, -⟩ | values
    · exact meets_throw _ allowed
    · exact absurd (stretch values).quiet refused

/-- **The guarded passes over a composed text** give a stretch of text, if the repetitions of shorter
texts do. -/
theorem guardedPasses {text : Text} (composed : Composed neighbours inside true true text)
    {repetition : Text → Rendering Text}
    (turns : ∀ body, Composed neighbours inside true true body → body.length < text.length →
      Meets contract (Stretch neighbours true true) (repetition body)) :
    Meets contract (Stretch neighbours true true) (guardedPasses renderer repetition text) :=
  (covers.runAssignments composed).bind fun _ _ =>
    (covers.expandLoops composed turns).bind fun _ expanded =>
      (covers.branchLoop expanded (Nat.lt_succ_self _)).bind fun _ chosen =>
        covers.guardedSubstitute settles chosen

/-- **A repetition of a loop's body** gives a stretch of text, if the body is composed and shorter than
the bound. -/
theorem guardedRepetition {depth : Nat} {body : Text}
    (composed : Composed neighbours inside true true body) (shallow : body.length < depth) :
    Meets contract (Stretch neighbours true true) (guardedRepetition renderer depth body) := by
  induction depth generalizing body with
  | zero => exact absurd shallow (Nat.not_lt_zero _)
  | succ depth ih =>
    have turns : ∀ inner, Composed neighbours inside true true inner → inner.length < body.length →
        Meets contract (Stretch neighbours true true)
          (Rendering.guardedRepetition renderer depth inner) :=
      fun inner composed' shorter => ih composed' (by omega)
    refine (covers.guardedPasses settles composed turns).bind fun text stretch => ?_
    -- the rendered text has no loops
    rw [expandLoops_of_unopened stretch.unopened]
    exact (covers.tagsOf (Composed.of_stretch stretch)).bind fun _ _ => meets_pure stretch

/-- **The guarded rendering of a composed text.** -/
theorem guardedRender {text : Text} {front back : Bool}
    (composed : Composed neighbours inside front back text) :
    Meets contract (fun _ => True) (guardedRender renderer text) := by
  refine (covers.runAssignments composed).bind fun _ _ => ?_
  refine (covers.expandLoops composed fun body composed' shorter =>
    covers.guardedRepetition settles composed' shorter).bind fun expanded composed' => ?_
  exact (covers.branchLoop composed' (Nat.lt_succ_self _)).bind fun chosen composed'' =>
    (covers.substitute composed'').mono fun _ _ => trivial

end Guarded

end Covers

end Rendering
end TextTemplate
