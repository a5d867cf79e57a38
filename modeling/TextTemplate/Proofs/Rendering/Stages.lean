/-
**What the single passes do to a written tree.**

Three of the four passes are carried out on the text of a tree just as on the tree itself: its
assignments are made, its conditions give way to what is taken, and what is left is put out.

* `Rewrites`: edits that turn a stretch of a text into another one; stretches one behind the other are
  turned one after the other;
* `runAssignments_printNodes`: **the assignments** of a text are those of the tree;
* `agree_chooseBranches`: **the conditions** of a tree without loops give way to what is taken;
* `agree_substitute`: **the output** of a tree without loops and conditions.
-/

import TextTemplate.Proofs.Rendering.Agreement
import TextTemplate.Proofs.Rendering.Outline
import TextTemplate.Proofs.Tags.Grammar

namespace TextTemplate

/-! ### Turning one stretch of a text into another -/

/-- **Edits turn a stretch of a text into another one.** None of them begins behind the stretch. -/
structure Rewrites (here : Position) (old : Text) (edits : List Edit) (new : Text) : Prop where
  splices : Splices here.offset old edits new
  inside : ∀ edit ∈ edits, edit.span.start < (here.after old).offset

namespace Rewrites

variable {here : Position} {old new : Text} {edits : List Edit}

theorem keep (here : Position) (text : Text) : Rewrites here text [] text :=
  ⟨Splices.keep _ _, fun _ member => absurd member List.not_mem_nil⟩

theorem append {old' new' : Text} {edits' : List Edit} (first : Rewrites here old edits new)
    (second : Rewrites (here.after old) old' edits' new') :
    Rewrites here (old ++ old') (edits ++ edits') (new ++ new') := by
  obtain ⟨splices, inside⟩ := first
  obtain ⟨splices', inside'⟩ := second
  rw [Position.after_offset] at inside splices'
  refine ⟨splices.append splices' inside, fun edit member => ?_⟩
  rw [Position.after_append]
  rcases List.mem_append.mp member with before | behind
  · have within := inside edit before
    rw [← Position.after_offset] at within
    exact Nat.lt_of_lt_of_le within (offset_le_after _ _)
  · exact inside' edit behind

/-- A stretch is replaced as a whole. -/
theorem single (filled : here.offset < (here.after old).offset) :
    Rewrites here old [⟨⟨here.offset, (here.after old).offset⟩, new⟩] new := by
  refine ⟨?_, fun edit member => ?_⟩
  · rw [Position.after_offset]
    exact Splices.single _ _ _
  · rw [List.mem_singleton.mp member]
    exact filled

theorem applyEdits_eq (rewrites : Rewrites Position.start old edits new) :
    applyEdits old edits = new :=
  applyEdits_eq_of_splices rewrites.splices (List.Perm.refl _)

end Rewrites

/-! ### Where a stretch stands -/

section Standing

variable {text part part' : Text} {here : Position}

theorem standsAt_left (stands : StandsAt (part ++ part') here.offset text) :
    StandsAt part here.offset text := by
  obtain ⟨front, rest, joined, size⟩ := stands
  exact ⟨front, part' ++ rest, by simp [joined], size⟩

theorem standsAt_whole (text : Text) : StandsAt text Position.start.offset text :=
  ⟨[], [], by simp, rfl⟩

theorem standsAt_right (stands : StandsAt (part ++ part') here.offset text) :
    StandsAt part' (here.after part).offset text := by
  obtain ⟨front, rest, joined, size⟩ := stands
  refine ⟨front ++ part, rest, by simp [joined], ?_⟩
  rw [Text.byteSize_append, Position.after_offset, size]

/-- What stands at a place is the slice from there on. -/
theorem of_eq_of_standsAt (stands : StandsAt part here.offset text) :
    Span.of ⟨here.offset, (here.after part).offset⟩ text = part := by
  obtain ⟨front, rest, joined, size⟩ := stands
  have found := Text.slice?_append front part rest
  rw [Text.byteSize_append, size, ← Position.after_offset, ← joined] at found
  rw [Span.of, Text.slice, found, Option.getD_some]

end Standing

/-! ### Trees between the passes -/

mutual

/-- No loop stands in a part. -/
def Node.LoopFree : Node → Prop
  | .loop .. => False
  | .choice _ body others => LoopFreeNodes body ∧ others.LoopFree
  | _ => True

/-- No loop stands in some parts. -/
def LoopFreeNodes : List Node → Prop
  | [] => True
  | node :: nodes => node.LoopFree ∧ LoopFreeNodes nodes

/-- No loop stands in what is taken where a condition does not hold. -/
def Others.LoopFree : Others → Prop
  | .nothing => True
  | .otherwise body => LoopFreeNodes body
  | .choice _ body others => LoopFreeNodes body ∧ others.LoopFree

end

theorem loopFreeNodes_append {front rest : List Node} (free : LoopFreeNodes front)
    (free' : LoopFreeNodes rest) : LoopFreeNodes (front ++ rest) := by
  induction front with
  | nil => exact free'
  | cons node front ih => exact ⟨free.1, ih free.2⟩

/-- A well-formed part that is no loop and no condition. -/
def Node.IsFlat : Node → Prop
  | .text stretch => Bare stretch
  | .output expression => IsExpression expression
  | .assign name expression => IsName name ∧ IsExpression expression
  | .loop .. | .choice .. => False

theorem wellFormed_of_isFlat {nodes : List Node} (flat : ∀ node ∈ nodes, node.IsFlat) :
    WellFormedNodes nodes := by
  induction nodes with
  | nil => trivial
  | cons node nodes ih =>
    refine ⟨?_, ih fun other member => flat other (List.mem_cons_of_mem node member)⟩
    have first := flat node List.mem_cons_self
    cases node with
    | text | output | assign => exact first
    | loop | choice => exact first.elim

namespace Rendering

variable {renderer : Renderer}

/-! ### Assignments -/

theorem tagsOf_printNodes {nodes : List Node} (valid : WellFormedNodes nodes) :
    tagsOf (printNodes nodes) = pure (tagsOfNodes Position.start nodes) :=
  tagsOf_of_scan (readAs_printNodes nodes valid Position.start).scan

theorem statementsOf_printNodes {nodes : List Node} (valid : WellFormedNodes nodes) :
    statementsOf (printNodes nodes) = pure (statementsIn (tagsOfNodes Position.start nodes)) :=
  statementsOf_of_scan (readAs_printNodes nodes valid Position.start).scan

theorem flatMap_assignments_statementsIn (tags : List Tag) :
    (statementsIn tags).flatMap Tag.assignments = tags.flatMap Tag.assignments := by
  induction tags with
  | nil => rfl
  | cons tag tags ih =>
    cases kind : tag.kind with
    | statement =>
      rw [statementsIn, List.filter_cons_of_pos (by simp [kind]), List.flatMap_cons,
        List.flatMap_cons, ih]
    | expression =>
      have nothing : tag.assignments = [] := by
        simp only [Tag.assignments, Tag.directive?, kind]
      rw [statementsIn, List.filter_cons_of_neg (by simp [kind]), List.flatMap_cons, nothing]
      exact ih

/-- **The assignments of the text of a tree** are those of the tree. -/
theorem runAssignments_printNodes {nodes : List Node} (valid : WellFormedNodes nodes) :
    runAssignments renderer (printNodes nodes) = bindAll renderer (assignmentsOf nodes) := by
  rw [runAssignments, statementsOf_printNodes valid, pure_bind, flatMap_assignments_statementsIn,
    flatMap_assignments_tagsOfNodes nodes valid]
  rfl

/-! ### Output -/

theorem always_ask (plain : renderer.PlainValues) (expression : Text) :
    Always (fun value => Bare value.text) (ask renderer expression) := by
  intro state
  rw [run_ask]
  rcases answer : renderer.evaluator expression state.scope with error | value
  · exact SameOutcome.error _ _
  · exact SameOutcome.ok _ ⟨rfl, plain _ _ _ answer⟩

/-- The edit that replaces a tag by its output. -/
abbrev outputEdit (renderer : Renderer) (tag : Tag) : Rendering Edit := do
  return Edit.mk tag.span (← outputOf renderer tag)

theorem inner_expressionAt (here : Position) {inner : Text} (tight : inner.trim = inner) :
    (expressionAt here inner).inner = inner :=
  trim_between_blanks tight

theorem outputOf_expressionAt (here : Position) {expression : Text}
    (valid : IsExpression expression) :
    outputOf renderer (expressionAt here expression) =
      do return (← ask renderer expression).text := by
  have filled : expression.isEmpty = false := by
    rw [List.isEmpty_eq_false_iff]
    exact valid.ne_nil
  have loud : isSilent renderer (expressionAt here expression) = false := by
    rw [isSilent, inner_expressionAt here valid.trimmed, filled]
    rfl
  rw [outputOf, if_neg (by rw [loud]; decide), inner_expressionAt here valid.trimmed]

theorem outputOf_statementAt (renderer : Renderer) {here : Position} {inner argument : Text} {keyword : String}
    (found : (statementAt here inner).directive? = some (keyword, argument))
    (control : keyword ∈ controlKeywords) :
    outputOf renderer (statementAt here inner) = return [] := by
  have silent : isSilent renderer (statementAt here inner) = true := by
    rw [isSilent, found, Bool.or_eq_true]
    right
    simp [isDirective, control]
  rw [outputOf, if_pos silent]

theorem agree_outputNode (plain : renderer.PlainValues) {node : Node} (flat : node.IsFlat)
    (here : Position) :
    Agree (fun edits out => Rewrites here node.print edits out ∧ Bare out)
      ((node.tags here).mapM (outputEdit renderer)) (outputNode renderer node) := by
  cases node with
  | text text => exact agree_pure ⟨Rewrites.keep here text, flat⟩
  | output expression =>
    have asked := always_ask plain expression
    simp only [Node.tags, List.mapM_cons, List.mapM_nil, outputEdit, outputOf_expressionAt here flat,
      outputNode, bind_assoc, pure_bind]
    refine asked.bind fun value value' same => agree_pure ?_
    obtain ⟨rfl, bare⟩ := same
    exact ⟨Rewrites.single (offset_lt_after_expressionTag here _), bare⟩
  | assign name expression =>
    have silent := outputOf_statementAt renderer (directive?_assignHead here flat.1 flat.2)
      (by decide)
    simp only [Node.tags, List.mapM_cons, List.mapM_nil, outputEdit, silent, outputNode, pure_bind]
    exact agree_pure ⟨Rewrites.single (offset_lt_after_statementTag here _), by decide⟩
  | loop => exact flat.elim
  | choice => exact flat.elim

theorem outputNodes_cons (node : Node) (nodes : List Node) :
    outputNodes renderer (node :: nodes) =
      do return (← outputNode renderer node) ++ (← outputNodes renderer nodes) := by
  simp only [outputNodes, List.mapM_cons, bind_assoc, pure_bind, List.flatten_cons]

theorem agree_outputNodes (plain : renderer.PlainValues) {nodes : List Node}
    (flat : ∀ node ∈ nodes, node.IsFlat) (here : Position) :
    Agree (fun edits out => Rewrites here (printNodes nodes) edits out ∧ Bare out)
      ((tagsOfNodes here nodes).mapM (outputEdit renderer)) (outputNodes renderer nodes) := by
  induction nodes generalizing here with
  | nil => exact agree_pure ⟨Rewrites.keep here [], by decide⟩
  | cons node nodes ih =>
    rw [outputNodes_cons]
    refine agree_mapM_append (agree_outputNode plain (flat node List.mem_cons_self) here)
      (ih (fun other member => flat other (List.mem_cons_of_mem node member)) _) ?_
    rintro edits edits' out out' ⟨rewrites, bare⟩ ⟨rewrites', bare'⟩
    exact ⟨rewrites.append rewrites', bare.append bare'⟩

/-- Equal texts without delimiters. -/
abbrev SameBare (text text' : Text) : Prop :=
  text = text' ∧ Bare text'

/-- **The output of a tree without loops and conditions.** -/
theorem agree_substitute (plain : renderer.PlainValues) {nodes : List Node}
    (flat : ∀ node ∈ nodes, node.IsFlat) :
    Agree SameBare (substitute renderer (printNodes nodes)) (outputNodes renderer nodes) := by
  have agree := agree_outputNodes plain flat Position.start
  rw [substitute, outputEdits, tagsOf_printNodes (wellFormed_of_isFlat flat), pure_bind]
  refine agree.mapLeft ?_
  rintro edits out ⟨rewrites, bare⟩
  exact ⟨rewrites.applyEdits_eq, bare⟩

/-! ### Conditions -/

/-- The edit that replaces a group by its chosen branch, in which `branchLoop` replaces the groups
inside. -/
abbrev branchEdit (renderer : Renderer) (depth : Nat) (text : Text) (group : BranchGroup) :
    Rendering Edit := do
  return Edit.mk group.span (← branchLoop renderer depth (← chosenText renderer text group.branches))

/-- A text and a tree without loops and conditions that is written as it. -/
abbrev WrittenFlat (text : Text) (nodes : List Node) : Prop :=
  text = printNodes nodes ∧ ∀ node ∈ nodes, node.IsFlat

/-- Edits that turn a stretch of a text into a tree without loops and conditions. -/
abbrev RewritesFlat (here : Position) (old : Text) (edits : List Edit) (nodes : List Node) : Prop :=
  Rewrites here old edits (printNodes nodes) ∧ ∀ node ∈ nodes, node.IsFlat

/-- The groups of a text are replaced where the outermost ones are, given how deep they lie. -/
theorem agree_branchLoop (nodes : List Node) (valid : WellFormedNodes nodes) {depth : Nat}
    (deep : (printNodes nodes).length < depth)
    (agree : ∀ depth, (printNodes nodes).length ≤ depth →
      Agree (RewritesFlat Position.start (printNodes nodes))
        ((groupsOfNodes Position.start nodes).mapM (branchEdit renderer depth (printNodes nodes)))
        (chooseNodes renderer nodes)) :
    Agree WrittenFlat (branchLoop renderer depth (printNodes nodes))
      (chooseNodes renderer nodes) := by
  obtain ⟨depth, rfl⟩ := Nat.exists_eq_succ_of_ne_zero (Nat.ne_zero_of_lt deep)
  have tops := (outlined_groups nodes valid Position.start).outermost_eq
    (rfl : groupBranches [] [] = [])
  rw [branchLoop, branchEdits, statementsOf_printNodes valid, pure_bind, outermostGroups, tops]
  refine (agree depth (Nat.le_of_lt_succ deep)).mapLeft ?_
  rintro edits chosen ⟨rewrites, flat⟩
  exact ⟨rewrites.applyEdits_eq, flat⟩

/-- A part that is kept. -/
theorem agree_kept (node : Node) (flat : node.IsFlat) (here : Position) :
    Agree (RewritesFlat here node.print) (pure []) (pure [node]) := by
  refine agree_pure ⟨?_, by simp [flat]⟩
  rw [printNodes_singleton]
  exact Rewrites.keep here node.print

/-- A condition is the only outermost group in its text. -/
theorem groups_choice (here : Position) (condition : Text) (body : List Node) (others : Others) :
    let inside := here.after (statementTag ("if ".toList ++ condition))
    let behind := inside.after (printNodes body)
    (Node.choice condition body others).groups here =
      [⟨⟨here.offset, (here.after (Node.choice condition body others).print).offset⟩,
        ⟨.holds condition, ⟨inside.offset, behind.offset⟩⟩ :: others.branches behind⟩] := by
  simp only [Node.groups, groupAt, Node.print, List.append_assoc, Position.after_append]

/-- A stretch that is replaced as a whole by what is chosen. -/
theorem agree_replaced {here : Position} {old : Text} {branch : Rendering Text}
    {chosen : Rendering (List Node)} (filled : here.offset < (here.after old).offset)
    (agree : Agree WrittenFlat branch chosen) :
    Agree (RewritesFlat here old)
      (do return [Edit.mk ⟨here.offset, (here.after old).offset⟩ (← branch)]) chosen := by
  refine agree.mapLeft ?_
  rintro text nodes ⟨rfl, flat⟩
  exact ⟨Rewrites.single filled, flat⟩

theorem length_statementTag (inner : Text) : (statementTag inner).length = inner.length + 6 := by
  simp [statementTag, TagKind.opener, TagKind.closer]

mutual

theorem agree_chooseNode (node : Node) (valid : node.WellFormed) (free : node.LoopFree)
    {depth : Nat} (deep : node.print.length ≤ depth) {here : Position} {text : Text}
    (stands : StandsAt node.print here.offset text) :
    Agree (RewritesFlat here node.print) ((node.groups here).mapM (branchEdit renderer depth text))
      (chooseNode renderer node) := by
  match node with
  | .text words => exact agree_kept (.text words) valid here
  | .output expression => exact agree_kept (.output expression) valid here
  | .assign name expression => exact agree_kept (.assign name expression) valid here
  | .loop .. => exact free.elim
  | .choice condition body others =>
    obtain ⟨conditional, inner, others'⟩ := valid
    obtain ⟨free, free'⟩ := free
    simp only [Node.print, List.append_assoc] at stands
    have body' := standsAt_left (standsAt_right stands)
    have behind' := standsAt_left (standsAt_right (standsAt_right stands))
    have deep' : (printNodes body).length < depth ∧ others.print.length < depth := by
      simp only [Node.print, List.length_append] at deep
      have opens := length_statementTag ("if ".toList ++ condition)
      omega
    have filled : here.offset < (here.after (Node.choice condition body others).print).offset :=
      offset_lt_after here (by simp [Node.print, statementTag, TagKind.opener])
    rw [groups_choice]
    simp only [List.mapM_cons, List.mapM_nil, pure_bind, bind_assoc, branchEdit, chosenText, takes,
      chooseNode, of_eq_of_standsAt body']
    refine (Agree.refl _).bind fun holds holds' same => ?_
    subst same
    cases holds with
    | true =>
      simp only [if_true, pure_bind]
      refine agree_replaced filled ?_
      exact agree_branchLoop body inner deep'.1 fun _ deep =>
        agree_chooseNodes body inner free deep (standsAt_whole _)
    | false =>
      have replaced := agree_replaced filled
        (agree_chooseOthers others others' free' deep'.2 behind')
      simp only [bind_assoc] at replaced
      simp only [Bool.false_eq_true, if_false]
      exact replaced

theorem agree_chooseNodes (nodes : List Node) (valid : WellFormedNodes nodes)
    (free : LoopFreeNodes nodes) {depth : Nat} (deep : (printNodes nodes).length ≤ depth)
    {here : Position} {text : Text} (stands : StandsAt (printNodes nodes) here.offset text) :
    Agree (RewritesFlat here (printNodes nodes))
      ((groupsOfNodes here nodes).mapM (branchEdit renderer depth text))
      (chooseNodes renderer nodes) := by
  match nodes with
  | [] => exact agree_pure ⟨Rewrites.keep here [], by simp⟩
  | node :: nodes =>
    rw [printNodes, List.length_append] at deep
    have deep' : node.print.length ≤ depth ∧ (printNodes nodes).length ≤ depth := by omega
    refine agree_mapM_append (agree_chooseNode node valid.1 free.1 deep'.1 (standsAt_left stands))
      (agree_chooseNodes nodes valid.2 free.2 deep'.2 (standsAt_right stands)) ?_
    rintro edits edits' chosen chosen' ⟨rewrites, flat⟩ ⟨rewrites', flat'⟩
    rw [RewritesFlat, printNodes_append]
    refine ⟨rewrites.append rewrites', fun other member => ?_⟩
    rcases List.mem_append.mp member with inside | inside
    · exact flat other inside
    · exact flat' other inside

theorem agree_chooseOthers (others : Others) (valid : others.WellFormed) (free : others.LoopFree)
    {depth : Nat} (deep : others.print.length < depth) {here : Position} {text : Text}
    (stands : StandsAt others.print here.offset text) :
    Agree WrittenFlat
      (do branchLoop renderer depth (← chosenText renderer text (others.branches here)))
      (chooseOthers renderer others) := by
  match others with
  | .nothing =>
    exact agree_branchLoop [] trivial deep fun _ _ => agree_pure ⟨Rewrites.keep _ [], by simp⟩
  | .otherwise body =>
    have body' := standsAt_right stands
    have deep' : (printNodes body).length < depth := by
      simp only [Others.print, List.length_append] at deep
      omega
    simp only [Others.branches, chosenText, takes, pure_bind, of_eq_of_standsAt body', if_true]
    exact agree_branchLoop body valid deep' fun _ deep =>
      agree_chooseNodes body valid free deep (standsAt_whole _)
  | .choice condition body others =>
    obtain ⟨conditional, inner, others'⟩ := valid
    obtain ⟨free, free'⟩ := free
    simp only [Others.print, List.append_assoc] at stands
    have body' := standsAt_left (standsAt_right stands)
    have deep' : (printNodes body).length < depth ∧ others.print.length < depth := by
      simp only [Others.print, List.length_append] at deep
      omega
    simp only [Others.branches, chosenText, takes, bind_assoc, of_eq_of_standsAt body']
    refine (Agree.refl _).bind fun holds holds' same => ?_
    subst same
    cases holds with
    | true =>
      simp only [if_true, pure_bind]
      exact agree_branchLoop body inner deep'.1 fun _ deep =>
        agree_chooseNodes body inner free deep (standsAt_whole _)
    | false =>
      simp only [Bool.false_eq_true, if_false]
      exact agree_chooseOthers others others' free' deep'.2
        (standsAt_right (standsAt_right stands))

end

/-- **The conditions of a tree without loops give way to what is taken.** -/
theorem agree_chooseBranches {nodes : List Node} (valid : WellFormedNodes nodes)
    (free : LoopFreeNodes nodes) :
    Agree WrittenFlat (chooseBranches renderer (printNodes nodes)) (chooseNodes renderer nodes) :=
  agree_branchLoop nodes valid (Nat.lt_succ_self _) fun _ deep =>
    agree_chooseNodes nodes valid free deep (standsAt_whole _)

end Rendering
end TextTemplate
