/-
**A written tree renders as the tree says.**

A rendering works on text: each pass scans the result of the pass before and splices texts into it,
and the body of a loop goes through all passes for every item. On a template that is written from a
tree this amounts to the stages that `rendered` describes, by an induction over the nesting of loops:
the edits of the outermost loops turn the text of the tree into the text of a tree without loops.

* `agree_runLoop`: a loop is carried out as `forEach` says, if its body is;
* `agree_expandNodes`: **the loops of a tree** give way to the texts that they render to;
* `renderText_printNodes`: **the text of a tree renders to what the tree renders to**, with the same
  outcome and the same scope.
-/

import TextTemplate.Proofs.Rendering.Stages

namespace TextTemplate
namespace Rendering

variable {renderer : Renderer}

/-! ### One loop -/

section Loop

variable {repetition body : Rendering Text}

/-- **The turns of a loop** are carried out item by item; each one tells its body what comes before its
item and behind it. -/
theorem agree_repeatBody (agree : Agree SameBare repetition body) (name : String)
    {length : Nat} (before items : List Value) (all : length = (before ++ items).length)
    (done : List Text) :
    Agree (fun text texts =>
        text = done.reverse.flatten ++ texts.flatten ∧ ∀ text ∈ texts, Bare text)
      (repeatBody repetition name length before.length done items) (eachItem name body before items) := by
  induction items generalizing before done with
  | nil => exact agree_pure ⟨by simp, by simp⟩
  | cons item items ih =>
    have enters : enterItem name before.length length item = changeScope fun scope =>
        (scope.set "loop" (loopRecord before items)).set name item := by
      rw [enterItem, all, loopInfo_eq_loopRecord]
      rfl
    rw [repeatBody, eachItem, enters]
    refine (Agree.refl _).bind fun _ _ _ => agree.bind ?_
    rintro text text' ⟨rfl, bare⟩
    have rest := ih (before ++ [item]) (by rw [all, List.append_assoc, List.singleton_append])
      (text :: done)
    rw [List.length_append, List.length_singleton] at rest
    refine rest.mapRight ?_
    rintro result texts ⟨rfl, allBare⟩
    refine ⟨by simp, fun other member => ?_⟩
    rcases List.mem_cons.mp member with rfl | inside
    · exact bare
    · exact allBare other inside

/-- **A loop is carried out as `forEach` says**, if its body is. -/
theorem agree_runLoop (agree : Agree SameBare repetition body) (name : String) (iterable : Text) :
    Agree SameBare (runLoop renderer repetition ⟨name, iterable⟩)
      (forEach renderer name iterable body) := by
  refine (Agree.refl _).bind fun value value' same => ?_
  subst same
  refine (Agree.refl _).bind fun before before' same => ?_
  subst same
  -- a failure is kept until the names have their bindings back
  have repeated := (agree_repeatBody agree name [] value.items rfl []).attempt
  refine repeated.bind fun outcome outcome' same => ?_
  refine (Agree.refl _).bind fun _ _ _ => ?_
  refine (agree_settle same).mapRight ?_
  rintro text texts ⟨rfl, allBare⟩
  exact ⟨by simp, Bare.flatten allBare⟩

end Loop

/-! ### All loops -/

/-- The edit that replaces a loop by what it renders to. -/
abbrev loopEdit (renderer : Renderer) (depth : Nat) (text : Text) (loop : Enclosure LoopHead) :
    Rendering Edit := do
  return Edit.mk loop.span
    (← runLoop renderer (repetition renderer depth (loop.body.of text)) loop.info)

/-- Edits that turn a stretch of a text into a tree without loops. -/
abbrev RewritesFree (here : Position) (old : Text) (edits : List Edit) (nodes : List Node) : Prop :=
  Rewrites here old edits (printNodes nodes) ∧ WellFormedNodes nodes ∧ LoopFreeNodes nodes

/-- Edits that do so with what is taken where a condition does not hold. -/
abbrev RewritesOthersFree (here : Position) (old : Text) (edits : List Edit) (others : Others) :
    Prop :=
  Rewrites here old edits others.print ∧ others.WellFormed ∧ others.LoopFree

theorem expandLoops_of_bare (repetition : Text → Rendering Text) {text : Text} (bare : Bare text) :
    expandLoops renderer repetition text = pure text :=
  expandLoops_of_no_loops renderer repetition (ReadAs.bare bare Position.start).scan outermostLoops_nil

/-- **The four passes follow the stages of a tree**, once its loops give way as the tree says. -/
theorem agree_passes (plain : renderer.PlainValues) {nodes : List Node}
    (valid : WellFormedNodes nodes) {depth : Nat}
    (agree : Agree (RewritesFree Position.start (printNodes nodes))
      ((loopsOfNodes Position.start nodes).mapM (loopEdit renderer depth (printNodes nodes)))
      (expandNodes renderer nodes)) :
    Agree SameBare (passes renderer (repetition renderer depth) (printNodes nodes))
      (rendered renderer nodes) := by
  have tops := (outlined_loops nodes valid Position.start).outermost_eq
    (rfl : pairTags loopRole [] [] = [])
  have expands : Agree
      (fun text nodes => text = printNodes nodes ∧ WellFormedNodes nodes ∧ LoopFreeNodes nodes)
      (expandLoops renderer (repetition renderer depth) (printNodes nodes))
      (expandNodes renderer nodes) := by
    rw [expandLoops, loopEdits, statementsOf_printNodes valid, pure_bind, outermostLoops, tops]
    refine agree.mapLeft ?_
    rintro edits nodes' ⟨rewrites, valid', free⟩
    exact ⟨rewrites.applyEdits_eq, valid', free⟩
  rw [passes, runAssignments_printNodes valid, rendered]
  refine (Agree.refl _).bind fun _ _ _ => expands.bind ?_
  rintro expanded nodes' ⟨rfl, valid', free⟩
  refine (agree_chooseBranches valid' free).bind ?_
  rintro chosen nodes'' ⟨rfl, flat⟩
  exact agree_substitute plain flat

/-- One repetition of a body in which loops are nested less deeply. -/
theorem agree_repetition {depth : Nat} {text : Text} {rendered : Rendering Text}
    (agree : Agree SameBare (passes renderer (repetition renderer depth) text) rendered) :
    Agree SameBare (repetition renderer (depth + 1) text) rendered := by
  have again : Agree SameBare (repetition renderer (depth + 1) text) (rendered >>= pure) := by
    refine agree.bind ?_
    rintro text text' ⟨rfl, bare⟩
    -- the output holds no tags, so looking through it for loops once more changes nothing
    rw [expandLoops_of_bare _ bare]
    exact agree_pure ⟨rfl, bare⟩
  rwa [bind_pure] at again

/-- A loop gives way to the text that it renders to, if its body renders as a tree. -/
theorem agree_loop {name iterable : Text} {body : List Node} {depth : Nat}
    (repeated : Agree SameBare (repetition renderer depth (printNodes body)) (rendered renderer body))
    {here : Position} {text : Text}
    (stands : StandsAt (Node.loop name iterable body).print here.offset text) :
    Agree (RewritesFree here (Node.loop name iterable body).print)
      (((Node.loop name iterable body).loops here).mapM (loopEdit renderer depth text))
      (expandNode renderer (.loop name iterable body)) := by
  have filled : here.offset < (here.after (Node.loop name iterable body).print).offset :=
    offset_lt_after here (by simp [Node.print, statementTag, TagKind.opener])
  have span : (loopAt here name iterable (printNodes body)).span =
      ⟨here.offset, (here.after (Node.loop name iterable body).print).offset⟩ := by
    simp only [Node.print, Position.after_append]
    rfl
  simp only [Node.print, List.append_assoc] at stands
  have inside : (loopAt here name iterable (printNodes body)).body.of text = printNodes body :=
    of_eq_of_standsAt (standsAt_left (standsAt_right stands))
  rw [expandNode_loop]
  simp only [Node.loops, List.mapM_cons, List.mapM_nil, loopEdit, bind_assoc, pure_bind, inside,
    span]
  refine (agree_runLoop repeated (String.ofList name) iterable).map ?_
  rintro text text' ⟨rfl, bare⟩
  refine ⟨?_, ⟨bare, trivial⟩, trivial, trivial⟩
  rw [printNodes_singleton]
  exact Rewrites.single filled

/-- A part that is kept. -/
theorem agree_unexpanded {node : Node} (valid : node.WellFormed) (free : node.LoopFree)
    (here : Position) : Agree (RewritesFree here node.print) (pure []) (pure [node]) := by
  refine agree_pure ⟨?_, ⟨valid, trivial⟩, free, trivial⟩
  rw [printNodes_singleton]
  exact Rewrites.keep here node.print

mutual

theorem agree_expandNode (plain : renderer.PlainValues) (node : Node) (valid : node.WellFormed)
    {depth : Nat} (deep : node.print.length ≤ depth) {here : Position} {text : Text}
    (stands : StandsAt node.print here.offset text) :
    Agree (RewritesFree here node.print) ((node.loops here).mapM (loopEdit renderer depth text))
      (expandNode renderer node) := by
  match node with
  | .text words => exact agree_unexpanded valid trivial here
  | .output expression => exact agree_unexpanded valid trivial here
  | .assign name expression => exact agree_unexpanded valid trivial here
  | .loop name iterable body =>
    obtain ⟨named, iterates, inner⟩ := valid
    have deep' : (printNodes body).length < depth := by
      simp only [Node.print, List.length_append] at deep
      have opens := length_statementTag (loopHead name iterable)
      omega
    -- the body is shorter than the loop, so the depth that is left bounds the loops in it
    obtain ⟨depth, rfl⟩ := Nat.exists_eq_succ_of_ne_zero (Nat.ne_zero_of_lt deep')
    have repeated : Agree SameBare (repetition renderer (depth + 1) (printNodes body))
        (rendered renderer body) :=
      agree_repetition (agree_passes plain inner
        (agree_expandNodes plain body inner (Nat.le_of_lt_succ deep') (standsAt_whole _)))
    exact agree_loop repeated stands
  | .choice condition body others =>
    obtain ⟨conditional, inner, others'⟩ := valid
    have deep' : (printNodes body).length ≤ depth ∧ others.print.length ≤ depth := by
      simp only [Node.print, List.length_append] at deep
      omega
    simp only [Node.print, List.append_assoc] at stands
    refine agree_mapM_append
      (agree_expandNodes plain body inner deep'.1 (standsAt_left (standsAt_right stands)))
      (agree_expandOthers plain others others' deep'.2
        (standsAt_left (standsAt_right (standsAt_right stands)))) ?_
    rintro edits edits' body' others'' ⟨rewrites, valid, free⟩ ⟨rewrites', valid', free'⟩
    have whole := (Rewrites.keep here (statementTag ("if ".toList ++ condition))).append
      (rewrites.append (rewrites'.append (Rewrites.keep _ (statementTag "endif".toList))))
    rw [List.nil_append, List.append_nil] at whole
    refine ⟨?_, ⟨⟨conditional, valid, valid'⟩, trivial⟩, ⟨free, free'⟩, trivial⟩
    rw [printNodes_singleton]
    simp only [Node.print, List.append_assoc]
    exact whole

/-- **The loops of a tree give way to the texts that they render to.** -/
theorem agree_expandNodes (plain : renderer.PlainValues) (nodes : List Node)
    (valid : WellFormedNodes nodes) {depth : Nat} (deep : (printNodes nodes).length ≤ depth)
    {here : Position} {text : Text} (stands : StandsAt (printNodes nodes) here.offset text) :
    Agree (RewritesFree here (printNodes nodes))
      ((loopsOfNodes here nodes).mapM (loopEdit renderer depth text))
      (expandNodes renderer nodes) := by
  match nodes with
  | [] => exact agree_pure ⟨Rewrites.keep here [], trivial, trivial⟩
  | node :: nodes =>
    rw [printNodes, List.length_append] at deep
    have deep' : node.print.length ≤ depth ∧ (printNodes nodes).length ≤ depth := by omega
    refine agree_mapM_append (agree_expandNode plain node valid.1 deep'.1 (standsAt_left stands))
      (agree_expandNodes plain nodes valid.2 deep'.2 (standsAt_right stands)) ?_
    rintro edits edits' expanded expanded' ⟨rewrites, valid, free⟩ ⟨rewrites', valid', free'⟩
    rw [RewritesFree, printNodes_append]
    exact ⟨rewrites.append rewrites', wellFormedNodes_append valid valid',
      loopFreeNodes_append free free'⟩

theorem agree_expandOthers (plain : renderer.PlainValues) (others : Others)
    (valid : others.WellFormed) {depth : Nat} (deep : others.print.length ≤ depth)
    {here : Position} {text : Text} (stands : StandsAt others.print here.offset text) :
    Agree (RewritesOthersFree here others.print)
      ((others.loops here).mapM (loopEdit renderer depth text)) (expandOthers renderer others) := by
  match others with
  | .nothing => exact agree_pure ⟨Rewrites.keep here [], trivial, trivial⟩
  | .otherwise body =>
    have deep' : (printNodes body).length ≤ depth := by
      simp only [Others.print, List.length_append] at deep
      omega
    refine (agree_expandNodes plain body valid deep' (standsAt_right stands)).mapRight ?_
    rintro edits body' ⟨rewrites, valid, free⟩
    exact ⟨(Rewrites.keep here _).append rewrites, valid, free⟩
  | .choice condition body others =>
    obtain ⟨conditional, inner, others'⟩ := valid
    have deep' : (printNodes body).length ≤ depth ∧ others.print.length ≤ depth := by
      simp only [Others.print, List.length_append] at deep
      omega
    simp only [Others.print, List.append_assoc] at stands
    refine agree_mapM_append
      (agree_expandNodes plain body inner deep'.1 (standsAt_left (standsAt_right stands)))
      (agree_expandOthers plain others others' deep'.2
        (standsAt_right (standsAt_right stands))) ?_
    rintro edits edits' body' others'' ⟨rewrites, valid, free⟩ ⟨rewrites', valid', free'⟩
    have whole := (Rewrites.keep here (statementTag ("elif ".toList ++ condition))).append
      (rewrites.append rewrites')
    refine ⟨?_, ⟨conditional, valid, valid'⟩, free, free'⟩
    simp only [Others.print, List.append_assoc]
    exact whole

end

/-! ### The whole -/

/-- **The text of a tree renders to what the tree renders to**, from every scope: with the same
output or error, and leaving the same scope after the same evaluations. -/
theorem renderText_printNodes (renderer : Renderer) (plain : renderer.PlainValues)
    (nodes : List Node) (valid : WellFormedNodes nodes) (scope : Scope) :
    (renderText renderer (printNodes nodes)).run scope = (rendered renderer nodes).run scope := by
  have deep : (printNodes nodes).length ≤ (printNodes nodes).length + spareDepth :=
    Nat.le_add_right _ _
  have agree := agree_passes plain valid
    (agree_expandNodes plain nodes valid deep (standsAt_whole _))
  exact (agree.mono fun _ _ same => same.1).run_eq scope

/-- An evaluator that gives no value that is written with delimiters. -/
def plainEvaluator (extensions : Extensions) : Evaluator := fun expression scope =>
  match evaluate extensions expression scope with
  | .ok value => if Bare value.text then .ok value else .error (.custom "delimiters in a value")
  | .error error => .error error

theorem plainValues_plainEvaluator (extensions : Extensions) (keywords : List String) :
    (Renderer.mk (plainEvaluator extensions) keywords).PlainValues := by
  intro expression scope value answer
  simp only [plainEvaluator] at answer
  split at answer
  · split at answer
    · cases answer
      assumption
    · cases answer
  · cases answer

/-- In the body of a loop the condition comes before the assignment of the name that it asks for, and
yet sees the value assigned in the same turn; and each turn is told how far the loop is. -/
theorem renderText_of_late_assignment :
    let body : List Node :=
      [.choice "y".toList [.output "x".toList] (.otherwise [.text "-".toList]),
        .assign "y".toList "x".toList, .output "loop.index".toList, .output "loop.index0".toList,
        .output "loop.revindex".toList, .output "loop.revindex0".toList,
        .output "loop.length".toList,
        .choice "loop.first".toList [.text "<".toList] .nothing,
        .choice "loop.last".toList [.text ">".toList] .nothing]
    ((renderText ⟨plainEvaluator .none, []⟩ (printNodes [.loop "x".toList "xs".toList body])).run
      ⟨[("xs", .array [.string "a", .string ""])]⟩).1 = .ok "a10212<-21102>".toList := by
  intro body
  have valid : WellFormedNodes [.loop "x".toList "xs".toList body] := by decide +kernel
  rw [renderText_printNodes ⟨plainEvaluator .none, []⟩ (plainValues_plainEvaluator .none []) _ valid]
  decide +kernel

end Rendering
end TextTemplate
