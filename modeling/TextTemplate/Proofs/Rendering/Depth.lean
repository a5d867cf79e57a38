/-
**How deep a rendering goes.**

A repetition of a loop's body renders the body, which is shorter than the text around it, and then
the loops of the text that this gives. Where the loops are quiet that text has none, so the bodies
get shorter all the way down. Where a value may be a loop, nothing gets shorter.

* `render_ends`: **a rendering with quiet loops ends**, nested no deeper than its source is long;
* `some_rendering_never_ends`: a loop that outputs the text of the same loop is rendered without end.
-/

import TextTemplate.Environment
import TextTemplate.Proofs.Rendering.Safety

namespace TextTemplate
namespace Rendering

/-- **A rendering with quiet loops ends.** Its outcome is the same with every bound that is not less
than its source is long, and it is an output or an error other than that of the bound. -/
theorem render_ends (renderer : Renderer) (source : Text) (scope : Scope)
    (quiet : QuietLoops renderer source scope) :
    ∃ outcome, outcome.1 ≠ .error .tooDeep ∧ (renderText renderer source).run scope = outcome ∧
      ∀ depth, source.length ≤ depth → (render renderer depth source).run scope = outcome := by
  have ended := (run_of_quietLoops quiet (Nat.le_refl source.length)).2.1
  have same : ∀ depth, source.length ≤ depth →
      (render renderer depth source).run scope = (render renderer source.length source).run scope :=
    fun depth deep => run_render_of_le deep ended
  exact ⟨_, ended, same _ (Nat.le_add_right _ _), same⟩

/-- A loop in a loop that outputs values with braces, and outside of them a value that is a loop. -/
theorem render_ends_of_nested_loops :
    let renderer : Renderer := ⟨evaluate .none, []⟩
    let source := ("\x7b% for x in [1, 2] %\x7d\x7b% for y in [s] %\x7d\x7b\x7b y \x7d\x7d" ++
      "\x7b% endfor %\x7d\x7b% endfor %\x7d\x7b\x7b t \x7d\x7d").toList
    let scope := Scope.ofContext (Context.ofList
      [("s", .string "\x7b s \x7d"), ("t", .string "\x7b% for x in [1] %\x7d\x7b% endfor %\x7d")])
    QuietLoops renderer source scope ∧
      ∃ outcome, outcome.1 ≠ .error .tooDeep ∧ (renderText renderer source).run scope = outcome ∧
        ∀ depth, source.length ≤ depth → (render renderer depth source).run scope = outcome := by
  intro renderer source scope
  have quiet : QuietLoops renderer source scope := by decide +kernel
  exact ⟨quiet, render_ends renderer source scope quiet⟩

/-! ### Texts with one tag or one loop -/

section Single

variable {renderer : Renderer} {text : Text} {tags : List Tag} (scanned : scan text = .ok tags)
include scanned

/-- A text without statements goes through the last pass only. -/
theorem passes_of_no_statements {repetition : Text → Rendering Text}
    (none : (tags.filter fun tag => tag.kind = .statement) = []) :
    passes renderer repetition text = substitute renderer text := by
  have statements : statementsOf text = pure [] := by rw [statementsOf_of_scan scanned, none]
  have noLoops : expandLoops renderer repetition text = pure text :=
    expandLoops_of_no_loops renderer repetition scanned (by rw [none, outermostLoops_nil])
  have noGroups : outermostGroups [] = [] := by simp [outermostGroups, groupBranches, outermost]
  simp [passes, runAssignments, chooseBranches, branchLoop, branchEdits, statements, noLoops, noGroups]

/-- A text that is one tag becomes its output. -/
theorem substitute_of_single {tag : Tag} (one : tags = [tag]) (whole : tag.span = ⟨0, text.byteSize⟩) :
    substitute renderer text = outputOf renderer tag := by
  subst one
  have replaced : ∀ output, applyEdits text [⟨⟨0, text.byteSize⟩, output⟩] = output := fun output =>
    applyEdits_eq_of_splices (by simpa using Splices.single 0 text output) (List.Perm.refl _)
  simp [substitute, outputEdits, tagsOf_of_scan scanned, whole, replaced]

/-- A text that is one loop becomes what the loop gives. -/
theorem expandLoops_of_single {repetition : Text → Rendering Text} {loop : Enclosure LoopHead}
    (one : outermostLoops (tags.filter fun tag => tag.kind = .statement) = [loop])
    (whole : loop.span = ⟨0, text.byteSize⟩) :
    expandLoops renderer repetition text =
      runLoop renderer (repetition (loop.body.of text)) loop.info := by
  have replaced : ∀ output, applyEdits text [⟨⟨0, text.byteSize⟩, output⟩] = output := fun output =>
    applyEdits_eq_of_splices (by simpa using Splices.single 0 text output) (List.Perm.refl _)
  simp [expandLoops, loopEdits, statementsOf_of_scan scanned, one, whole, replaced]

end Single

/-! ### A rendering without end -/

/-- What renders texts with the built-in filters and functions. -/
def plainRenderer : Renderer := ⟨evaluate .none, []⟩

/-- The text of a loop that outputs a value once. -/
def endlessLoop : String := "\x7b% for x in [1] %\x7d\x7b\x7b s \x7d\x7d\x7b% endfor %\x7d"

/-- The body of the loop. -/
def endlessBody : Text := "\x7b\x7b s \x7d\x7d".toList

/-- The value that is output is the loop itself. -/
def endlessContext : Context := Context.ofList [("s", .string endlessLoop)]

/-- The scope in the body of the loop. -/
def endlessTurn : Scope :=
  ⟨[("s", .string endlessLoop), (loopName, loopInfo 0 1), ("x", .int 1)]⟩

/-- The body renders to the loop. -/
theorem run_endlessBody (repetition : Text → Rendering Text) (asked : List Text) :
    (ExceptT.run (passes plainRenderer repetition endlessBody)).run ⟨endlessTurn, asked⟩ =
      (.ok endlessLoop.toList, ⟨endlessTurn, "s".toList :: asked⟩) := by
  let tag : Tag := ⟨.expression, ⟨0, 0, 0⟩, ⟨7, 0, 7⟩, " s ".toList⟩
  have scanned : scan endlessBody = .ok [tag] := by decide +kernel
  have answer : plainRenderer.evaluator "s".toList endlessTurn = .ok (.string endlessLoop) := by rfl
  have silent : isSilent plainRenderer tag = false := by decide
  have inner : tag.inner = "s".toList := by decide
  rw [passes_of_no_statements scanned rfl, substitute_of_single scanned rfl rfl, outputOf, silent,
    if_neg Bool.false_ne_true, inner, run_bind, run_ask, answer]
  rfl

/-- The loop is found in its text. -/
theorem exists_endlessLoop :
    ∃ tags, scan endlessLoop.toList = .ok tags ∧
      ∃ loop, outermostLoops (tags.filter fun tag => tag.kind = .statement) = [loop] ∧
        loop.span = ⟨0, Text.byteSize endlessLoop.toList⟩ ∧ loop.info = ⟨"x", "[1]".toList⟩ ∧
          loop.body.of endlessLoop.toList = endlessBody := by
  have found : (scan endlessLoop.toList).map (fun tags =>
      (outermostLoops (tags.filter fun tag => tag.kind = .statement)).map fun loop =>
        (loop.span, loop.info, loop.body.of endlessLoop.toList)) =
      .ok [(⟨0, Text.byteSize endlessLoop.toList⟩, ⟨"x", "[1]".toList⟩, endlessBody)] := by
    decide +kernel
  obtain ⟨tags, scanned, one⟩ := eq_ok_of_map_eq_ok found
  obtain ⟨loop, single, same⟩ := List.map_eq_singleton_iff.mp one
  simp only [Prod.mk.injEq] at same
  exact ⟨tags, scanned, loop, single, same⟩

/-- The loop is rendered by rendering its body once, and fails if that does. -/
theorem run_endlessLoop {repetition : Text → Rendering Text} {error : TemplateError}
    (fails : ∀ asked, ∃ asked', (ExceptT.run (repetition endlessBody)).run ⟨endlessTurn, asked⟩ =
      (.error error, ⟨endlessTurn, asked'⟩))
    {scope : Scope} (enters : (scope.set loopName (loopInfo 0 1)).set "x" (.int 1) = endlessTurn)
    (answer : plainRenderer.evaluator "[1]".toList scope = .ok (.array [.int 1])) (asked : List Text) :
    ∃ asked', (ExceptT.run (expandLoops plainRenderer repetition endlessLoop.toList)).run
      ⟨scope, asked⟩ = (.error error,
        ⟨(endlessTurn.restore loopName (scope.get? loopName)).restore "x" (scope.get? "x"), asked'⟩) := by
  obtain ⟨tags, scanned, loop, one, whole, info, body⟩ := exists_endlessLoop
  obtain ⟨asked', failed⟩ := fails ("[1]".toList :: asked)
  have repeated : (ExceptT.run (repeatBody (repetition endlessBody) "x" 1 0 [] [.int 1])).run
      ⟨scope, "[1]".toList :: asked⟩ = (.error error, ⟨endlessTurn, asked'⟩) := by
    rw [repeatBody, run_bind]
    show (ExceptT.run (repetition endlessBody >>= _)).run
      ⟨(scope.set loopName (loopInfo 0 1)).set "x" (.int 1), "[1]".toList :: asked⟩ = _
    rw [enters, run_bind, failed]
  refine ⟨asked', ?_⟩
  rw [expandLoops_of_single scanned one whole, body, info]
  exact @run_runLoop _ ⟨"x", "[1]".toList⟩ _ _ _ _ _ _ answer repeated

/-- **The repetition of the body reaches every bound.** -/
theorem run_repetition_endlessBody (depth : Nat) (asked : List Text) :
    ∃ asked', (ExceptT.run (repetition plainRenderer depth endlessBody)).run ⟨endlessTurn, asked⟩ =
      (.error .tooDeep, ⟨endlessTurn, asked'⟩) := by
  induction depth generalizing asked with
  | zero => exact ⟨asked, rfl⟩
  | succ depth ih =>
    have enters : (endlessTurn.set loopName (loopInfo 0 1)).set "x" (.int 1) = endlessTurn := by rfl
    have answer : plainRenderer.evaluator "[1]".toList endlessTurn = .ok (.array [.int 1]) := by rfl
    obtain ⟨asked', failed⟩ := run_endlessLoop ih enters answer ("s".toList :: asked)
    refine ⟨asked', ?_⟩
    rw [repetition, run_bind, run_endlessBody]
    exact failed

/-- **Some rendering never ends**: a loop that outputs its own text reaches every bound. -/
theorem some_rendering_never_ends :
    ¬ ∀ (source : Text) (context : Context), ∃ depth,
      ((render ⟨evaluate .none, []⟩ depth source).run (Scope.ofContext context)).1 ≠ .error .tooDeep := by
  intro ends
  obtain ⟨depth, ended⟩ := ends endlessLoop.toList endlessContext
  refine ended ?_
  obtain ⟨tags, scanned, loop, one, whole, info, body⟩ := exists_endlessLoop
  have noAssignments : runAssignments plainRenderer endlessLoop.toList = pure () := by
    have none : (scan endlessLoop.toList).map (fun tags =>
        (tags.filter fun tag => tag.kind = .statement).flatMap Tag.assignments) = .ok [] := by
      decide +kernel
    rw [scanned] at none
    have none' : (tags.filter fun tag => tag.kind = .statement).flatMap Tag.assignments = [] :=
      Except.ok.inj none
    rw [runAssignments, statementsOf_of_scan scanned, pure_bind, none']
    rfl
  have enters : ((Scope.ofContext endlessContext).set loopName (loopInfo 0 1)).set "x" (.int 1) =
      endlessTurn := by rfl
  have answer : plainRenderer.evaluator "[1]".toList (Scope.ofContext endlessContext) =
      .ok (.array [.int 1]) := by rfl
  obtain ⟨asked, failed⟩ := run_endlessLoop (run_repetition_endlessBody depth) enters answer []
  show ((render plainRenderer depth endlessLoop.toList).run (Scope.ofContext endlessContext)).1 = _
  rw [render, passes, noAssignments, pure_bind, Rendering.run, run_bind, failed]

end Rendering
end TextTemplate
