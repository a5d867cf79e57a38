/-
**Where the evaluated expressions come from.**

The values that a template outputs outside of all loops are never scanned. What a loop outputs is
scanned again by the passes over the text around it, so a value in which a tag begins is a piece of
template there.

* `AsksFor`: which expressions a rendering evaluates, in order, until it fails;
* `asksFor_substitute`: **the last pass evaluates the expressions of the tags of its text**, and nothing
  because of their values;
* `evaluated_within_source`: **values are data where the loops are quiet**: every expression that is
  evaluated stands in the source; and values that are output outside of all loops are always data;
* `value_evaluated_in_loop`: a value that is output in a loop may be evaluated.
-/

import TextTemplate.Proofs.Rendering.Safety
import TextTemplate.Template

namespace TextTemplate

namespace Rendering

/-! ### The last pass -/

/-- **A rendering asks for some expressions**: it evaluates the first ones of them in their order, all of
them if it succeeds. -/
def AsksFor {α : Type} (rendering : Rendering α) (expressions : List Text) : Prop :=
  ∀ before, ∃ asked, asked <+: expressions ∧
    ((ExceptT.run rendering).run before).2.asked = asked.reverse ++ before.asked ∧
      ∀ value, ((ExceptT.run rendering).run before).1 = .ok value → asked = expressions

section Asks

variable {α β : Type}

theorem asksFor_pure (value : α) : AsksFor (pure value) [] :=
  fun _ => ⟨[], List.prefix_rfl, rfl, fun _ _ => rfl⟩

theorem asksFor_ask (renderer : Renderer) (expression : Text) :
    AsksFor (ask renderer expression) [expression] := by
  intro before
  refine ⟨[expression], List.prefix_rfl, ?_, fun _ _ => rfl⟩
  rw [run_ask]
  cases renderer.evaluator expression before.scope <;> rfl

theorem AsksFor.bind {first : Rendering α} {next : α → Rendering β} {front rest : List Text}
    (asks : AsksFor first front) (asks' : ∀ value, AsksFor (next value) rest) :
    AsksFor (first >>= next) (front ++ rest) := by
  intro before
  obtain ⟨asked, begins, state, complete⟩ := asks before
  rw [run_bind]
  rcases outcome : (ExceptT.run first).run before with ⟨error | value, between⟩
  · rw [outcome] at state
    exact ⟨asked, begins.trans (List.prefix_append _ _), state, fun value same => nomatch same⟩
  · rw [outcome] at state complete
    obtain rfl : asked = front := complete value rfl
    obtain ⟨later, begins', state', complete'⟩ := asks' value between
    refine ⟨asked ++ later, (List.prefix_append_right_inj _).mpr begins', ?_, fun value same => ?_⟩
    · rw [state', state, List.reverse_append, List.append_assoc]
    · rw [complete' value same]

theorem asksFor_mapM {make : α → Rendering β} {expressions : α → List Text}
    (each : ∀ item, AsksFor (make item) (expressions item)) (items : List α) :
    AsksFor (items.mapM make) (items.flatMap expressions) := by
  induction items with
  | nil => exact asksFor_pure _
  | cons item items ih =>
    rw [List.mapM_cons, List.flatMap_cons]
    refine (each item).bind fun value => ?_
    have rest := ih.bind fun values => asksFor_pure (value :: values)
    rwa [List.append_nil] at rest

end Asks

/-- The expressions of the tags of a text that have an output, in their order. -/
def outputExpressions (renderer : Renderer) (text : Text) : List Text :=
  match scan text with
  | .ok tags => (tags.filter fun tag => !isSilent renderer tag).map Tag.inner
  | .error _ => []

theorem flatMap_outputs (renderer : Renderer) (tags : List Tag) :
    (tags.flatMap fun tag => (if isSilent renderer tag then [] else [tag.inner]) ++ []) =
      (tags.filter fun tag => !isSilent renderer tag).map Tag.inner := by
  induction tags with
  | nil => rfl
  | cons tag tags ih =>
    rw [List.flatMap_cons, ih, List.filter_cons]
    by_cases silent : isSilent renderer tag = true
    · simp [silent]
    · simp [silent]

/-- **The last pass asks for the expressions of the tags of its text**, whatever their values are. -/
theorem asksFor_substitute (renderer : Renderer) (text : Text) :
    AsksFor (substitute renderer text) (outputExpressions renderer text) := by
  unfold substitute outputEdits outputExpressions
  rcases scanned : scan text with error | tags
  · rw [tagsOf_of_fault scanned]
    exact fun before => ⟨[], List.prefix_rfl, rfl, fun value same => nomatch same⟩
  · have output (tag : Tag) :
        AsksFor (outputOf renderer tag) (if isSilent renderer tag then [] else [tag.inner]) := by
      unfold outputOf
      split
      · exact asksFor_pure _
      · exact (asksFor_ask renderer tag.inner).bind fun _ => asksFor_pure _
    have edits := asksFor_mapM (fun tag => (output tag).bind fun text =>
      asksFor_pure (Edit.mk tag.span text)) tags
    have whole := edits.bind fun edits => asksFor_pure (applyEdits text edits)
    rw [tagsOf_of_scan scanned, pure_bind]
    rwa [List.append_nil, flatMap_outputs] at whole

/-- The passes before the last one. -/
def prepare (renderer : Renderer) (repetition : Text → Rendering Text) (text : Text) :
    Rendering Text := do
  runAssignments renderer text
  let expanded ← expandLoops renderer repetition text
  chooseBranches renderer expanded

theorem passes_eq_prepare (renderer : Renderer) (repetition : Text → Rendering Text) (text : Text) :
    passes renderer repetition text = (do
      let prepared ← prepare renderer repetition text
      substitute renderer prepared) := by
  simp only [passes, prepare, bind_assoc]

/-- **What is evaluated for the output** of a prepared text: the expressions of its tags, the first ones
of them, and all of them after a success. If no text has been prepared, there is no output. -/
structure OutputLast (renderer : Renderer) (prepared outcome : Except TemplateError Text)
    (last : List Text) : Prop where
  unprepared : ∀ error, prepared = .error error → last = []
  inOrder : ∀ text, prepared = .ok text → last <+: outputExpressions renderer text
  complete : ∀ text out, prepared = .ok text → outcome = .ok out →
    last = outputExpressions renderer text

end Rendering

open Rendering

/-- What a template is when only its output is left to do, and the expressions that have been evaluated
by then, in order. -/
def Template.prepared (template : Template) (evaluator : Evaluator) (context : Context) :
    Except TemplateError Text × List Text :=
  let renderer := template.renderer evaluator
  let (outcome, state) :=
    (prepare renderer (repetition renderer (template.source.length + spareDepth)) template.source).run
      (Scope.ofContext context)
  (outcome, state.asked.reverse)

/-- **The output is evaluated last**, after everything that is evaluated for the prepared text. -/
theorem exists_outputLast (template : Template) (evaluator : Evaluator) (context : Context) :
    ∃ last, (template.renderTracing evaluator context).2 =
        (template.prepared evaluator context).2 ++ last ∧
      OutputLast (template.renderer evaluator) (template.prepared evaluator context).1
        (template.renderTracing evaluator context).1 last := by
  simp only [Template.renderTracing, Template.prepared, renderText, render, passes_eq_prepare,
    Rendering.run, run_bind]
  rcases (ExceptT.run (prepare (template.renderer evaluator) (repetition (template.renderer evaluator)
    (template.source.length + spareDepth)) template.source)).run ⟨Scope.ofContext context, []⟩ with
    ⟨error | prepared, between⟩
  · refine ⟨[], (List.append_nil _).symm, fun _ _ => rfl, fun _ same => ?_, fun _ _ same => ?_⟩ <;>
      cases same
  · obtain ⟨last, begins, state, complete⟩ :=
      asksFor_substitute (template.renderer evaluator) prepared between
    refine ⟨last, ?_, fun _ same => ?_, fun text same => ?_, fun text out same => ?_⟩
    · simp only [state, List.reverse_append, List.reverse_reverse]
    · cases same
    · cases same
      exact begins
    · cases same
      exact complete out

/-- **Every expression that is evaluated stands in the source**, whatever the evaluator and the
context, unless a tag might begin in the text that a turn of a loop renders to. And whatever the loops
do, no value that is output outside of them is looked at again: all that is evaluated for the output are
the expressions of the tags of one text, which has been prepared before. -/
theorem evaluated_within_source (template : Template) (evaluator : Evaluator) (context : Context) :
    (QuietLoops (template.renderer evaluator) template.source (Scope.ofContext context) →
      ∀ expression ∈ (template.renderTracing evaluator context).2,
        expression <:+: template.source) ∧
    ∃ last, (template.renderTracing evaluator context).2 =
        (template.prepared evaluator context).2 ++ last ∧
      OutputLast (template.renderer evaluator) (template.prepared evaluator context).1
        (template.renderTracing evaluator context).1 last := by
  refine ⟨fun quiet expression member => ?_, exists_outputLast template evaluator context⟩
  have deep : template.source.length ≤ template.source.length + spareDepth := Nat.le_add_right _ _
  obtain ⟨-, -, asked⟩ := run_of_quietLoops quiet deep
  exact asked expression (List.mem_reverse.mp member)

/-- Values with braces in a loop, and a value with a tag behind it: neither is evaluated. -/
theorem evaluated_of_braces :
    let template : Template :=
      ⟨"\x7b% for i in [1, 2] %\x7d\x7b\x7b s \x7d\x7d\x7b% endfor %\x7d\x7b\x7b t \x7d\x7d".toList, none, []⟩
    let context := Context.ofList
      [("s", .string "\x7b i \x7d"), ("t", .string "\x7b\x7b secret \x7d\x7d")]
    template.renderTracing (evaluate .none) context =
        (.ok "\x7b i \x7d\x7b i \x7d\x7b\x7b secret \x7d\x7d".toList,
          ["[1, 2]".toList, "s".toList, "s".toList, "t".toList]) ∧
      template.prepared (evaluate .none) context =
        (.ok "\x7b i \x7d\x7b i \x7d\x7b\x7b t \x7d\x7d".toList,
          ["[1, 2]".toList, "s".toList, "s".toList]) ∧
      ∀ expression ∈ (template.renderTracing (evaluate .none) context).2,
        expression <:+: template.source := by
  intro template context
  exact ⟨by decide +kernel, by decide +kernel,
    (evaluated_within_source template (evaluate .none) context).1 (by decide +kernel)⟩

/-- **A value that is output in a loop may be evaluated**: the expression comes from the context. -/
theorem value_evaluated_in_loop :
    ¬ ∀ (template : Template) (context : Context),
      ∀ expression ∈ (template.renderTracing (evaluate .none) context).2,
        expression <:+: template.source := by
  intro within
  let template : Template :=
    ⟨"\x7b% for i in [1] %\x7d\x7b\x7b s \x7d\x7d\x7b% endfor %\x7d".toList, none, []⟩
  let context := Context.ofList
    [("s", .string "\x7b\x7b secret \x7d\x7d"), ("secret", .int 42)]
  have evaluated : "secret".toList ∈ (template.renderTracing (evaluate .none) context).2 := by
    decide +kernel
  exact absurd (within template context _ evaluated) (by decide +kernel)

end TextTemplate
