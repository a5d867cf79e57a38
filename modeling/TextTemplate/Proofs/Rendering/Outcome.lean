/-
**What a rendering gives.**

`Gives` says that a rendering succeeds from one state with a value and leaves another state. The
rules take a rendering apart in the order in which its steps are carried out.

* `gives_bind_iff`: two steps succeed exactly if the first one does and the second one does from the
  state that the first one leaves;
* `map_span_of_mapM`: edits that are made one after the other have the spans they are made for;
* `tagsOf_of_scan`, `gives_tagsOf_iff`: the tags of a text are those that the scanner finds.
-/

import TextTemplate.Rendering.Loop

namespace TextTemplate

namespace Rendering

/-- **A rendering succeeds**: from the state `before` it gives the value and leaves `after`. -/
def Gives {α : Type} (rendering : Rendering α) (before : RenderState) (value : α)
    (after : RenderState) : Prop :=
  (ExceptT.run rendering).run before = (.ok value, after)

variable {α β : Type} {before after : RenderState}

theorem gives_pure_iff {value result : α} :
    Gives (pure value) before result after ↔ value = result ∧ before = after := by
  constructor
  · intro gives
    cases gives
    exact ⟨rfl, rfl⟩
  · rintro ⟨rfl, rfl⟩
    rfl

/-- Two steps run one after the other, unless the first one fails. -/
theorem run_bind (first : Rendering α) (second : α → Rendering β) (state : RenderState) :
    (ExceptT.run (first >>= second)).run state =
      match (ExceptT.run first).run state with
      | (.ok value, between) => (ExceptT.run (second value)).run between
      | (.error error, between) => (.error error, between) := by
  rw [ExceptT.run_bind, StateT.run_bind]
  rcases (ExceptT.run first).run state with ⟨_ | _, _⟩ <;> rfl

/-- An expression is remembered before it is evaluated. -/
theorem run_ask {renderer : Renderer} (expression : Text) (state : RenderState) :
    (ExceptT.run (ask renderer expression)).run state =
      (ExceptT.run (match renderer.evaluator expression state.scope with
        | .ok value => return value
        | .error error => throw (.eval expression error) : Rendering Value)).run
          { state with asked := expression :: state.asked } := rfl

/-- What is done after a rendering, whether it has failed or not, changes the scope only. -/
theorem run_attempt_settle (rendering : Rendering α) (change : Scope → Scope) (state : RenderState) :
    (ExceptT.run (do
      let outcome ← attempt rendering
      changeScope change
      settle outcome)).run state =
      (((ExceptT.run rendering).run state).1,
        { ((ExceptT.run rendering).run state).2 with
          scope := change ((ExceptT.run rendering).run state).2.scope }) := by
  have run : (ExceptT.run (attempt rendering)).run state =
      (.ok ((ExceptT.run rendering).run state).1, ((ExceptT.run rendering).run state).2) := rfl
  rw [run_bind, run]
  rcases (ExceptT.run rendering).run state with ⟨_ | _, after⟩ <;> rfl

/-- A loop repeats its body for the items of its value, and then gives its names their bindings back,
whether the body has failed or not. -/
theorem run_runLoop {renderer : Renderer} {head : LoopHead} {body : Rendering Text} {scope : Scope}
    {asked : List Text} {value : Value} {outcome : Except TemplateError Text} {after : RenderState}
    (answer : renderer.evaluator head.iterable scope = .ok value)
    (repeated : (ExceptT.run (repeatBody body head.name value.items.length 0 [] value.items)).run
      ⟨scope, head.iterable :: asked⟩ = (outcome, after)) :
    (ExceptT.run (runLoop renderer body head)).run ⟨scope, asked⟩ =
      (outcome,
        ⟨(after.scope.restore loopName (scope.get? loopName)).restore head.name
          (scope.get? head.name), after.asked⟩) := by
  have ended := run_attempt_settle (repeatBody body head.name value.items.length 0 [] value.items)
    (fun after => (after.restore loopName (scope.get? loopName)).restore head.name
      (scope.get? head.name)) ⟨scope, head.iterable :: asked⟩
  rw [repeated] at ended
  rw [runLoop, run_bind, run_ask, answer]
  exact ended

/-- **Two steps succeed one after the other.** -/
theorem gives_bind_iff {first : Rendering α} {second : α → Rendering β} {result : β} :
    Gives (first >>= second) before result after ↔
      ∃ value between, Gives first before value between ∧
        Gives (second value) between result after := by
  unfold Gives
  rw [run_bind]
  constructor
  · intro gives
    rcases done : (ExceptT.run first).run before with ⟨error | value, between⟩
    · rw [done] at gives
      cases gives
    · rw [done] at gives
      exact ⟨value, between, rfl, gives⟩
  · rintro ⟨value, between, done, gives⟩
    rw [done]
    exact gives

/-- An edit made from a computed text has the span that it is made for. -/
theorem span_of_gives {span : Span} {replacement : Rendering Text} {edit : Edit}
    (gives : Gives (do return Edit.mk span (← replacement)) before edit after) :
    edit.span = span := by
  obtain ⟨text, between, -, made⟩ := gives_bind_iff.mp gives
  obtain ⟨rfl, -⟩ := gives_pure_iff.mp made
  rfl

/-- Edits that are made for some items, one after the other, have the spans of the items. -/
theorem map_span_of_mapM {span : α → Span} {make : α → Rendering Edit} {items : List α}
    {edits : List Edit}
    (spans : ∀ item {before after : RenderState} {edit},
      Gives (make item) before edit after → edit.span = span item)
    (gives : Gives (items.mapM make) before edits after) :
    edits.map Edit.span = items.map span := by
  induction items generalizing before after edits with
  | nil =>
    rw [List.mapM_nil] at gives
    obtain ⟨rfl, -⟩ := gives_pure_iff.mp gives
    rfl
  | cons item items ih =>
    rw [List.mapM_cons] at gives
    obtain ⟨edit, between, made, gives⟩ := gives_bind_iff.mp gives
    obtain ⟨later, between', rest, gives⟩ := gives_bind_iff.mp gives
    obtain ⟨rfl, -⟩ := gives_pure_iff.mp gives
    rw [List.map_cons, List.map_cons, ih rest, spans item made]

/-! ### The tags of a text -/

section Tags

variable {text : Text} {tags : List Tag} {error : ScanError}

theorem tagsOf_of_scan (scanned : scan text = .ok tags) : tagsOf text = pure tags := by
  rw [tagsOf, scanned]

theorem tagsOf_of_fault (fault : scan text = .error error) :
    tagsOf text = throw (.malformed error) := by
  rw [tagsOf, fault]

theorem statementsOf_of_scan (scanned : scan text = .ok tags) :
    statementsOf text = pure (tags.filter fun tag => tag.kind = .statement) := by
  rw [statementsOf, tagsOf_of_scan scanned, pure_bind]

/-- The statements of a text that cannot be scanned are its fault, in whatever state. -/
theorem run_statementsOf_of_fault (fault : scan text = .error error) (state : RenderState) :
    (ExceptT.run (statementsOf text)).run state = (.error (.malformed error), state) := by
  rw [statementsOf, run_bind, tagsOf_of_fault fault]
  rfl

/-- The tags of a text are found where the scanner succeeds. -/
theorem gives_tagsOf_iff :
    Gives (tagsOf text) before tags after ↔ scan text = .ok tags ∧ before = after := by
  rcases scanned : scan text with error | found
  · rw [tagsOf_of_fault scanned]
    constructor
    · intro gives
      cases gives
    · rintro ⟨⟨⟩, _⟩
  · rw [tagsOf_of_scan scanned, gives_pure_iff, Except.ok.injEq]

theorem scan_of_gives_statementsOf (gives : Gives (statementsOf text) before tags after) :
    ∃ all, scan text = .ok all ∧ tags.Sublist all := by
  obtain ⟨all, between, found, gives⟩ := gives_bind_iff.mp gives
  obtain ⟨rfl, -⟩ := gives_pure_iff.mp gives
  exact ⟨all, (gives_tagsOf_iff.mp found).1, List.filter_sublist⟩

/-- A text without loops is not changed when its loops are expanded. -/
theorem expandLoops_of_no_loops (renderer : Renderer) (repetition : Text → Rendering Text)
    (scanned : scan text = .ok tags)
    (none : outermostLoops (tags.filter fun tag => tag.kind = .statement) = []) :
    expandLoops renderer repetition text = pure text := by
  rw [expandLoops, loopEdits, statementsOf_of_scan scanned, pure_bind, none, List.mapM_nil, pure_bind,
    applyEdits_nil]

theorem outermostLoops_nil : outermostLoops [] = [] :=
  List.mergeSort_nil

end Tags

end Rendering
end TextTemplate
