/-
**Renderings that stay within their source.**

The texts that the passes of a rendering scan are drawn from the tags of the source, as long as no turn
of a loop renders to a text in which a tag begins. So the expressions that are evaluated stand in the
source, and the bound on the nesting of loops is not reached.

* `Safe`: a rendering that evaluates only parts of the source and does not have a certain fault;
* `covers_safety`: **this is a contract that covers drawn texts**, so all passes meet it;
* `safe_guardedRepetition`, `safe_guardedRender`: so a repetition of a loop's body is safe, and the
  guarded rendering of any source;
* `run_of_quietLoops`: where no turn of a loop begins a new tag, **so is the rendering** itself;
* `quietLoops_of_quietRun`: no turn does where the values that occur are quiet.
-/

import TextTemplate.Proofs.Rendering.Passes

namespace TextTemplate

/-- The texts of all values that an evaluator gives are quiet. -/
def Renderer.QuietValues (renderer : Renderer) : Prop :=
  ∀ expression scope value, renderer.evaluator expression scope = .ok value → Quiet value.text

namespace Rendering

/-! ### Safe renderings -/

/-- All expressions evaluated so far are contiguous parts of a source. -/
def AskedFrom (source : Text) (state : RenderState) : Prop :=
  ∀ expression ∈ state.asked, expression <:+: source

/-- The errors that are none of the template's: a bound that is reached, and a refusal. -/
inductive Fault where
  | bound
  | refusal

def Fault.error : Fault → TemplateError
  | bound => .tooDeep
  | refusal => Rendering.refusal

theorem Fault.malformed_ne (fault : Fault) (error : ScanError) : .malformed error ≠ fault.error := by
  cases fault <;> exact TemplateError.noConfusion

theorem Fault.eval_ne (fault : Fault) (expression : Text) (error : EvalError) :
    .eval expression error ≠ fault.error := by
  cases fault <;> exact TemplateError.noConfusion

/-- A good value, or an error other than a fault. -/
def Fine {α : Type} (fault : Fault) (good : α → Prop) : Except TemplateError α → Prop
  | .ok value => good value
  | .error error => error ≠ fault.error

/-- **A safe rendering** evaluates only contiguous parts of a source, has not the fault and gives only
good values. -/
def Safe {α : Type} (fault : Fault) (source : Text) (good : α → Prop) (rendering : Rendering α) :
    Prop :=
  ∀ before, AskedFrom source before →
    Fine fault good ((ExceptT.run rendering).run before).1 ∧
      AskedFrom source ((ExceptT.run rendering).run before).2

variable {α β : Type} {fault : Fault} {source : Text}

/-- To be safe is a contract. -/
def safety (fault : Fault) (source : Text) : Contract where
  keeps := AskedFrom source
  allows error := error ≠ fault.error
  anyScope _ asked := asked

variable {α : Type} {fault : Fault} {source : Text}

theorem safe_iff_meets {good : α → Prop} {rendering : Rendering α} :
    Safe fault source good rendering ↔ Meets (safety fault source) good rendering := by
  refine forall_congr' fun before => forall_congr' fun asked => and_congr_left' ?_
  cases ((ExceptT.run rendering).run before).1 <;> exact Iff.rfl

theorem safe_quiet_iff {rendering : Rendering Text} :
    Safe fault source Quiet rendering ↔
      Meets (safety fault source) (Stretch Neighbours.quiet true true) rendering := by
  have same : Quiet = Stretch Neighbours.quiet true true :=
    funext fun _ => propext stretch_quiet_iff.symm
  rw [← same]
  exact safe_iff_meets

/-- Parts of the source may be evaluated. -/
theorem askable_of_part {renderer : Renderer} {text : Text} (within : text <:+: source) :
    Askable (safety fault source) renderer text := by
  intro expression inside before asked
  have asked' : AskedFrom source { before with asked := expression :: before.asked } :=
    List.forall_mem_cons.mpr ⟨inside.trans within, asked⟩
  rw [run_ask]
  rcases answer : renderer.evaluator expression before.scope with error | value
  · exact ⟨fault.eval_ne expression error, asked'⟩
  · exact ⟨⟨before.scope, answer⟩, asked'⟩

/-- **A loop is safe** if its body is. -/
theorem safe_runLoop {renderer : Renderer} {body : Rendering Text}
    (safe : Safe fault source Quiet body) {head : LoopHead} (within : head.iterable <:+: source) :
    Safe fault source Quiet (runLoop renderer body head) := by
  rw [safe_iff_meets] at safe ⊢
  exact meets_runLoop (fun _ => quiet_flatten) safe (askable_of_part within)

/-! ### The passes over drawn texts -/

section Passes

variable {renderer : Renderer} {tags : List Tag} (ofSource : scan source = .ok tags)
include ofSource

/-- What stands in a tag of the source stands in the source. -/
theorem infix_of_among {kind : TagKind} {body : Text} (among : Among tags kind body) :
    body <:+: source := by
  obtain ⟨tag, member, rfl, rfl⟩ := among
  obtain ⟨front, rest, joined, -⟩ := Text.slice?_eq_some_iff.mp (scan_slice? ofSource member)
  exact ⟨front ++ tag.kind.opener, tag.kind.closer ++ rest, by rw [joined, Tag.text]; simp⟩

/-- **To be safe is a contract that covers texts drawn from the tags of the source.** -/
theorem covers_safety : Covers (safety fault source) renderer Neighbours.quiet (Among tags) where
  asks among := askable_of_part (infix_of_among ofSource among)
  scans _ _ := fault.malformed_ne _

/-- The body of a loop in a drawn text is drawn from the same tags and shorter than the text; what the
loop runs over stands in the source. -/
theorem loop_of_drawn {next text : Text} (drawn : Drawn tags next text) {all statements : List Tag}
    (scanned : scan text = .ok all) (among : statements.Sublist all) {loop : Enclosure LoopHead}
    (member : loop ∈ outermostLoops statements) :
    Drawn tags ['{'] (loop.body.of text) ∧ (loop.body.of text).length < text.length ∧
      loop.info.iterable <:+: source := by
  obtain ⟨opening, closing, opens⟩ := tags_of_mem_outermostLoops member
  have opening := among.mem opening
  have source := drawn.composed.inside_of_mem scanned opening
  exact ⟨drawn.slice scanned (Or.inr ⟨_, opening, rfl⟩) ⟨_, among.mem closing, rfl⟩,
    length_slice_lt scanned opening _,
    (iterable_within opens).trans (infix_of_among ofSource source)⟩

/-- **The assignments of a drawn text** are safe. -/
theorem safe_runAssignments {next text : Text} (drawn : Drawn tags next text) :
    Safe fault source (fun _ => True) (runAssignments renderer text) :=
  safe_iff_meets.mpr ((covers_safety ofSource).runAssignments drawn.composed)

/-! ### The guarded rendering -/

section Guarded

variable (guard : fault = .refusal → renderer.QuietValues)
include guard

omit ofSource in
/-- The guard does not refuse quiet values. -/
theorem settles_safety : Settles (safety fault source) renderer Neighbours.quiet := by
  cases fault with
  | bound => exact Or.inl ⟨TemplateError.noConfusion, fun text => stretch_quiet_iff.mpr⟩
  | refusal =>
    exact Or.inr fun expression scope value answer =>
      stretch_quiet_iff.mpr (guard rfl expression scope value answer)

/-- **The guarded passes over a drawn text are safe** and give a quiet text, if the repetitions of
shorter texts are safe. -/
theorem safe_guardedPasses {text : Text} (drawn : Drawn tags ['{'] text)
    {repetition : Text → Rendering Text}
    (turns : ∀ body, Drawn tags ['{'] body → body.length < text.length →
      Safe fault source Quiet (repetition body)) :
    Safe fault source Quiet (guardedPasses renderer repetition text) := by
  rw [safe_quiet_iff]
  refine (covers_safety ofSource).guardedPasses (settles_safety guard) (drawn_iff_composed.mp drawn)
    fun body composed shorter => ?_
  exact safe_quiet_iff.mp (turns body (drawn_iff_composed.mpr composed) shorter)

/-- **A repetition of a loop's body is safe** and renders to a quiet text, if the body is drawn from the
tags of the source and shorter than the bound. -/
theorem safe_guardedRepetition {depth : Nat} {body : Text} (drawn : Drawn tags ['{'] body)
    (shallow : body.length < depth) :
    Safe fault source Quiet (guardedRepetition renderer depth body) := by
  rw [safe_quiet_iff]
  exact (covers_safety ofSource).guardedRepetition (settles_safety guard)
    (drawn_iff_composed.mp drawn) shallow

/-- **The guarded rendering of a source is safe.** -/
theorem safe_guardedRender : Safe fault source (fun _ => True) (guardedRender renderer source) :=
  safe_iff_meets.mpr ((covers_safety ofSource).guardedRender (settles_safety guard)
    (drawn_of_scan ofSource).composed)

end Guarded

end Passes

/-! ### Sources with quiet loops -/

/-- From a scope, a safe rendering has not the fault, and evaluates parts of the source. -/
theorem Safe.run {good : α → Prop} {rendering : Rendering α}
    (safe : Safe fault source good rendering) (scope : Scope) :
    (rendering.run scope).1 ≠ .error fault.error ∧ AskedFrom source (rendering.run scope).2 := by
  obtain ⟨fine, asked⟩ := safe ⟨scope, []⟩ fun expression absent => absurd absent List.not_mem_nil
  refine ⟨fun failed => ?_, asked⟩
  rw [Rendering.run] at failed
  rw [failed] at fine
  exact fine rfl

section Whole

variable {renderer : Renderer}

/-- A source that cannot be scanned is not rendered. -/
theorem run_passes_of_fault {error : ScanError} (fault : scan source = .error error)
    (repetition : Text → Rendering Text) (scope : Scope) :
    (passes renderer repetition source).run scope = (.error (.malformed error), ⟨scope, []⟩) := by
  unfold Rendering.run passes
  rw [run_bind, runAssignments, run_bind, run_statementsOf_of_fault fault]

/-- **The loops are quiet where all values are.** -/
theorem quietLoops_of_quietValues (quiet : renderer.QuietValues) (scope : Scope) :
    QuietLoops renderer source scope := by
  rcases scanned : scan source with error | tags
  · rw [QuietLoops, guardedRender, run_passes_of_fault scanned]
    exact fun same => by cases same
  · have safe : Safe .refusal source (fun _ => True) (guardedRender renderer source) :=
      safe_guardedRender scanned fun _ => quiet
    exact (safe.run scope).1

/-- **A source with quiet loops** is rendered in the same way whatever the bound is, if that is not
less than the source is long; the bound is not reached, and only parts of the source are evaluated. -/
theorem run_of_quietLoops {scope : Scope} (quiet : QuietLoops renderer source scope) {depth : Nat}
    (deep : source.length ≤ depth) :
    (render renderer depth source).run scope = (guardedRender renderer source).run scope ∧
      ((render renderer depth source).run scope).1 ≠ .error .tooDeep ∧
        AskedFrom source ((render renderer depth source).run scope).2 := by
  have guarded := run_guardedRender quiet
  have safe : ((render renderer source.length source).run scope).1 ≠ .error .tooDeep ∧
      AskedFrom source ((render renderer source.length source).run scope).2 := by
    rcases scanned : scan source with error | tags
    · rw [render, run_passes_of_fault scanned]
      exact ⟨by simp, fun expression absent => absurd absent List.not_mem_nil⟩
    · rw [guarded]
      have safe : Safe .bound source (fun _ => True) (guardedRender renderer source) :=
        safe_guardedRender scanned nofun
      exact safe.run scope
  rw [run_render_of_le deep safe.1]
  exact ⟨guarded, safe⟩

/-! ### Quiet values -/

/-- The error of an evaluator that refuses to give a value. -/
def unquiet : EvalError := .custom "a tag begins in a value"

/-- A renderer that refuses to give a value whose text is not quiet. -/
def screened (renderer : Renderer) : Renderer where
  evaluator expression scope :=
    match renderer.evaluator expression scope with
    | .ok value => if Quiet value.text then .ok value else .error unquiet
    | .error error => .error error
  keywords := renderer.keywords

/-- Whether an outcome is the refusal of a value. -/
def refuses : Except TemplateError Text → Bool
  | .error (.eval _ error) => error = unquiet
  | _ => false

/-- **All values that occur in a rendering are quiet**: it would not fail if it refused the others. -/
def QuietRun (renderer : Renderer) (text : Text) (scope : Scope) : Prop :=
  refuses ((renderText (screened renderer) text).run scope).1 = false

instance (renderer : Renderer) (text : Text) (scope : Scope) :
    Decidable (QuietRun renderer text scope) :=
  inferInstanceAs (Decidable (_ = _))

section Screened

variable {expression : Text} {scope : Scope}

theorem evaluator_screened {value : Value} (answer : renderer.evaluator expression scope = .ok value) :
    (screened renderer).evaluator expression scope =
      if Quiet value.text then .ok value else .error unquiet := by
  simp only [screened, answer]

theorem evaluator_screened_of_error {error : EvalError}
    (failed : renderer.evaluator expression scope = .error error) :
    (screened renderer).evaluator expression scope = .error error := by
  simp only [screened, failed]

end Screened

theorem quietValues_screened (renderer : Renderer) : (screened renderer).QuietValues := by
  intro expression scope value answer
  rcases asked : renderer.evaluator expression scope with error | given
  · rw [evaluator_screened_of_error asked] at answer
    cases answer
  · rw [evaluator_screened asked] at answer
    split at answer
    · cases answer
      assumption
    · cases answer

/-- What is asked has the same answer, or is refused. -/
theorem asksAlike_screened (renderer : Renderer) :
    AsksAlike (fun error => refuses (.error error) = true) (screened renderer) renderer := by
  refine ⟨rfl, fun expression state => ?_⟩
  rw [run_ask, run_ask]
  rcases asked : renderer.evaluator expression state.scope with error | value
  · rw [evaluator_screened_of_error asked]
    exact Or.inr rfl
  · rw [evaluator_screened asked]
    by_cases quiet : Quiet value.text
    · rw [if_pos quiet]
      exact Or.inr rfl
    · rw [if_neg quiet]
      exact Or.inl ⟨_, rfl, by simp [refuses]⟩

/-- **The loops are quiet where all values are that occur.** -/
theorem quietLoops_of_quietRun {scope : Scope} (quiet : QuietRun renderer source scope) :
    QuietLoops renderer source scope := by
  have screens : QuietLoops (screened renderer) source scope :=
    quietLoops_of_quietValues (quietValues_screened renderer) scope
  have guarded := (run_of_quietLoops screens (Nat.le_add_right source.length spareDepth)).1
  have same : (guardedRender (screened renderer) source).run scope =
      (guardedRender renderer source).run scope := by
    refine (unless_guardedRender_of_asksAlike (asksAlike_screened renderer) source).run_eq ?_
    intro error refused failed
    rw [← guarded, ← renderText] at failed
    rw [QuietRun, failed] at quiet
    exact absurd (quiet.symm.trans refused) Bool.false_ne_true
  rw [QuietLoops, same] at screens
  exact screens

/-- A value with a brace that begins no tag. -/
example : QuietRun ⟨evaluate .none, []⟩
    "\x7b% for i in [1, 2] %\x7d\x7b\x7b s \x7d\x7d\x7b% endfor %\x7d".toList
    ⟨[("s", .string "\x7b i \x7d")]⟩ := by
  decide +kernel

end Whole

end Rendering
end TextTemplate
