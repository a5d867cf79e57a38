/-
**Rendering with a guard in the loops.**

What a turn of a loop renders to is scanned again, so the text of a value may become a tag there. A
guarded rendering does what a rendering does, but refuses to go on where a tag begins in what a turn
renders to. Where it does not refuse, nothing that is scanned comes of a value, so what is proved about
guarded renderings holds of the rendering itself.

* `Unless`: two renderings go alike unless the first one fails with a certain error;
* `Unless.passes`: **so do the passes** of two renderers that ask alike;
* `QuietLoops`: the guarded rendering of a text does not refuse;
* `run_guardedRender`: **a guarded rendering goes like the rendering, unless it refuses**;
* `run_render_succ`: a rendering goes like one that allows deeper loops, unless it reaches its bound.
-/

import TextTemplate.Proofs.Rendering.Congruence
import TextTemplate.Proofs.Tags.Drawn

namespace TextTemplate
namespace Rendering

/-! ### Renderings that go alike -/

/-- **Two renderings go alike unless the first one fails** with an error of a kind: from every state they
have the same outcome and leave the same state, if the first one does not. -/
def Unless {α : Type} (fault : TemplateError → Prop) (first second : Rendering α) : Prop :=
  ∀ state, (∃ error, ((ExceptT.run first).run state).1 = .error error ∧ fault error) ∨
    (ExceptT.run first).run state = (ExceptT.run second).run state

namespace Unless

variable {α β : Type} {fault : TemplateError → Prop}

theorem refl (rendering : Rendering α) : Unless fault rendering rendering :=
  fun _ => Or.inr rfl

theorem throw {error : TemplateError} (faulty : fault error) (second : Rendering α) :
    Unless fault (throw error) second :=
  fun _ => Or.inl ⟨error, rfl, faulty⟩

theorem bind {first second : Rendering α} {next next' : α → Rendering β}
    (alike : Unless fault first second) (later : ∀ value, Unless fault (next value) (next' value)) :
    Unless fault (first >>= next) (second >>= next') := by
  intro state
  rw [run_bind, run_bind]
  rcases alike state with ⟨error, failed, faulty⟩ | same
  · -- the first step has failed, and so has the whole
    refine Or.inl ⟨error, ?_, faulty⟩
    generalize (ExceptT.run first).run state = outcome at failed ⊢
    obtain ⟨_, between⟩ := outcome
    obtain rfl : _ = _ := failed
    rfl
  · rw [← same]
    rcases (ExceptT.run first).run state with ⟨error | value, between⟩
    · exact Or.inr rfl
    · exact later value between

/-- To go alike is kept by putting renderings together. -/
theorem congruence (fault : TemplateError → Prop) : Congruence fun _ => Unless fault where
  pure _ := refl _
  throw _ := refl _
  bind := bind

theorem forM {make make' : α → Rendering PUnit} (alike : ∀ item, Unless fault (make item) (make' item))
    (items : List α) : Unless fault (items.forM make) (items.forM make') := by
  induction items with
  | nil => exact refl _
  | cons item items ih => exact (alike item).bind fun _ => ih

theorem attempt_settle {first second : Rendering α} (alike : Unless fault first second)
    (change : Scope → Scope) :
    Unless fault (do
      let outcome ← attempt first
      changeScope change
      settle outcome) (do
      let outcome ← attempt second
      changeScope change
      settle outcome) := by
  intro state
  rw [run_attempt_settle, run_attempt_settle]
  rcases alike state with failed | same
  · exact Or.inl failed
  · exact Or.inr (by rw [same])

/-- A rendering that does not fail in this way goes like the other one. -/
theorem run_eq {first second : Rendering α} (alike : Unless fault first second) {scope : Scope}
    (passed : ∀ error, fault error → (first.run scope).1 ≠ .error error) :
    first.run scope = second.run scope :=
  (alike ⟨scope, []⟩).resolve_left fun ⟨error, failed, faulty⟩ => passed error faulty failed

end Unless

/-- **Two renderers ask alike**: they know the same directives, and their evaluations go alike unless the
first one fails in a certain way. -/
structure AsksAlike (fault : TemplateError → Prop) (renderer renderer' : Renderer) : Prop where
  keywords : renderer.keywords = renderer'.keywords
  asks : ∀ expression, Unless fault (ask renderer expression) (ask renderer' expression)

theorem AsksAlike.refl (fault : TemplateError → Prop) (renderer : Renderer) :
    AsksAlike fault renderer renderer :=
  ⟨rfl, fun _ => Unless.refl _⟩

namespace Unless

variable {fault : TemplateError → Prop} {renderer renderer' : Renderer}

theorem repeatBody {body body' : Rendering Text} (alike : Unless fault body body') (name : String)
    (length index : Nat) (done : List Text) (items : List Value) :
    Unless fault (repeatBody body name length index done items)
      (repeatBody body' name length index done items) := by
  induction items generalizing index done with
  | nil => exact refl _
  | cons item items ih => exact (refl _).bind fun _ => alike.bind fun text => ih _ _

section Passes

variable (asking : AsksAlike fault renderer renderer')
include asking

theorem assign (assignment : Assignment) :
    Unless fault (assign renderer assignment) (assign renderer' assignment) :=
  (asking.asks assignment.expression).bind fun _ => refl _

theorem runAssignments (text : Text) :
    Unless fault (runAssignments renderer text) (runAssignments renderer' text) :=
  (refl _).bind fun _ => forM (assign asking) _

theorem chooseBranches (text : Text) :
    Unless fault (chooseBranches renderer text) (chooseBranches renderer' text) :=
  (congruence fault).chooseBranches asking.asks text

theorem substitute (text : Text) :
    Unless fault (substitute renderer text) (substitute renderer' text) :=
  (congruence fault).substitute asking.asks asking.keywords text

theorem runLoop {body body' : Rendering Text} (alike : Unless fault body body') (head : LoopHead) :
    Unless fault (runLoop renderer body head) (runLoop renderer' body' head) :=
  (asking.asks head.iterable).bind fun _ => (refl _).bind fun _ =>
    (alike.repeatBody head.name _ 0 [] _).attempt_settle _

variable {repetition repetition' : Text → Rendering Text}
  (alike : ∀ body, Unless fault (repetition body) (repetition' body))
include alike

theorem expandLoops (text : Text) :
    Unless fault (expandLoops renderer repetition text) (expandLoops renderer' repetition' text) := by
  refine bind (bind (refl _) fun tags => (congruence fault).mapM (fun loop => ?_) _) fun _ => refl _
  exact (runLoop asking (alike _) loop.info).bind fun _ => refl _

/-- **The passes go alike**, if the evaluations and the repetitions of loops do. -/
theorem passes (text : Text) :
    Unless fault (passes renderer repetition text) (passes renderer' repetition' text) :=
  (runAssignments asking text).bind fun _ => (expandLoops asking alike text).bind fun expanded =>
    (chooseBranches asking expanded).bind fun chosen => substitute asking chosen

end Passes

end Unless

/-! ### The guard -/

/-- The error of a guarded rendering that refuses. No rendering of a text has this error. -/
def refusal : TemplateError := .noOutputDirectory

/-- Replaces every tag of a text by its output, if that gives a quiet text. -/
def guardedSubstitute (renderer : Renderer) (text : Text) : Rendering Text := do
  let result ← substitute renderer text
  if Quiet result then return result else throw refusal

/-- The four passes, with a guard in the last one. -/
def guardedPasses (renderer : Renderer) (repetition : Text → Rendering Text) (text : Text) :
    Rendering Text := do
  runAssignments renderer text
  let expanded ← expandLoops renderer repetition text
  let chosen ← chooseBranches renderer expanded
  guardedSubstitute renderer chosen

/-- One repetition of the body of a loop, with a guard. -/
def guardedRepetition (renderer : Renderer) : (depth : Nat) → Text → Rendering Text
  | 0, _ => throw .tooDeep
  | depth + 1, body => do
    let rendered ← guardedPasses renderer (guardedRepetition renderer depth) body
    expandLoops renderer (guardedRepetition renderer depth) rendered

/-- Renders a text with a guard in its loops. What is output outside of all loops is not scanned
again and needs no guard. The loops may be nested as deep as the text is long. -/
def guardedRender (renderer : Renderer) (text : Text) : Rendering Text :=
  passes renderer (guardedRepetition renderer text.length) text

/-- **The loops of a text are quiet**: when it is rendered from a scope, no turn of a loop renders to a
text in which a tag begins, or that ends in an opening brace. -/
def QuietLoops (renderer : Renderer) (text : Text) (scope : Scope) : Prop :=
  ((guardedRender renderer text).run scope).1 ≠ .error refusal

instance (renderer : Renderer) (text : Text) (scope : Scope) :
    Decidable (QuietLoops renderer text scope) :=
  inferInstanceAs (Decidable (_ ≠ _))

section Guard

variable {renderer renderer' : Renderer}

theorem unless_guardedSubstitute (text : Text) :
    Unless (· = refusal) (guardedSubstitute renderer text) (substitute renderer text) := by
  rw [← bind_pure (substitute renderer text)]
  refine (Unless.refl _).bind fun result => ?_
  split
  · exact Unless.refl _
  · exact Unless.throw (by rfl) _

theorem unless_guardedPasses {repetition repetition' : Text → Rendering Text}
    (alike : ∀ body, Unless (· = refusal) (repetition body) (repetition' body)) (text : Text) :
    Unless (· = refusal) (guardedPasses renderer repetition text) (passes renderer repetition' text) :=
  (Unless.refl _).bind fun _ => (Unless.expandLoops (.refl _ _) alike text).bind fun _ =>
    (Unless.refl _).bind fun chosen => unless_guardedSubstitute chosen

theorem unless_guardedRepetition (depth : Nat) (body : Text) :
    Unless (· = refusal) (guardedRepetition renderer depth body) (repetition renderer depth body) := by
  induction depth generalizing body with
  | zero => exact Unless.refl _
  | succ depth ih =>
    exact (unless_guardedPasses ih body).bind fun rendered => Unless.expandLoops (.refl _ _) ih rendered

/-- **A guarded rendering goes like the rendering**, unless it refuses. -/
theorem run_guardedRender {text : Text} {scope : Scope} (quiet : QuietLoops renderer text scope) :
    (render renderer text.length text).run scope = (guardedRender renderer text).run scope := by
  have alike : Unless (· = refusal) (guardedRender renderer text) (render renderer text.length text) :=
    Unless.passes (.refl _ _) (unless_guardedRepetition text.length) text
  refine (alike.run_eq ?_).symm
  rintro _ rfl
  exact quiet

/-! ### Renderers that ask alike -/

section Alike

variable {fault : TemplateError → Prop} (asking : AsksAlike fault renderer renderer')
include asking

theorem unless_guardedPasses_of_asksAlike {repetition repetition' : Text → Rendering Text}
    (alike : ∀ body, Unless fault (repetition body) (repetition' body)) (text : Text) :
    Unless fault (guardedPasses renderer repetition text) (guardedPasses renderer' repetition' text) :=
  (Unless.runAssignments asking text).bind fun _ =>
    (Unless.expandLoops asking alike text).bind fun expanded =>
      (Unless.chooseBranches asking expanded).bind fun chosen =>
        (Unless.substitute asking chosen).bind fun _ => Unless.refl _

theorem unless_guardedRepetition_of_asksAlike (depth : Nat) (body : Text) :
    Unless fault (guardedRepetition renderer depth body) (guardedRepetition renderer' depth body) := by
  induction depth generalizing body with
  | zero => exact Unless.refl _
  | succ depth ih =>
    exact (unless_guardedPasses_of_asksAlike asking ih body).bind fun rendered =>
      Unless.expandLoops asking ih rendered

/-- **The guarded renderings of two renderers that ask alike go alike.** -/
theorem unless_guardedRender_of_asksAlike (text : Text) :
    Unless fault (guardedRender renderer text) (guardedRender renderer' text) :=
  Unless.passes asking (unless_guardedRepetition_of_asksAlike asking text.length) text

end Alike

/-! ### Depth -/

theorem unless_repetition (depth : Nat) (body : Text) :
    Unless (· = .tooDeep) (repetition renderer depth body) (repetition renderer (depth + 1) body) := by
  induction depth generalizing body with
  | zero => exact Unless.throw (by rfl) _
  | succ depth ih =>
    exact (Unless.passes (.refl _ _) ih body).bind fun rendered =>
      Unless.expandLoops (.refl _ _) ih rendered

theorem run_render_succ {depth : Nat} {text : Text} {scope : Scope}
    (ended : ((render renderer depth text).run scope).1 ≠ .error .tooDeep) :
    (render renderer (depth + 1) text).run scope = (render renderer depth text).run scope := by
  have alike : Unless (· = .tooDeep) (render renderer depth text) (render renderer (depth + 1) text) :=
    Unless.passes (.refl _ _) (unless_repetition depth) text
  refine (alike.run_eq ?_).symm
  rintro _ rfl
  exact ended

/-- **What a rendering gives does not depend on its bound**, if the bound is not reached. -/
theorem run_render_of_le {depth depth' : Nat} (deeper : depth ≤ depth') {text : Text} {scope : Scope}
    (ended : ((render renderer depth text).run scope).1 ≠ .error .tooDeep) :
    (render renderer depth' text).run scope = (render renderer depth text).run scope := by
  induction depth', deeper using Nat.le_induction with
  | base => rfl
  | succ depth' deeper ih =>
    rw [← ih] at ended
    exact (run_render_succ ended).trans ih

end Guard

end Rendering
end TextTemplate
