/-
**Contracts of renderings.**

A contract says which states a rendering may leave and with which errors it may fail. Renderings that
meet a contract one after the other meet it together; so a contract is shown for the evaluation of an
expression and for the scan of a text, and the passes of a rendering inherit it.

* `Contract`, `Meets`: a contract, and the renderings that meet it and give good values only;
* `Meets.bind`, `Meets.mapM_edits`, `Meets.attempt_settle`: **steps that meet a contract meet it
  together**;
* `Askable`: a text the parts of which may be evaluated;
* `meets_takes`, `meets_chosenText`, `meets_runLoop`: so branches may be chosen, and loops repeated.
-/

import TextTemplate.Proofs.Rendering.Guarded
import TextTemplate.Proofs.Tags.Parts

namespace TextTemplate
namespace Rendering

/-! ### Contracts -/

/-- **A contract**: the states that a rendering may leave, whatever the scope is, and the errors that it
may have. -/
structure Contract where
  keeps : RenderState → Prop
  allows : TemplateError → Prop
  anyScope : ∀ {state : RenderState} (scope : Scope), keeps state → keeps { state with scope := scope }

/-- A good value, or an error that is allowed. -/
def Contract.Admits {α : Type} (contract : Contract) (good : α → Prop) :
    Except TemplateError α → Prop
  | .ok value => good value
  | .error error => contract.allows error

/-- **A rendering meets a contract**: from a state that may be left it leaves one that may be left, and
it gives a good value or has an error that is allowed. -/
def Meets {α : Type} (contract : Contract) (good : α → Prop) (rendering : Rendering α) : Prop :=
  ∀ before, contract.keeps before →
    contract.Admits good ((ExceptT.run rendering).run before).1 ∧
      contract.keeps ((ExceptT.run rendering).run before).2

variable {α β : Type} {contract : Contract}

theorem meets_pure {good : α → Prop} {value : α} (holds : good value) :
    Meets contract good (pure value : Rendering α) :=
  fun _ kept => ⟨holds, kept⟩

theorem meets_throw (good : α → Prop) {error : TemplateError} (allowed : contract.allows error) :
    Meets contract good (throw error : Rendering α) :=
  fun _ kept => ⟨allowed, kept⟩

theorem meets_scope : Meets contract (fun _ => True) scope :=
  fun _ kept => ⟨trivial, kept⟩

theorem meets_changeScope (change : Scope → Scope) :
    Meets contract (fun _ => True) (changeScope change) :=
  fun before kept => ⟨trivial, contract.anyScope (change before.scope) kept⟩

/-- The tags of a text, if the fault of a text that cannot be scanned is allowed. -/
theorem meets_tagsOf {text : Text}
    (allowed : ∀ error, scan text = .error error → contract.allows (.malformed error)) :
    Meets contract (fun tags => scan text = .ok tags) (tagsOf text) := by
  rcases scanned : scan text with error | tags
  · rw [tagsOf_of_fault scanned]
    exact meets_throw _ (allowed error scanned)
  · rw [tagsOf_of_scan scanned]
    exact meets_pure rfl

namespace Meets

variable {good : α → Prop} {first : Rendering α}

theorem mono {good' : α → Prop} (meets : Meets contract good first)
    (weaker : ∀ value, good value → good' value) : Meets contract good' first := by
  intro before kept
  obtain ⟨admitted, kept'⟩ := meets before kept
  refine ⟨?_, kept'⟩
  generalize ((ExceptT.run first).run before).1 = outcome at admitted ⊢
  cases outcome with
  | ok value => exact weaker value admitted
  | error error => exact admitted

/-- **Steps one after the other meet a contract** if each of them does. -/
theorem bind {good' : β → Prop} {next : α → Rendering β} (meets : Meets contract good first)
    (later : ∀ value, good value → Meets contract good' (next value)) :
    Meets contract good' (first >>= next) := by
  intro before kept
  rw [run_bind]
  obtain ⟨admitted, kept'⟩ := meets before kept
  generalize (ExceptT.run first).run before = outcome at admitted kept' ⊢
  obtain ⟨error | value, between⟩ := outcome
  · exact ⟨admitted, kept'⟩
  · exact later value admitted between kept'

theorem forM {make : α → Rendering PUnit} {items : List α}
    (meets : ∀ item ∈ items, Meets contract (fun _ => True) (make item)) :
    Meets contract (fun _ => True) (items.forM make) := by
  induction items with
  | nil => exact meets_pure trivial
  | cons item items ih =>
    exact (meets item List.mem_cons_self).bind fun _ _ =>
      ih fun other member => meets other (List.mem_cons_of_mem _ member)

/-- What is done after a rendering, whether it has failed or not, changes the scope only. -/
theorem attempt_settle (meets : Meets contract good first) (change : Scope → Scope) :
    Meets contract good (do
      let outcome ← attempt first
      changeScope change
      settle outcome) := by
  intro before kept
  rw [run_attempt_settle]
  obtain ⟨admitted, kept'⟩ := meets before kept
  exact ⟨admitted, contract.anyScope _ kept'⟩

/-- An edit made from a text has its span, and the text. -/
theorem edit {good : Text → Prop} {replacement : Rendering Text}
    (meets : Meets contract good replacement) (span : Span) :
    Meets contract (fun edit => edit.span = span ∧ good edit.replacement)
      (do return Edit.mk span (← replacement)) :=
  meets.bind fun _ holds => meets_pure ⟨rfl, holds⟩

/-- **Edits that are made for some items** have the spans of the items, and good replacements. -/
theorem mapM_edits (span : α → Span) (good : Text → Prop) {make : α → Rendering Edit}
    {items : List α}
    (meets : ∀ item ∈ items,
      Meets contract (fun edit => edit.span = span item ∧ good edit.replacement) (make item)) :
    Meets contract (fun edits => edits.map Edit.span = items.map span ∧
      ∀ edit ∈ edits, (∃ item ∈ items, edit.span = span item) ∧ good edit.replacement)
      (items.mapM make) := by
  induction items with
  | nil => exact meets_pure ⟨rfl, fun edit member => absurd member List.not_mem_nil⟩
  | cons item items ih =>
    obtain ⟨first, later⟩ := List.forall_mem_cons.mp meets
    rw [List.mapM_cons]
    refine first.bind fun edit made => (ih later).bind fun edits made' => meets_pure ?_
    obtain ⟨same, holds⟩ := made
    obtain ⟨spans, each⟩ := made'
    refine ⟨by rw [List.map_cons, List.map_cons, same, spans], List.forall_mem_cons.mpr
      ⟨⟨⟨item, List.mem_cons_self, same⟩, holds⟩, fun other member => ?_⟩⟩
    obtain ⟨⟨item', inside, same'⟩, holds'⟩ := each other member
    exact ⟨⟨item', List.mem_cons_of_mem _ inside, same'⟩, holds'⟩

end Meets

/-! ### Expressions, branches and turns -/

section Parts

variable {renderer : Renderer}

/-- **A text the parts of which may be evaluated.** -/
def Askable (contract : Contract) (renderer : Renderer) (text : Text) : Prop :=
  ∀ expression, expression <:+: text →
    Meets contract (fun value => ∃ scope, renderer.evaluator expression scope = .ok value)
      (ask renderer expression)

theorem Askable.within {text part : Text} (askable : Askable contract renderer text)
    (within : part <:+: text) : Askable contract renderer part :=
  fun expression inside => askable expression (inside.trans within)

theorem Askable.ask {text : Text} (askable : Askable contract renderer text) :
    Meets contract (fun value => ∃ scope, renderer.evaluator text scope = .ok value)
      (ask renderer text) :=
  askable text List.infix_rfl

theorem meets_askTruth {expression : Text} (askable : Askable contract renderer expression) :
    Meets contract (fun _ => True) (askTruth renderer expression) :=
  askable.ask.bind fun _ _ => meets_pure trivial

theorem meets_allHold {parts : List Text} (askable : ∀ part ∈ parts, Askable contract renderer part) :
    Meets contract (fun _ => True) (allHold renderer parts) := by
  induction parts with
  | nil => exact meets_pure trivial
  | cons part parts ih =>
    obtain ⟨first, later⟩ := List.forall_mem_cons.mp askable
    refine (meets_askTruth first).bind fun truth _ => ?_
    split
    · exact ih later
    · exact meets_pure trivial

theorem meets_anyHolds {parts : List Text} (askable : ∀ part ∈ parts, Askable contract renderer part) :
    Meets contract (fun _ => True) (anyHolds renderer parts) := by
  induction parts with
  | nil => exact meets_pure trivial
  | cons part parts ih =>
    obtain ⟨first, later⟩ := List.forall_mem_cons.mp askable
    refine (meets_askTruth first).bind fun truth _ => ?_
    split
    · exact meets_pure trivial
    · exact ih later

theorem meets_holds {condition : Condition}
    (askable : ∀ part ∈ condition.parts, Askable contract renderer part) :
    Meets contract (fun _ => True) (holds renderer condition) := by
  cases condition with
  | negation part =>
    exact (meets_askTruth (askable part List.mem_cons_self)).bind fun _ _ => meets_pure trivial
  | conjunction parts => exact meets_allHold askable
  | disjunction parts => exact meets_anyHolds askable
  | single expression => exact meets_askTruth (askable expression List.mem_cons_self)

theorem meets_takes {guard : Guard}
    (askable : ∀ condition, guard = .holds condition → Askable contract renderer condition) :
    Meets contract (fun _ => True) (takes renderer guard) := by
  cases guard with
  | always => exact meets_pure trivial
  | never => exact meets_pure trivial
  | holds condition =>
    exact meets_holds fun part member =>
      (askable condition rfl).within (Condition.part_within member)

/-- The text of a branch, or none. -/
theorem meets_chosenText {text : Text} {good : Text → Prop} {branches : List Branch}
    (askable : ∀ branch ∈ branches, ∀ condition, branch.guard = .holds condition →
      Askable contract renderer condition)
    (bodies : ∀ branch ∈ branches, good (branch.body.of text)) (none : good []) :
    Meets contract good (chosenText renderer text branches) := by
  induction branches with
  | nil => exact meets_pure none
  | cons branch branches ih =>
    obtain ⟨first, later⟩ := List.forall_mem_cons.mp askable
    obtain ⟨first', later'⟩ := List.forall_mem_cons.mp bodies
    refine (meets_takes first).bind fun taken _ => ?_
    split
    · exact meets_pure first'
    · exact ih later later'

variable {good : Text → Prop} (flat : ∀ texts : List Text, (∀ text ∈ texts, good text) →
  good texts.flatten) {body : Rendering Text} (meets : Meets contract good body)
include flat meets

/-- The turns of a loop. -/
theorem meets_repeatBody (name : String) (length index : Nat) {done : List Text}
    (holds : ∀ text ∈ done, good text) (items : List Value) :
    Meets contract good (repeatBody body name length index done items) := by
  induction items generalizing index done with
  | nil => exact meets_pure (flat _ fun text member => holds text (List.mem_reverse.mp member))
  | cons item items ih =>
    refine (meets_changeScope _).bind fun _ _ => meets.bind fun text holds' => ?_
    exact ih (index + 1) (List.forall_mem_cons.mpr ⟨holds', holds⟩)

/-- **A loop meets a contract** if its body does. -/
theorem meets_runLoop {head : LoopHead} (askable : Askable contract renderer head.iterable) :
    Meets contract good (runLoop renderer body head) := by
  refine askable.ask.bind fun value _ => meets_scope.bind fun before _ => ?_
  exact (meets_repeatBody flat meets head.name _ 0 (fun text member => absurd member List.not_mem_nil)
    value.items).attempt_settle _

end Parts

end Rendering
end TextTemplate
