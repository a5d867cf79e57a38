/-
**Renderings that agree.**

Two renderings agree if from every state they leave the same state, and either both succeed with
related values or both fail with the same error. Agreement is kept by every way of putting renderings
together, so it goes up from the parts of a pass to the whole.

* `Agree.bind`: **steps that agree one after the other agree**;
* `Agree.attempt`: so do renderings whose failures are turned into values;
* `agree_mapM_append`: what is done for two lists is done for the first and then for the second.
-/

import TextTemplate.Proofs.Rendering.Outcome

namespace TextTemplate

namespace Rendering

variable {α β γ δ : Type}

/-- The same outcome, up to a relation between the values. -/
inductive SameOutcome (related : α → β → Prop) :
    Except TemplateError α × RenderState → Except TemplateError β × RenderState → Prop
  | ok {value : α} {value' : β} (state : RenderState) :
      related value value' → SameOutcome related (.ok value, state) (.ok value', state)
  | error (error : TemplateError) (state : RenderState) :
      SameOutcome related (.error error, state) (.error error, state)

/-- **Two renderings agree**, up to a relation between their values. -/
def Agree (related : α → β → Prop) (first : Rendering α) (second : Rendering β) : Prop :=
  ∀ state, SameOutcome related ((ExceptT.run first).run state) ((ExceptT.run second).run state)

/-- A rendering gives only values of a kind. -/
abbrev Always (kind : α → Prop) (rendering : Rendering α) : Prop :=
  Agree (fun value value' => value = value' ∧ kind value) rendering rendering

theorem agree_pure {related : α → β → Prop} {value : α} {value' : β}
    (same : related value value') : Agree related (pure value) (pure value') :=
  fun state => SameOutcome.ok state same

theorem agree_throw (related : α → β → Prop) (error : TemplateError) :
    Agree related (throw error) (throw error) :=
  fun state => SameOutcome.error error state

namespace Agree

variable {related : α → β → Prop} {first : Rendering α} {second : Rendering β}

theorem mono {related' : α → β → Prop} (agree : Agree related first second)
    (weaker : ∀ value value', related value value' → related' value value') :
    Agree related' first second := by
  intro state
  have outcome := agree state
  generalize (ExceptT.run first).run state = before, (ExceptT.run second).run state = before'
    at outcome ⊢
  cases outcome with
  | ok state same => exact SameOutcome.ok state (weaker _ _ same)
  | error error state => exact SameOutcome.error error state

/-- **Steps that agree one after the other agree.** -/
theorem bind {related' : γ → δ → Prop} {next : α → Rendering γ} {next' : β → Rendering δ}
    (agree : Agree related first second)
    (later : ∀ value value', related value value' → Agree related' (next value) (next' value')) :
    Agree related' (first >>= next) (second >>= next') := by
  intro state
  rw [run_bind, run_bind]
  have outcome := agree state
  generalize (ExceptT.run first).run state = before, (ExceptT.run second).run state = before'
    at outcome ⊢
  cases outcome with
  | ok between same => exact later _ _ same between
  | error error between => exact SameOutcome.error error between

theorem map {related' : γ → δ → Prop} {f : α → γ} {g : β → δ} (agree : Agree related first second)
    (maps : ∀ value value', related value value' → related' (f value) (g value')) :
    Agree related' (do return f (← first)) (do return g (← second)) :=
  agree.bind fun _ _ same => agree_pure (maps _ _ same)

/-- A value may be changed on one side only. -/
theorem mapLeft {related' : γ → β → Prop} {f : α → γ} (agree : Agree related first second)
    (maps : ∀ value value', related value value' → related' (f value) value') :
    Agree related' (do return f (← first)) second := by
  have mapped : Agree related' (do return f (← first)) (do return id (← second)) :=
    agree.map fun value value' same => maps value value' same
  simp only [id, bind_pure] at mapped
  exact mapped

theorem mapRight {related' : α → γ → Prop} {g : β → γ} (agree : Agree related first second)
    (maps : ∀ value value', related value value' → related' value (g value')) :
    Agree related' first (do return g (← second)) := by
  have mapped : Agree related' (do return id (← first)) (do return g (← second)) :=
    agree.map fun value value' same => maps value value' same
  simp only [id, bind_pure] at mapped
  exact mapped

end Agree

theorem Agree.refl (rendering : Rendering α) : Agree Eq rendering rendering := by
  intro state
  rcases (ExceptT.run rendering).run state with ⟨error | value, after⟩
  · exact SameOutcome.error error after
  · exact SameOutcome.ok after rfl

/-- Renderings that agree on equal values are the same. -/
theorem Agree.run_eq {first second : Rendering α} (agree : Agree Eq first second) (scope : Scope) :
    first.run scope = second.run scope := by
  unfold run
  have outcome := agree ⟨scope, []⟩
  generalize (ExceptT.run first).run ⟨scope, []⟩ = before,
    (ExceptT.run second).run ⟨scope, []⟩ = before' at outcome ⊢
  cases outcome with
  | ok state same => rw [same]
  | error => rfl

/-- Outcomes of renderings that agree. -/
inductive SameValue (related : α → β → Prop) :
    Except TemplateError α → Except TemplateError β → Prop
  | ok {value : α} {value' : β} : related value value' → SameValue related (.ok value) (.ok value')
  | error (error : TemplateError) : SameValue related (.error error) (.error error)

/-- Turning failures into values keeps agreement. -/
theorem Agree.attempt {related : α → β → Prop} {first : Rendering α} {second : Rendering β}
    (agree : Agree related first second) :
    Agree (SameValue related) (attempt first) (attempt second) := by
  intro state
  have run {γ : Type} (rendering : Rendering γ) :
      (ExceptT.run (Rendering.attempt rendering)).run state =
        (.ok ((ExceptT.run rendering).run state).1, ((ExceptT.run rendering).run state).2) := rfl
  rw [run, run]
  have outcome := agree state
  generalize (ExceptT.run first).run state = before, (ExceptT.run second).run state = before'
    at outcome ⊢
  cases outcome with
  | ok state same => exact SameOutcome.ok state (SameValue.ok same)
  | error error state => exact SameOutcome.ok state (SameValue.error error)

theorem agree_settle {related : α → β → Prop} {value : Except TemplateError α}
    {value' : Except TemplateError β} (same : SameValue related value value') :
    Agree related (settle value) (settle value') := by
  cases same with
  | ok same => exact agree_pure same
  | error error => exact agree_throw related error

/-! ### Lists -/

/-- What is done for two lists is done for the first and then for the second. -/
theorem agree_mapM_append {related : List β → γ → Prop} {related' : List β → δ → Prop}
    {combined : List β → ε → Prop} {f : α → Rendering β} {front rest : List α}
    {first : Rendering γ} {second : Rendering δ} {combine : γ → δ → ε}
    (agree : Agree related (front.mapM f) first) (agree' : Agree related' (rest.mapM f) second)
    (combines : ∀ values values' value value', related values value → related' values' value' →
      combined (values ++ values') (combine value value')) :
    Agree combined ((front ++ rest).mapM f) (do return combine (← first) (← second)) := by
  rw [List.mapM_append]
  exact agree.bind fun values value same => agree'.bind fun values' value' same' =>
    agree_pure (combines _ _ _ _ same same')

end Rendering
end TextTemplate
