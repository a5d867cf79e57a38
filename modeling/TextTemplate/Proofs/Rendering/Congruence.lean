/-
**Relations that renderings keep.**

Choosing branches and putting out values is made of evaluations and scans, one after the other. So a
relation between two renderings that holds of their evaluations, and of steps whenever it holds of
each of them, holds of these passes too.

* `Congruence`: a relation that is kept when renderings are put together;
* `Congruence.chooseBranches`, `Congruence.substitute`: **the passes after the loops are related** if the
  evaluations are.
-/

import TextTemplate.Proofs.Rendering.Outcome
import TextTemplate.Rendering.Render

namespace TextTemplate
namespace Rendering

/-- **A relation between renderings that is kept** by putting them together. -/
structure Congruence (related : (α : Type) → Rendering α → Rendering α → Prop) : Prop where
  pure : ∀ {α : Type} (value : α), related α (pure value) (pure value)
  throw : ∀ {α : Type} (error : TemplateError), related α (throw error) (throw error)
  bind : ∀ {α β : Type} {first second : Rendering α} {next next' : α → Rendering β},
    related α first second → (∀ value, related β (next value) (next' value)) →
      related β (first >>= next) (second >>= next')

namespace Congruence

variable {related : (α : Type) → Rendering α → Rendering α → Prop} (congruence : Congruence related)
include congruence

theorem mapM {α β : Type} {make make' : α → Rendering β}
    (each : ∀ item, related β (make item) (make' item)) (items : List α) :
    related (List β) (items.mapM make) (items.mapM make') := by
  induction items with
  | nil => exact congruence.pure _
  | cons item items ih =>
    rw [List.mapM_cons, List.mapM_cons]
    exact congruence.bind (each item) fun _ => congruence.bind ih fun _ => congruence.pure _

theorem tagsOf (text : Text) : related (List Tag) (tagsOf text) (tagsOf text) := by
  rcases scanned : scan text with error | tags
  · rw [tagsOf_of_fault scanned]
    exact congruence.throw _
  · rw [tagsOf_of_scan scanned]
    exact congruence.pure _

theorem statementsOf (text : Text) : related (List Tag) (statementsOf text) (statementsOf text) :=
  congruence.bind (congruence.tagsOf text) fun _ => congruence.pure _

section Asks

variable {renderer renderer' : Renderer}
  (asks : ∀ expression, related Value (ask renderer expression) (ask renderer' expression))
include asks

theorem askTruth (expression : Text) :
    related Bool (askTruth renderer expression) (askTruth renderer' expression) :=
  congruence.bind (asks expression) fun _ => congruence.pure _

theorem allHold (parts : List Text) :
    related Bool (allHold renderer parts) (allHold renderer' parts) := by
  induction parts with
  | nil => exact congruence.pure _
  | cons part parts ih =>
    refine congruence.bind (congruence.askTruth asks part) fun truth => ?_
    split
    · exact ih
    · exact congruence.pure _

theorem anyHolds (parts : List Text) :
    related Bool (anyHolds renderer parts) (anyHolds renderer' parts) := by
  induction parts with
  | nil => exact congruence.pure _
  | cons part parts ih =>
    refine congruence.bind (congruence.askTruth asks part) fun truth => ?_
    split
    · exact congruence.pure _
    · exact ih

theorem holds (condition : Condition) :
    related Bool (holds renderer condition) (holds renderer' condition) := by
  cases condition with
  | negation part => exact congruence.bind (congruence.askTruth asks part) fun _ => congruence.pure _
  | conjunction parts => exact congruence.allHold asks parts
  | disjunction parts => exact congruence.anyHolds asks parts
  | single expression => exact congruence.askTruth asks expression

theorem takes (guard : Guard) : related Bool (takes renderer guard) (takes renderer' guard) := by
  cases guard with
  | always => exact congruence.pure _
  | never => exact congruence.pure _
  | holds condition => exact congruence.holds asks _

theorem chosenText (text : Text) (branches : List Branch) :
    related Text (chosenText renderer text branches) (chosenText renderer' text branches) := by
  induction branches with
  | nil => exact congruence.pure _
  | cons branch branches ih =>
    refine congruence.bind (congruence.takes asks branch.guard) fun taken => ?_
    split
    · exact congruence.pure _
    · exact ih

theorem branchLoop (depth : Nat) (text : Text) :
    related Text (branchLoop renderer depth text) (branchLoop renderer' depth text) := by
  induction depth generalizing text with
  | zero => exact congruence.throw _
  | succ depth ih =>
    refine congruence.bind ?_ fun _ => congruence.pure _
    refine congruence.bind (congruence.statementsOf text) fun tags => congruence.mapM (fun group => ?_) _
    exact congruence.bind (congruence.chosenText asks text group.branches) fun chosen =>
      congruence.bind (ih chosen) fun _ => congruence.pure _

/-- **Choosing branches.** -/
theorem chooseBranches (text : Text) :
    related Text (chooseBranches renderer text) (chooseBranches renderer' text) :=
  congruence.branchLoop asks _ text

/-- **Putting out values**, if the same keywords are directives. -/
theorem substitute (keywords : renderer.keywords = renderer'.keywords) (text : Text) :
    related Text (substitute renderer text) (substitute renderer' text) := by
  refine congruence.bind ?_ fun _ => congruence.pure _
  refine congruence.bind (congruence.tagsOf text) fun tags => congruence.mapM (fun tag => ?_) _
  refine congruence.bind ?_ fun _ => congruence.pure _
  have silent : isSilent renderer tag = isSilent renderer' tag := by
    rw [isSilent, isSilent, keywords]
  rw [outputOf, outputOf, silent]
  split
  · exact congruence.pure _
  · exact congruence.bind (asks _) fun _ => congruence.pure _

end Asks

end Congruence

end Rendering
end TextTemplate
