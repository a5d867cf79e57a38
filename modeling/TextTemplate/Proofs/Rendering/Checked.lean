/-
**What the check of a template is worth.**

The tags of a template are checked once, but each pass of a rendering scans a text that the pass before
has made. No tag begins there that the source does not have, if no value has a brace or a percent sign;
so nothing is left open, and no tag is closed by the closer of another kind. But where a tag gives way
to nothing, a character before it may make a closer with a brace behind it.

* `Evaluator.Harmless`: an evaluator that always succeeds, with values without braces and percent signs;
* `strays`, `covers_strays`: a contract that allows stray closers, if the neighbours are not tight, and
  covers all composed texts;
* `render_of_checked`: **a checked template renders, or a stray closer comes into being**, which is only
  so if its source has a closing brace behind a tag, and one or a percent sign before a tag.
-/

import TextTemplate.Proofs.Rendering.Safety
import TextTemplate.Template

namespace TextTemplate

/-! ### Harmless values -/

/-- A character that is in no delimiter. -/
def IsHarmless (c : Char) : Prop :=
  c ≠ '{' ∧ c ≠ '}' ∧ c ≠ '%'

instance (c : Char) : Decidable (IsHarmless c) :=
  inferInstanceAs (Decidable (_ ∧ _))

/-- **An evaluator that always succeeds**, with values whose texts have no braces and no percent signs. -/
def Evaluator.Harmless (evaluator : Evaluator) : Prop :=
  ∀ expression scope, ∃ value, evaluator expression scope = .ok value ∧
    ∀ c ∈ value.text, IsHarmless c

/-- Whether an evaluator with one value is harmless can be checked on the text of that value. -/
theorem Evaluator.harmless_constant (value : Value)
    (all : (value.text.all fun c => decide (IsHarmless c)) = true) :
    Evaluator.Harmless fun _ _ => .ok value :=
  fun _ _ => ⟨value, rfl, fun c member => of_decide_eq_true (List.all_eq_true.mp all c member)⟩

/-- **Neighbours that admit harmless characters** beside any character, before a tag and behind one. -/
structure Neighbours.Admits (neighbours : Neighbours) : Prop where
  beside : ∀ {c : Char} (d : Char), IsHarmless c → neighbours.beside c d
  before : ∀ {c : Char}, IsHarmless c → neighbours.before c
  behind : ∀ {c : Char}, IsHarmless c → neighbours.behind c

theorem Neighbours.admits_quiet : quiet.Admits where
  beside d harmless := (Loose.of_ne d harmless.1 harmless.2.1 harmless.2.2).noOpener
  before harmless := harmless.1
  behind _ := trivial

theorem Neighbours.admits_clearBehind : clearBehind.Admits where
  beside d harmless := Loose.of_ne d harmless.1 harmless.2.1 harmless.2.2
  before harmless := harmless.1
  behind harmless := harmless.2.1

theorem Neighbours.admits_clearBefore : clearBefore.Admits where
  beside d harmless := Loose.of_ne d harmless.1 harmless.2.1 harmless.2.2
  before harmless := harmless
  behind _ := trivial

/-- A text of harmless characters may stand anywhere. -/
theorem stretch_of_harmless {neighbours : Neighbours} (admits : neighbours.Admits) {text : Text}
    (harmless : ∀ c ∈ text, IsHarmless c) : Stretch neighbours true true text where
  chain := by
    induction text with
    | nil => exact List.isChain_nil
    | cons c text ih =>
      obtain ⟨head, later⟩ := List.forall_mem_cons.mp harmless
      exact List.isChain_cons.mpr ⟨fun d _ => admits.beside d head, ih later⟩
  first _ c isFirst := admits.behind (harmless c (List.mem_of_mem_head? isFirst))
  last _ c isLast := admits.before (harmless c (List.mem_of_mem_getLast? isLast))

/-! ### Stray closers -/

namespace Rendering

/-- **Stray closers are allowed**, if the neighbours are not tight; nothing else is. -/
def strays (neighbours : Neighbours) : Contract where
  keeps _ := True
  allows error := ¬ neighbours.Tight ∧
    ∃ there close, error = .malformed ⟨there, .unexpectedClose close⟩
  anyScope _ _ := trivial

section Strays

variable {renderer : Renderer} {neighbours : Neighbours} (harmless : renderer.evaluator.Harmless)
include harmless

theorem stretchValues_of_harmless (admits : neighbours.Admits) : StretchValues neighbours renderer := by
  intro expression scope value answer
  obtain ⟨value', answer', clear⟩ := harmless expression scope
  obtain rfl : value = value' := Except.ok.inj (answer.symm.trans answer')
  exact stretch_of_harmless admits clear

/-- **A contract that allows stray closers covers all composed texts**: their tags are found, or a stray
closer. -/
theorem covers_strays : Covers (strays neighbours) renderer neighbours anyTag where
  asks := by
    intro kind body _ expression _ before _
    obtain ⟨value, answer, -⟩ := harmless expression before.scope
    rw [run_ask, answer]
    exact ⟨⟨before.scope, answer⟩, trivial⟩
  scans := by
    intro front back text error composed fault
    rcases composed.cut_or_stray with ⟨pieces, last, cut⟩ | ⟨loose, there, close, stray⟩
    · rw [scan, cut.cut.scanFrom_eq] at fault
      cases fault
    · rw [fault] at stray
      cases stray
      exact ⟨loose, there, close, rfl⟩

/-- **The rendering of a composed text** succeeds, or a stray closer comes into being. -/
theorem renderText_of_composed (admits : neighbours.Admits) {source : Text}
    (composed : Composed neighbours anyTag false false source) (scope : Scope) :
    (∃ out, ((renderText renderer source).run scope).1 = .ok out) ∨
      ¬ neighbours.Tight ∧ ∃ there close, ((renderText renderer source).run scope).1 =
        .error (.malformed ⟨there, .unexpectedClose close⟩) := by
  have quietValues : renderer.QuietValues := fun expression scope value answer =>
    (stretchValues_of_harmless harmless Neighbours.admits_quiet expression scope value answer).quiet
  have quiet : QuietLoops renderer source scope := quietLoops_of_quietValues quietValues scope
  have guarded := (run_of_quietLoops quiet (Nat.le_add_right source.length spareDepth)).1
  have settles : Settles (strays neighbours) renderer neighbours :=
    Or.inr (stretchValues_of_harmless harmless admits)
  have meets := (covers_strays harmless).guardedRender settles composed
  have admitted := (meets ⟨scope, []⟩ trivial).1
  rw [renderText, guarded, Rendering.run]
  rcases ended : ((ExceptT.run (guardedRender renderer source)).run ⟨scope, []⟩).1 with error | out
  · rw [ended] at admitted
    obtain ⟨loose, there, close, rfl⟩ := admitted
    exact Or.inr ⟨loose, there, close, rfl⟩
  · exact Or.inl ⟨out, rfl⟩

end Strays

end Rendering

/-! ### Checked templates -/

/-- **A checked template renders, or a stray closer comes into being** in a text that a pass has made:
there is no other error, if all expressions have values, and these have no braces and no percent signs.
No closer comes into being if no tag of the source has a closing brace directly behind it, or none has
a closing brace or a percent sign directly before it. -/
theorem render_of_checked {source : Text} {template : Template}
    (accepted : Template.ofSource? source = .ok template) (keywords : List String)
    {evaluator : Evaluator} (harmless : evaluator.Harmless) (context : Context) :
    let outcome := { template with keywords := keywords }.render evaluator context
    ((∃ out, outcome = .ok out) ∨
        ∃ there close, outcome = .error (.malformed ⟨there, .unexpectedClose close⟩)) ∧
      ∀ tags, scan source = .ok tags → ClearBehind source tags ∨ ClearBefore source tags →
        ∃ out, outcome = .ok out := by
  intro outcome
  obtain ⟨tags, scanned, same⟩ : ∃ tags, scan source = .ok tags ∧ template.source = source := by
    unfold Template.ofSource? at accepted
    rcases scanned : scan source with error | tags
    · rw [scanned] at accepted
      cases accepted
    · rw [scanned] at accepted
      cases accepted
      exact ⟨tags, rfl, rfl⟩
  have ends : ∀ neighbours : Neighbours, neighbours.Admits →
      Composed neighbours anyTag false false source →
        (∃ out, outcome = .ok out) ∨ ¬ neighbours.Tight ∧
          ∃ there close, outcome = .error (.malformed ⟨there, .unexpectedClose close⟩) := by
    intro neighbours admits composed
    rw [← same] at composed
    have harmless' : (Renderer.mk evaluator keywords).evaluator.Harmless := harmless
    exact Rendering.renderText_of_composed harmless' admits composed (Scope.ofContext context)
  refine ⟨?_, fun tags' scanned' clear => ?_⟩
  · exact (ends Neighbours.quiet Neighbours.admits_quiet (composed_quiet scanned)).imp_right And.right
  · rcases clear with clear | clear
    · exact (ends Neighbours.clearBehind Neighbours.admits_clearBehind
        (composed_clearBehind scanned' clear)).resolve_right
          fun stray => stray.1 Neighbours.tight_clearBehind
    · exact (ends Neighbours.clearBefore Neighbours.admits_clearBefore
        (composed_clearBefore scanned' clear)).resolve_right
          fun stray => stray.1 Neighbours.tight_clearBefore

/-- A loop behind a brace, in which a percent sign stands before a tag. -/
theorem render_of_checked_loop :
    let source := "\x7d\x7b% for x in y %\x7d%\x7b\x7b x \x7d\x7d\x7b% endfor %\x7d.".toList
    let evaluator : Evaluator := fun _ _ => .ok (.string "v")
    ∃ template tags, Template.ofSource? source = .ok template ∧ evaluator.Harmless ∧
      scan source = .ok tags ∧ ClearBehind source tags ∧
        ∃ out, template.render evaluator (Context.ofList []) = .ok out := by
  intro source evaluator
  have harmless : evaluator.Harmless := Evaluator.harmless_constant _ (by decide +kernel)
  have accepted : Template.ofSource? source = .ok ⟨source, none, []⟩ := by decide +kernel
  obtain ⟨tags, scanned, clear⟩ : ∃ tags, scan source = .ok tags ∧ ClearBehind source tags :=
    ⟨(scan source).toOption.getD [], by decide +kernel, by decide +kernel⟩
  exact ⟨⟨source, none, []⟩, tags, accepted, harmless, scanned, clear,
    (render_of_checked accepted [] harmless (Context.ofList [])).2 tags scanned (Or.inl clear)⟩

/-- **A stray closer**: the braces on both sides of a branch that is not taken make one. -/
theorem stray_closer_of_checked :
    let source := "\x7d\x7b% if false %\x7d\x7b% endif %\x7d\x7d".toList
    let evaluator : Evaluator := fun _ _ => .ok (.bool false)
    ∃ template, Template.ofSource? source = .ok template ∧ evaluator.Harmless ∧
      ∀ out, template.render evaluator (Context.ofList []) ≠ .ok out := by
  intro source evaluator
  have fault : (Template.render ⟨source, none, []⟩ evaluator (Context.ofList [])).toOption = none := by
    decide +kernel
  refine ⟨⟨source, none, []⟩, by decide +kernel, Evaluator.harmless_constant _ (by decide +kernel),
    fun out same => ?_⟩
  rw [same] at fault
  cases fault

end TextTemplate
