/-
**Compiled templates.**

What an environment compiles a template to can be scanned: the resolution ends with a text that has
been looked through for a parent, and stripping lines breaks no tag. So it is a template of its own,
and it renders as the environment renders the name.

* `Environment.CompilesTo`: what a template compiles to, by the resolution without bounds, so for any
  loader;
* `compiled_renders_alike`: **a template made of the compiled text renders exactly like the
  environment.**
-/

import TextTemplate.Environment
import TextTemplate.Proofs.Inheritance.Ancestry
import TextTemplate.Proofs.Inheritance.Stripping
import TextTemplate.Template

namespace TextTemplate

/-- A text in which a first reference has been looked for can be scanned. -/
theorem scan_of_firstReference?_eq_ok {keyword : String} {text : Text}
    {first : Option (Tag × String)} (found : firstReference? keyword text = .ok first) :
    ∃ tags, scan text = .ok tags := by
  rcases scanned : scan text with error | tags
  · exact absurd scanned (not_fault_of_firstReference? found)
  · exact ⟨tags, rfl⟩

/-- The way up from a text ends with a text that can be scanned and extends nothing. -/
theorem ParentsEnd.firstReference?_eq_none {loader : Loader} {depth rounds : Nat}
    {chain : List String} {text : Text} {outcome : Except TemplateError Text}
    (ends : ParentsEnd loader depth rounds chain text outcome) :
    ∀ resolved, outcome = .ok resolved → firstReference? "extends" resolved = .ok none := by
  induction ends with
  | done found =>
    rintro _ ⟨⟩
    exact found
  | fault | cycle | parentFault | mergeFault => exact fun resolved same => nomatch same
  | merge _ _ _ _ _ ih => exact ih

/-- **What a resolution ends with** can be scanned and extends nothing. -/
theorem ResolutionEnds.firstReference?_eq_none {loader : Loader} {depth rounds : Nat}
    {entry : String} {source resolved : Text}
    (ends : ResolutionEnds loader depth rounds entry source (.ok resolved)) :
    firstReference? "extends" resolved = .ok none := by
  cases ends with
  | parents _ ends => exact ends.firstReference?_eq_none resolved rfl

namespace Environment

variable {environment : Environment} {name : String} {compiled : Text}

/-- **What a template compiles to**: its source, resolved without any bound, and without its
structural lines. -/
def CompilesTo (environment : Environment) (name : String) (compiled : Text) : Prop :=
  ∃ source resolved depth rounds, environment.loader.read name = .ok source ∧
    ResolutionEnds environment.loader depth rounds name source.toList (.ok resolved) ∧
      compiled = stripLines environment.keywords resolved

/-- A text as a template of its own, with the keywords and the evaluator of an environment. -/
def TemplateRenders (environment : Environment) (context : Context) (text : Text)
    (outcome : Except TemplateError Text) : Prop :=
  ∃ template, Template.ofSource? text = .ok template ∧
    { template with keywords := environment.keywords }.render (evaluate environment.extensions)
      context = outcome

theorem CompilesTo.scan (compiles : environment.CompilesTo name compiled) :
    ∃ tags, scan compiled = .ok tags := by
  obtain ⟨source, resolved, depth, rounds, -, ends, rfl⟩ := compiles
  obtain ⟨tags, scanned⟩ := scan_of_firstReference?_eq_ok ends.firstReference?_eq_none
  exact scan_stripLines environment.keywords scanned

/-- A text that can be scanned renders as a template as it renders by itself. -/
theorem templateRenders_of_scan {tags : List Tag} (scanned : TextTemplate.scan compiled = .ok tags)
    (context : Context) :
    environment.TemplateRenders context compiled (environment.renderString context compiled) := by
  refine ⟨⟨compiled, none, []⟩, ?_, rfl⟩
  rw [Template.ofSource?, scanned]
  rfl

/-- With a finite loader, an environment compiles as the resolution without bounds does. -/
theorem compilesTo_of_compile (finite : environment.loader.Finite)
    (compiles : environment.compile name = .ok compiled) : environment.CompilesTo name compiled := by
  obtain ⟨names, fewer, complete⟩ := finite
  unfold compile at compiles
  rcases read : environment.loader.read name with error | source
  · rw [read] at compiles
    cases compiles
  · rw [read] at compiles
    rcases resolves : resolve environment.loader name source.toList with error | resolved
    · simp only [bind, Except.bind, Except.mapError, resolves] at compiles
      cases compiles
    · simp only [bind, Except.bind, Except.mapError, resolves] at compiles
      cases compiles
      have ends := resolutionEnds_resolve complete fewer name source.toList
      rw [resolves] at ends
      exact ⟨source, resolved, _, _, read, ends, rfl⟩

end Environment

/-- **A template made of compiled text renders exactly like the environment.** For every loader, if a
name compiles to a text, this text is a template: its tags match. With the keywords and the evaluator
of the environment it gives the output, or the error, that the environment gives for the text. A
finite loader never reaches its bound, so there the same is true of `compile` and `render`. -/
theorem compiled_renders_alike (environment : Environment) (context : Context) (name : String)
    (compiled : Text) :
    (environment.CompilesTo name compiled →
      environment.TemplateRenders context compiled (environment.renderString context compiled)) ∧
    (environment.loader.Finite → environment.compile name = .ok compiled →
      environment.CompilesTo name compiled ∧
        environment.TemplateRenders context compiled (environment.render context name)) := by
  have alike : environment.CompilesTo name compiled →
      environment.TemplateRenders context compiled (environment.renderString context compiled) := by
    intro compiles
    obtain ⟨tags, scanned⟩ := compiles.scan
    exact Environment.templateRenders_of_scan scanned context
  refine ⟨alike, fun finite compiles => ?_⟩
  have unbounded := Environment.compilesTo_of_compile finite compiles
  have rendered : environment.render context name = environment.renderString context compiled := by
    rw [Environment.render, compiles]
    rfl
  rw [rendered]
  exact ⟨unbounded, alike unbounded⟩

/-- A page whose block goes into its parent, with a tag over two lines and lines that are stripped. -/
theorem compiled_page_renders_alike :
    let environment : Environment := ⟨Loader.ofTemplates
      [("page", "\x7b% extends 'base' %\x7d\n\x7b% block main %\x7d\n\x7b\x7b\n title \x7d\x7d\n\x7b% endblock %\x7d\n"),
        ("base", "<p>\n\x7b% block main %\x7d\x7b% endblock %\x7d\n \x7b% note 1 %\x7d \n</p>\n")],
      .none, [], ["note"]⟩
    let context := Context.ofList [("title", .string "%\x7d")]
    let compiled := "<p>\n\x7b\x7b\n title \x7d\x7d\n</p>\n".toList
    let output := "<p>\n%\x7d\n</p>\n".toList
    environment.compile "page" = .ok compiled ∧ environment.CompilesTo "page" compiled ∧
      environment.render context "page" = .ok output ∧
      environment.TemplateRenders context compiled (environment.renderString context compiled) ∧
      environment.TemplateRenders context compiled (.ok output) := by
  intro environment context compiled output
  have compiles : environment.compile "page" = .ok compiled := by decide +kernel
  have renders : environment.render context "page" = .ok output := by decide +kernel
  have alike := compiled_renders_alike environment context "page" compiled
  have ⟨unbounded, rendered⟩ := alike.2 (Loader.finite_ofTemplates _) compiles
  rw [renders] at rendered
  exact ⟨compiles, unbounded, renders, alike.1 unbounded, rendered⟩

end TextTemplate
