/-
**Environments.**

An environment brings together a loader, added filters and functions, the keywords of further
structural statements and the root directory of the templates.

* `Environment.configure` makes one from options;
* `Environment.compile` resolves a template and strips its structural lines;
* `Environment.render` renders what `compile` gives, `Environment.renderString` a text as it is.
-/

import TextTemplate.Files.Loader
import TextTemplate.Inheritance.Extends
import TextTemplate.Inheritance.Strip
import TextTemplate.Rendering.Render

namespace TextTemplate

/-- Where templates come from and what they may use. -/
structure Environment where
  loader : Loader
  extensions : Extensions
  root : Text
  keywords : List String

/-- What an environment is made from: the root directory, a loader other than that of the files
below the root, and the keywords of further structural statements. -/
structure Options where
  root : Option Text
  loader : Option Loader
  keywords : List String

namespace Environment

/-- The environment that options ask for. Without a loader, templates are read from the files below
the root in a tree, the working directory being given. -/
def configure (tree : FileTree) (working : Text) (options : Options) : Environment :=
  let root := options.root.getD defaultRoot
  let loader := options.loader.getD (.ofFiles tree (loaderRoot working root))
  ⟨loader, .none, root, options.keywords⟩

/-- What renders the texts of an environment. -/
def renderer (environment : Environment) : Renderer :=
  ⟨evaluate environment.extensions, environment.keywords⟩

/-- Renders a text; includes and parents are not resolved. -/
def renderString (environment : Environment) (context : Context) (source : Text) :
    Except TemplateError Text :=
  ((Rendering.renderText environment.renderer source).run (Scope.ofContext context)).1

/-- The source of a template with its includes and parents resolved and its structural lines
removed. -/
def compile (environment : Environment) (name : String) : Except TemplateError Text := do
  let source ← (environment.loader.read name).mapError .load
  let resolved ← resolve environment.loader name source.toList
  return stripLines environment.keywords resolved

/-- Renders a template by its name. -/
def render (environment : Environment) (context : Context) (name : String) :
    Except TemplateError Text := do
  environment.renderString context (← environment.compile name)

end Environment
end TextTemplate
