/-
**Templates.**

A template is a text whose tags have been checked. It can be rendered any number of times; each time
starts with the bindings of a context and leaves nothing behind.

* `Template.ofSource?` checks a text;
* `Template.render` renders it, and `Template.renderTracing` also lists the expressions that were
  evaluated;
* `Template.json` writes a template and `Template.ofJson?` reads it back.
-/

import TextTemplate.Json.Read
import TextTemplate.Rendering.Render

namespace TextTemplate

/-- A text with matching tags, its name if it has one and the keywords of further directives. -/
structure Template where
  source : Text
  name : Option String
  keywords : List String
deriving DecidableEq, Repr

namespace Template

/-- The template of a text. -/
def ofSource? (source : Text) : Except ScanError Template := do
  let _ ← scan source
  return ⟨source, none, []⟩

/-- What renders a template with an evaluator. -/
def renderer (template : Template) (evaluator : Evaluator) : Renderer :=
  ⟨evaluator, template.keywords⟩

/-- Renders a template and lists the expressions that were evaluated, in order. -/
def renderTracing (template : Template) (evaluator : Evaluator) (context : Context) :
    Except TemplateError Text × List Text :=
  let (outcome, state) :=
    (Rendering.renderText (template.renderer evaluator) template.source).run
      (Scope.ofContext context)
  (outcome, state.asked.reverse)

/-- Renders a template. -/
def render (template : Template) (evaluator : Evaluator) (context : Context) :
    Except TemplateError Text :=
  (template.renderTracing evaluator context).1

/-- A template as a JSON object. -/
def json (template : Template) : Text :=
  let name := match template.name with
    | some name => Json.quote name.toList
    | none => "null".toList
  "\x7b\"content\":".toList ++ Json.quote template.source ++ ",\"name\":".toList ++ name ++
    ",\"extra_keywords\":[".toList ++
    [','].intercalate (template.keywords.map fun keyword => Json.quote keyword.toList) ++
    "]\x7d".toList

/-- The text of a document that is a string. -/
def stringOf? : Json → Option String
  | .string s => some s
  | _ => none

/-- The template of a JSON object. The name may be missing or null, and the keywords may be missing.
-/
def ofJson? (document : Json) : Option Template := do
  let source ← (document.member? "content").bind stringOf?
  let name ← match document.member? "name" with
    | none | some .null => some none
    | some name => (stringOf? name).map some
  let keywords ← match document.member? "extra_keywords" with
    | none => some []
    | some (.array items) => items.mapM stringOf?
    | some _ => none
  return ⟨source.toList, name, keywords⟩

end Template
end TextTemplate
