/-
**Descriptions of options and environments.**

A description lists the settings by name on one line. Texts stand between quotes, and the added
filters and functions are sorted by name.
-/

import TextTemplate.Environment
import TextTemplate.Text.Quoted

namespace TextTemplate

/-- A list of texts between brackets. -/
def describeList (items : List Text) : Text :=
  '[' :: [',', ' '].intercalate items ++ [']']

/-- A list of strings between brackets, each between quotes. -/
def describeStrings (strings : List String) : Text :=
  describeList (strings.map fun s => Text.quoted s.toList)

/-- The names of bindings in order. -/
def sortedKeys (bindings : Bindings α) : List String :=
  (bindings.map Prod.fst).mergeSort fun a b => (Text.order a.toList b.toList).isLE

/-- A value that may be missing. -/
def describeOption (value : Option Text) : Text :=
  match value with
  | some text => "Some(".toList ++ text ++ ")".toList
  | none => "None".toList

/-- Settings with their names, between braces behind a title. -/
def describeRecord (title : String) (settings : List (String × Text)) : Text :=
  title.toList ++ [' ', '{', ' '] ++
    [',', ' '].intercalate (settings.map fun (name, text) => name.toList ++ ": ".toList ++ text) ++
    [' ', '}']

/-- A description of options. -/
def Options.describe (options : Options) : Text :=
  describeRecord "ConfigOptions"
    [("path", describeOption (options.root.map Text.quoted)),
      ("loader", describeOption (options.loader.map fun loader => Text.quoted loader.kind.toList)),
      ("strip_keywords", describeStrings options.keywords)]

/-- A description of added filters and functions. -/
def Extensions.describe (extensions : Extensions) : Text :=
  describeRecord "ExpressionEvaluator"
    [("filters", describeStrings (sortedKeys extensions.filters)),
      ("functions", describeStrings (sortedKeys extensions.functions))]

/-- A description of an environment. -/
def Environment.describe (environment : Environment) : Text :=
  describeRecord "Environment"
    [("loader", Text.quoted environment.loader.kind.toList),
      ("evaluator", environment.extensions.describe),
      ("path", Text.quoted environment.root),
      ("strip_keywords", describeStrings environment.keywords)]

end TextTemplate
