/-
**Publishing a directory of templates.**

Every template file below a root is rendered into a file of the same relative path below an output
directory. A template whose output is blank has no such file.

* `isTemplatePath` recognises template files by their extension;
* `Publisher.publish` visits the files of the root, the entries of a directory in the order of their
  names, and stops at the first error; what was written before stays.
-/

import TextTemplate.Environment

namespace TextTemplate

/-- The extensions of template files. -/
def templateExtensions : List String :=
  ["njk", "html", "txt", "yaml", "yml", "json", "xml", "css", "js"]

/-- Whether a path has the extension of a template file, in upper or lower case. -/
def isTemplatePath (path : Text) : Bool :=
  match Path.extension? path with
  | some extension => templateExtensions.contains (String.ofList (extension.map Char.toLower))
  | none => false

/-- What publishing does not change: the working directory, the root of the templates, the output
directory, the data and what the templates may use. -/
structure Publisher where
  working : Text
  root : Text
  output : Text
  context : Context
  extensions : Extensions
  keywords : List String

/-- A computation that changes a tree of files and keeps it when it fails. -/
abbrev Publishing := ExceptT TemplateError (StateM FileTree)

namespace Publisher

/-- The environment that renders the templates of a tree. -/
def environment (publisher : Publisher) (tree : FileTree) : Environment :=
  let options : Options := ⟨some publisher.root, none, publisher.keywords⟩
  { Environment.configure tree publisher.working options with extensions := publisher.extensions }

/-- Changes the tree, or fails at a path. -/
def change (path : Text) (operation : FileTree → Except PathFault FileTree) : Publishing Unit := do
  match operation (← get) with
  | .ok tree => set tree
  | .error _ => throw (.files (String.ofList path))

/-- Makes the directories of a path. -/
def prepare (publisher : Publisher) (path : Text) : Publishing Unit :=
  change path fun tree =>
    FileTree.makeDirectories publisher.working (Path.segments path).length tree path

/-- Puts an output at its destination, or removes what is there if the output is blank. -/
def deliver (publisher : Publisher) (destination output : Text) : Publishing Unit := do
  if output.allBlank then
    change destination fun tree => tree.removeFile publisher.working destination
  else
    match Path.parent? destination with
    | some parent => prepare publisher parent
    | none => pure ()
    change destination fun tree =>
      tree.writeFile publisher.working destination (String.ofList output).toUTF8

/-- Renders the template at a relative path and delivers the output. -/
def publishFile (publisher : Publisher) (relative : List Text) : Publishing Unit := do
  let name := ['/'].intercalate relative
  match (publisher.environment (← get)).render publisher.context (String.ofList name) with
  | .ok output => publisher.deliver (Path.join publisher.output name) output
  | .error error => throw error

/-- Publishes what was found at a place, its relative path being given: a file if it is a template,
a directory with everything in it. What a directory contains is settled when it is entered; at more
than `depth` nested directories, as in an output directory that keeps filling itself, it fails. -/
def publishNode (publisher : Publisher) : (depth : Nat) → Place → (relative : List Text) →
    FileNode → Publishing Unit
  | _, _, relative, .file _ => do
    if isTemplatePath (Path.join publisher.root (['/'].intercalate relative)) then
      publisher.publishFile relative
  | 0, _, relative, .directory =>
    throw (.files (String.ofList (Path.join publisher.output (['/'].intercalate relative))))
  | depth + 1, place, relative, .directory => do
    let tree ← get
    (tree.entries place).forM fun (name, node) =>
      publisher.publishNode depth (place ++ [name]) (relative ++ [name]) node

/-- A number of directories that no nesting exceeds, unless it has no end. -/
def depthBound (publisher : Publisher) (tree : FileTree) : Nat :=
  2 * (tree.nodes.length + (Path.segments publisher.output).length + 1)

/-- Publishes all templates below the root. -/
def publish (publisher : Publisher) : Publishing Unit := do
  if publisher.output.allBlank then throw .noOutputDirectory
  publisher.prepare publisher.output
  let tree ← get
  let found : Option (Place × FileNode) :=
    match tree.locate publisher.working publisher.root with
    | .ok place => (tree.node? place).map (place, ·)
    | .error _ => none
  match found with
  | some (place, node) => publisher.publishNode (publisher.depthBound tree) place [] node
  | none => throw (.files (String.ofList publisher.root))

/-- Publishes all templates of a tree. -/
def run (publisher : Publisher) (tree : FileTree) : Except TemplateError Unit × FileTree :=
  (ExceptT.run publisher.publish).run tree

end Publisher
end TextTemplate
