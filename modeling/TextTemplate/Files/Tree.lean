/-
**Trees of files.**

A tree is a finite map from places to files and directories; a place is the list of the names on the
way from the root, which is always a directory.

* `FileTree.locate` follows the segments of a path, every one of them in a directory that exists;
* `FileTree.contents?` are the bytes of the file at a place;
* `FileTree.makeDirectories`, `writeFile` and `removeFile` change the tree or fail.
-/

import TextTemplate.Files.Path
import TextTemplate.Text.Basic
import TextTemplate.Value.Order

namespace TextTemplate

/-- What may be at a place. -/
inductive FileNode where
  | directory
  | file (bytes : ByteArray)

/-- A place: the names on the way from the root. -/
abbrev Place := List Text

/-- A tree of files and directories. -/
structure FileTree where
  nodes : List (Place × FileNode)

/-- Why a path leads to no place. -/
inductive PathFault where
  /-- A directory on the way is missing. -/
  | missing
  /-- A file is where a directory should be, or something where nothing should be. -/
  | blocked
  /-- The path or a name in it is too long, or it has a character that no name has. -/
  | unusable
deriving DecidableEq, Repr

namespace FileTree

/-- The greatest number of bytes of a name. -/
def greatestName : Nat := 255

/-- The greatest number of bytes of a path. -/
def greatestPath : Nat := 4095

/-- The tree with nothing in it. -/
def empty : FileTree := ⟨[]⟩

/-- What is at a place. -/
def node? (tree : FileTree) (place : Place) : Option FileNode :=
  if place.isEmpty then some .directory
  else (tree.nodes.find? fun (other, _) => other == place).map Prod.snd

/-- Whether there is a directory at a place. -/
def isDirectory (tree : FileTree) (place : Place) : Bool :=
  (tree.node? place) matches some .directory

/-- The bytes of the file at a place. -/
def contents? (tree : FileTree) (place : Place) : Option ByteArray :=
  match tree.node? place with
  | some (.file bytes) => some bytes
  | _ => none

/-- The tree without what is at a place. -/
def remove (tree : FileTree) (place : Place) : FileTree :=
  ⟨tree.nodes.filter fun (other, _) => other != place⟩

/-- The tree with something put at a place. -/
def put (tree : FileTree) (place : Place) (node : FileNode) : FileTree :=
  ⟨(place, node) :: (tree.remove place).nodes⟩

/-- Follows segments from a place on. Each of them is looked up in a directory that must exist. -/
def follow (tree : FileTree) (place : Place) : List Text → Except PathFault Place
  | [] => .ok place
  | segment :: segments =>
    match tree.node? place with
    | none => .error .missing
    | some (.file _) => .error .blocked
    | some .directory =>
      if greatestName < segment.byteSize then .error .unusable
      else if !Path.isStep segment then tree.follow place segments
      else if segment = Path.up then tree.follow place.dropLast segments
      else tree.follow (place ++ [segment]) segments

/-- The place that a path leads to; there need not be anything at it. -/
def locate (tree : FileTree) (working path : Text) : Except PathFault Place :=
  if path.contains '\x00' || greatestPath < path.byteSize then .error .unusable
  else if path.isEmpty then .error .missing
  else
    let start := if Path.isAbsolute path then [] else Path.names working
    tree.follow start (Path.segments path)

/-- The bytes of the file that a path leads to. -/
def read? (tree : FileTree) (working path : Text) : Option ByteArray :=
  match tree.locate working path with
  | .ok place => tree.contents? place
  | .error _ => none

/-- Whether a path leads to a directory. -/
def leadsToDirectory (tree : FileTree) (working path : Text) : Bool :=
  match tree.locate working path with
  | .ok place => tree.isDirectory place
  | .error _ => false

/-- Makes the directory of a path in one that exists; slashes at the end of the path do not count.
-/
def makeDirectory (tree : FileTree) (working path : Text) : Except PathFault FileTree :=
  if greatestPath < path.byteSize then .error .unusable
  else
    match tree.locate working (path.dropRightWhile (· == '/')) with
    | .error fault => .error fault
    | .ok place =>
      match tree.node? place with
      | some _ => .error .blocked
      | none => .ok (tree.put place .directory)

/-- Makes the directory of a path unless it is there. -/
def ensureDirectory (tree : FileTree) (working path : Text) : Except PathFault FileTree :=
  match tree.makeDirectory working path with
  | .ok tree => .ok tree
  | .error fault => if tree.leadsToDirectory working path then .ok tree else .error fault

/-- Makes the directories of a path that are missing; `steps` bounds their number. -/
def makeDirectories (working : Text) : (steps : Nat) → FileTree → (path : Text) →
    Except PathFault FileTree
  | 0, tree, path => tree.ensureDirectory working path
  | steps + 1, tree, path =>
    if path.isEmpty then .ok tree
    else
      match tree.ensureDirectory working path with
      | .ok tree => .ok tree
      | .error .missing =>
        match Path.parent? path with
        | none => .error .missing
        | some parent => do
          let tree ← makeDirectories working steps tree parent
          tree.ensureDirectory working path
      | .error fault => .error fault

/-- Writes a file in a directory that exists, replacing a file that is there. -/
def writeFile (tree : FileTree) (working path : Text) (bytes : ByteArray) :
    Except PathFault FileTree := do
  let place ← tree.locate working path
  if tree.isDirectory place then .error .blocked else .ok (tree.put place (.file bytes))

/-- Removes a file; one that is missing need not be removed. -/
def removeFile (tree : FileTree) (working path : Text) : Except PathFault FileTree :=
  match tree.locate working path with
  | .error .missing => .ok tree
  | .error fault => .error fault
  | .ok place => if tree.isDirectory place then .error .blocked else .ok (tree.remove place)

/-- The names in the directory at a place, in order. -/
def listing (tree : FileTree) (place : Place) : List Text :=
  let names := tree.nodes.filterMap fun (other, _) =>
    match other.getLast? with
    | some name => if other.dropLast = place then some name else none
    | none => none
  names.mergeSort fun a b => (Text.order a b).isLE

/-- What is in the directory at a place, by name and in the order of the names. -/
def entries (tree : FileTree) (place : Place) : List (Text × FileNode) :=
  (tree.listing place).filterMap fun name => (tree.node? (place ++ [name])).map (name, ·)

end FileTree
end TextTemplate
