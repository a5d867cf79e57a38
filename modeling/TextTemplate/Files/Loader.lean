/-
**Loading templates from files.**

The names of templates are paths below a root directory. A name that is blank, begins at the root of
all files or has a step up in it is treated as missing, whatever files there are.

* `resolveName?` is the path of a name below the root;
* `Loader.ofFiles` reads the files of a tree.
-/

import TextTemplate.Files.Tree
import TextTemplate.Loader

namespace TextTemplate

/-- The directory of templates where none is given. -/
def defaultRoot : Text := ['v', 'i', 'e', 'w', 's']

/-- The root of a loader: an absolute path, the default one if the given path is blank. -/
def loaderRoot (working path : Text) : Text :=
  Path.absolute working (if path.allBlank then defaultRoot else path)

/-- The path of a name below a root; none if the name is blank or could lead out of the root. -/
def resolveName? (root name : Text) : Option Text :=
  if name.allBlank || Path.isAbsolute name || (Path.names name).contains Path.up then none
  else some (Path.join root name)

/-- The text of a file. -/
def decodeFile (name : String) (bytes : ByteArray) : Except LoadError String :=
  match String.fromUTF8? bytes with
  | some source => .ok source
  | none => .error ⟨name, "stream did not contain valid UTF-8"⟩

/-- Reads a template from the files below a root. -/
def readTemplate (tree : FileTree) (root : Text) (name : String) : Except LoadError String :=
  match (resolveName? root name.toList).bind (tree.read? []) with
  | some bytes => decodeFile name bytes
  | none => .error (.notFound name (String.ofList (Path.join root name.toList)))

/-- The loader of the files below a root. The name of a template that can be read has no more bytes
than a path may have, and there are fewer such names than texts of one byte more. -/
def Loader.ofFiles (tree : FileTree) (root : Text) : Loader where
  kind := "file"
  read := readTemplate tree root
  bound := Nat.pow 256 (FileTree.greatestPath + 1)

end TextTemplate
