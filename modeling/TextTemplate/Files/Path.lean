/-
**Paths.**

A path is a text with slashes between its segments. Empty segments and a single point name no step,
two points name the step up.

* `Path.names` are the segments that name a step;
* `Path.join` appends a path to another one, unless it begins at the root;
* `Path.absolute` begins a path at the root, without the segments that name no step; the two slashes
  of the second root stay;
* `Path.parent?` is the path up to its last step, `Path.extension?` the part of the last name behind
  its last point.
-/

import TextTemplate.Text.Blank
import TextTemplate.Text.Search

namespace TextTemplate.Path

/-- The segment that names the directory itself. -/
def here : Text := ['.']

/-- The segment that names the directory above. -/
def up : Text := ['.', '.']

/-- The segments of a path between its slashes. -/
def segments (path : Text) : List Text :=
  path.splitOn '/'

/-- Whether a segment names a step. -/
def isStep (segment : Text) : Bool :=
  !segment.isEmpty && segment != here

/-- The segments of a path that name a step. -/
def names (path : Text) : List Text :=
  (segments path).filter isStep

/-- Whether a path begins at the root. -/
def isAbsolute (path : Text) : Bool :=
  path.head? == some '/'

/-- Whether a path ends with a slash. -/
def endsWithSlash (path : Text) : Bool :=
  path.getLast? == some '/'

/-- A path behind another one; a path from the root stands for itself. -/
def join (base path : Text) : Text :=
  if isAbsolute path then path
  else if base.isEmpty || endsWithSlash base then base ++ path
  else base ++ '/' :: path

/-- How a path from the root begins: two slashes at its beginning are a root of their own, and any
other number of them is as good as one. -/
def root (path : Text) : Text :=
  if (path.takeWhile (· == '/')).length = 2 then ['/', '/'] else ['/']

/-- A path from the root on, the working directory going before a path that is not; steps that lead
nowhere are left out, and a slash at the end is kept. -/
def absolute (working path : Text) : Text :=
  let base := if isAbsolute path then [] else names working
  let steps := root path ++ ['/'].intercalate (base ++ names path)
  if endsWithSlash path && !endsWithSlash steps then steps ++ ['/'] else steps

/-- The path up to its last step; none if it has no step. -/
def parent? (path : Text) : Option Text :=
  match (segments path).reverse.dropWhile fun segment => !isStep segment with
  | [] => none
  | _ :: before =>
    let kept := before.dropWhile fun segment => !isStep segment
    if kept.isEmpty && isAbsolute path then some ['/']
    else some (['/'].intercalate kept.reverse)

/-- The name of the last step; none if there is no step or it leads up. -/
def fileName? (path : Text) : Option Text :=
  match (names path).getLast? with
  | some name => if name = up then none else some name
  | none => none

/-- The part of the last name behind its last point, which must not be its first character. -/
def extension? (path : Text) : Option Text := do
  let name ← fileName? path
  match name.reverse.dropWhile (· != '.') with
  | [] | [_] => none
  | _ => some (name.reverse.takeWhile (· != '.')).reverse

end TextTemplate.Path
