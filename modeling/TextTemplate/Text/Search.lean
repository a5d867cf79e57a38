/-
**Searching and replacing.**

A matcher looks at the front of a text and returns what it matched together with the rest.

* `replaceMatches` replaces the leftmost, non-overlapping matches, at most a given number of them;
* `replaceAll` and `replaceUpTo` replace a fixed text, where the empty text stands before every
  character and at the end;
* `splitLines` cuts a text after each line break and `splitOn` between the occurrences of a
  character.
-/

import TextTemplate.Text.Basic

namespace TextTemplate.Text

/-- A matcher: what it matches at the front of a text, and the rest. -/
abbrev Matcher := Text → Option (Text × Text)

/-- The rest of a text that begins with `front`. -/
def dropPrefix? (front text : Text) : Option Text :=
  front.isPrefixOf? text

/-- Whether `part` occurs in a text. -/
def hasInfix (part : Text) : Text → Bool
  | [] => part.isEmpty
  | c :: text => part.isPrefixOf (c :: text) || hasInfix part text

/-- Replaces at most `limit` matches from the left; `steps` bounds the number of characters looked
at and `done` is the reversed result so far. -/
def replaceLoop (find : Matcher) (replacement : Text → Text) :
    (steps limit : Nat) → (done text : Text) → Text
  | _, _, done, [] => done.reverse
  | 0, _, done, text => done.reverse ++ text
  | _, 0, done, text => done.reverse ++ text
  | steps + 1, limit + 1, done, c :: text =>
    match find (c :: text) with
    | some (matched, rest) =>
      replaceLoop find replacement steps limit ((replacement matched).reverse ++ done) rest
    | none => replaceLoop find replacement steps (limit + 1) (c :: done) text

/-- Replaces every leftmost match, going on after it; matches must not be empty. -/
def replaceMatches (find : Matcher) (replacement : Text → Text) (text : Text) : Text :=
  replaceLoop find replacement text.length text.length [] text

/-- The matcher of a fixed text. -/
def literal (part : Text) : Matcher := fun text =>
  (dropPrefix? part text).map (part, ·)

/-- Puts `new` before each of the first `limit` characters, and at the end if the limit allows. -/
def interleave (new : Text) : (limit : Nat) → (done text : Text) → Text
  | 0, done, text => done.reverse ++ text
  | _ + 1, done, [] => done.reverse ++ new
  | limit + 1, done, c :: text => interleave new limit (c :: (new.reverse ++ done)) text

/-- Replaces the first `limit` occurrences of `old` by `new`. -/
def replaceUpTo (limit : Nat) (old new text : Text) : Text :=
  if old.isEmpty then interleave new limit [] text
  else replaceLoop (literal old) (fun _ => new) text.length limit [] text

/-- Replaces every occurrence of `old` by `new`. -/
def replaceAll (old new text : Text) : Text :=
  replaceUpTo (text.length + 1) old new text

/-- Cuts a text after each character that satisfies `isEnd`; `line` is the current part, reversed,
and `lines` the finished ones, the latest first. -/
def splitAfterEach (isEnd : Char → Bool) (line : Text) (lines : List Text) : Text → List Text
  | [] => (if line.isEmpty then lines else line.reverse :: lines).reverse
  | c :: text =>
    if isEnd c then splitAfterEach isEnd [] ((c :: line).reverse :: lines) text
    else splitAfterEach isEnd (c :: line) lines text

/-- The lines of a text, each with its line break; the text is their concatenation. -/
def splitLines (text : Text) : List Text :=
  splitAfterEach (· == '\n') [] [] text

/-- Cuts a text at each occurrence of a character, which is dropped; `part` is the current part,
reversed, and `parts` the finished ones, the latest first. -/
def splitOnLoop (separator : Char) (part : Text) (parts : List Text) : Text → List Text
  | [] => (part.reverse :: parts).reverse
  | c :: text =>
    if c = separator then splitOnLoop separator [] (part.reverse :: parts) text
    else splitOnLoop separator (c :: part) parts text

/-- The parts of a text between the occurrences of a character: one more than there are
occurrences. -/
def splitOn (separator : Char) (text : Text) : List Text :=
  splitOnLoop separator [] [] text

end TextTemplate.Text
