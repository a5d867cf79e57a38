/-
**Blank characters.**

The blank characters are those of the Unicode property White_Space.

* `trim` takes the blank characters off both ends of a text;
* `words` lists the maximal runs of characters that are not blank.
-/

import TextTemplate.Text.Basic
import TextTemplate.Text.Ranges

namespace TextTemplate.Text

/-- The blank characters as closed ranges of code points. -/
def blankRanges : List (Nat × Nat) :=
  [(0x9, 0xd), (0x20, 0x20), (0x85, 0x85), (0xa0, 0xa0), (0x1680, 0x1680), (0x2000, 0x200a),
    (0x2028, 0x2029), (0x202f, 0x202f), (0x205f, 0x205f), (0x3000, 0x3000)]

/-- Whether a character is blank. -/
def isBlank (c : Char) : Bool :=
  inRanges blankRanges c

/-- Whether a text holds nothing but blank characters. -/
def allBlank (text : Text) : Bool :=
  text.all isBlank

/-- The text without the blank characters at its start. -/
def trimStart (text : Text) : Text :=
  text.dropWhile isBlank

/-- The text without the characters at its end that satisfy `p`. -/
def dropRightWhile (p : Char → Bool) (text : Text) : Text :=
  (text.reverse.dropWhile p).reverse

/-- The text without the characters at both ends that satisfy `p`. -/
def stripWhile (p : Char → Bool) (text : Text) : Text :=
  dropRightWhile p (text.dropWhile p)

/-- The text without the blank characters at its start and at its end. -/
def trim (text : Text) : Text :=
  stripWhile isBlank text

/-- Collects the runs of characters that do not satisfy `isGap`; `run` is the current run, reversed,
and `runs` the finished ones, the latest first. -/
def splitRuns (isGap : Char → Bool) (run : Text) (runs : List Text) : Text → List Text
  | [] => (if run.isEmpty then runs else run.reverse :: runs).reverse
  | c :: text =>
    if isGap c then splitRuns isGap [] (if run.isEmpty then runs else run.reverse :: runs) text
    else splitRuns isGap (c :: run) runs text

/-- The maximal runs of characters that are not blank, in order. -/
def words (text : Text) : List Text :=
  splitRuns isBlank [] [] text

end TextTemplate.Text
