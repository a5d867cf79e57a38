/-
**Filters on texts.**

* `titleCase` and `capitalize` change the case of first letters;
* `truncate` shortens a text to a number of characters, the end marker included, and prefers to cut
  at a space;
* `center` and `indent` pad with spaces.
-/

import TextTemplate.Filter.Arguments
import TextTemplate.Text.LetterCase
import TextTemplate.Text.Search

namespace TextTemplate.Filter

/-- The text with the first letter of each word in upper case and the others in lower case; a word
begins after a blank character or a hyphen. -/
def titleCase (wordStart : Bool) : Text → Text
  | [] => []
  | c :: text =>
    if Text.isBlank c || c == '-' then c :: titleCase true text
    else if wordStart then Text.upperChar c ++ titleCase false text
    else Text.lowerChar c ++ titleCase false text

/-- The text with its first character in upper case and the others in lower case. -/
def capitalize : Text → Text
  | [] => []
  | c :: text => Text.upperChar c ++ text.flatMap Text.lowerChar

/-- What stands before the last space of a text, if there is a space. -/
def beforeLastSpace? (text : Text) : Option Text :=
  match text.reverse.dropWhile (· != ' ') with
  | [] => none
  | _ :: before => some before.reverse

/-- Shortens a text that has more than `length` characters: `ending` follows as many characters as
fit in front of it, up to the last space among them unless words may be cut. -/
def truncate (length : Nat) (cutWords : Bool) (ending text : Text) : Text :=
  if text.length ≤ length then text
  else if length ≤ ending.length then ending
  else
    let kept := text.take (length - ending.length)
    if cutWords then kept ++ ending
    else
      match beforeLastSpace? kept with
      | some (c :: words) => c :: words ++ ending
      | some [] | none => kept ++ ending

/-- Pads a text with spaces on both sides to a width, an odd space going to the right. -/
def center (width : Nat) (text : Text) : Text :=
  let padding := width - text.length
  List.replicate (padding / 2) ' ' ++ text ++ List.replicate (padding - padding / 2) ' '

/-- Puts spaces before every line. -/
def indent (width : Nat) (text : Text) : Text :=
  ['\n'].intercalate ((text.splitOn '\n').map (List.replicate width ' ' ++ ·))

/-- Puts a line break mark before each line break. -/
def breakLines (text : Text) : Text :=
  text.flatMap fun c =>
    if c = '\n' then ['<', 'b', 'r', ' ', '/', '>', '\n'] else [c]

end TextTemplate.Filter
