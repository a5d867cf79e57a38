/-
**Filters for markup and addresses.**

* `escapeMarkup` replaces the characters that mean something in markup or in a quoted attribute;
* `stripTags` removes everything between a `<` and the next `>`;
* `linkUrls` turns addresses into links;
* `encodeForm` writes a text in the encoding of form data.
-/

import TextTemplate.Text.Blank
import TextTemplate.Text.Search

namespace TextTemplate.Filter

/-- The form of a character in markup. -/
def escapeChar (c : Char) : Text :=
  match c with
  | '&' => ['&', 'a', 'm', 'p', ';']
  | '<' => ['&', 'l', 't', ';']
  | '>' => ['&', 'g', 't', ';']
  | '"' => ['&', 'q', 'u', 'o', 't', ';']
  | '\'' => ['&', '#', 'x', '2', '7', ';']
  | _ => [c]

/-- The text with its markup characters escaped. -/
def escapeMarkup (text : Text) : Text :=
  text.flatMap escapeChar

/-- Matches a `<`, the next `>` and what stands between them. -/
def tagMatcher : Text.Matcher
  | '<' :: text =>
    let inside := text.takeWhile (· != '>')
    match text.dropWhile (· != '>') with
    | close :: rest => some ('<' :: inside ++ [close], rest)
    | [] => none
  | _ => none

/-- Removes the tags of a text and, unless blanks are kept, joins its words by single spaces. -/
def stripTags (keepBlanks : Bool) (text : Text) : Text :=
  let stripped := text.replaceMatches tagMatcher fun _ => []
  if keepBlanks then stripped else [' '].intercalate stripped.words

/-- The beginnings of an address, the longer one first. -/
def urlSchemes : List Text :=
  [['h', 't', 't', 'p', 's', ':', '/', '/'], ['h', 't', 't', 'p', ':', '/', '/']]

/-- Whether a character may stand in an address. -/
def continuesUrl (c : Char) : Bool :=
  !Text.isBlank c && c != '<'

/-- Matches an address: its beginning and at least one more character. -/
def urlMatcher : Text.Matcher := fun text =>
  urlSchemes.findSome? fun scheme =>
    match Text.dropPrefix? scheme text with
    | some rest =>
      match rest.takeWhile continuesUrl with
      | [] => none
      | path => some (scheme ++ path, rest.dropWhile continuesUrl)
    | none => none

/-- A link to an address. -/
def link (url : Text) : Text :=
  ['<', 'a', ' ', 'h', 'r', 'e', 'f', '=', '"'] ++ url ++ ['"', '>'] ++ url ++
    ['<', '/', 'a', '>']

/-- The text with each of its addresses made a link. -/
def linkUrls (text : Text) : Text :=
  text.replaceMatches urlMatcher link

/-- A hexadecimal digit in upper case. -/
def upperHexDigit (n : Nat) : Char :=
  if n < 10 then Char.ofNat (48 + n) else Char.ofNat (55 + n)

/-- A byte as a percent sign and two hexadecimal digits. -/
def encodeByte (byte : UInt8) : Text :=
  ['%', upperHexDigit (byte.toNat / 16), upperHexDigit (byte.toNat % 16)]

/-- The form of a character in form data: letters, digits and four signs stand for themselves, a
space becomes a plus sign, and every other character is written byte by byte. -/
def encodeChar (c : Char) : Text :=
  if c.isAlphanum || ['*', '-', '.', '_'].contains c then [c]
  else if c = ' ' then ['+']
  else (String.utf8EncodeChar c).flatMap encodeByte

/-- The text in the encoding of form data. -/
def encodeForm (text : Text) : Text :=
  text.flatMap encodeChar

end TextTemplate.Filter
