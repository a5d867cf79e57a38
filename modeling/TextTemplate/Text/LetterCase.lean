/-
**Letter case.**

* `upperChar` and `lowerChar` give the full image of one character, which may have several
  characters;
* `toUpper` maps each character by itself;
* `toLower` does so too, except that a capital sigma at the end of a word becomes the final sigma.
-/

import TextTemplate.Text.Basic
import TextTemplate.Text.CaseTable

namespace TextTemplate.Text

/-- The image of a character under a case mapping given by two tables. -/
def mapCase (shifts : List (Nat × Nat × Nat × Int)) (expansions : List (Nat × List Nat))
    (c : Char) : Text :=
  let code := c.toNat
  match expansions.find? fun (letter, _) => letter == code with
  | some (_, image) => image.map Char.ofNat
  | none =>
    match shifts.find? fun (first, last, step, _) =>
        first ≤ code && code ≤ last && (code - first) % step == 0 with
    | some (_, _, _, shift) => [Char.ofNat (code + shift).toNat]
    | none => [c]

/-- The upper-case form of a character. -/
def upperChar (c : Char) : Text :=
  if c.toNat < 128 then [c.toUpper] else mapCase upperShifts upperExpansions c

/-- The lower-case form of a character by itself. -/
def lowerChar (c : Char) : Text :=
  if c.toNat < 128 then [c.toLower] else mapCase lowerShifts lowerExpansions c

/-- The upper-case form of a text. -/
def toUpper (text : Text) : Text :=
  text.flatMap upperChar

/-- Whether the first character that is not passed over is one that has case. -/
def meetsCased (text : Text) : Bool :=
  match text.dropWhile (inRanges caseIgnorableRanges) with
  | c :: _ => inRanges casedRanges c
  | [] => false

/-- The lower-case images of the characters of a text, with the reversed characters before it given:
a capital sigma that ends a word, with a letter before it and none after it, becomes `ς`. -/
def lowerImages (before : Text) : Text → List Text
  | [] => []
  | c :: after =>
    let image :=
      if c = 'Σ' then (if meetsCased before && !meetsCased after then ['ς'] else ['σ'])
      else lowerChar c
    image :: lowerImages (c :: before) after

/-- The lower-case form of a text. -/
def toLower (text : Text) : Text :=
  if text.contains 'Σ' then (lowerImages [] text).flatten else text.flatMap lowerChar

end TextTemplate.Text
