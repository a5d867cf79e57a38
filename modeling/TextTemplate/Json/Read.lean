/-
**Reading JSON documents.**

* `readString?` reads the rest of a text behind its opening quote; a code unit of a surrogate pair
  is refused without its partner;
* `readValue?` reads one document at the front of a text, with arrays and objects nested no deeper
  than a given depth;
* `parse?` reads a text that holds one document and nothing else but blanks.
-/

import TextTemplate.Json.Number

namespace TextTemplate.Json

/-- The greatest depth to which arrays and objects nest. -/
def greatestDepth : Nat := 127

/-- The blanks between the parts of a document. -/
def isGap (c : Char) : Bool :=
  c == ' ' || c == '\t' || c == '\n' || c == '\r'

/-- The text without the blanks at its start. -/
def skipGap (text : Text) : Text :=
  text.dropWhile isGap

/-- The value of a hexadecimal digit. -/
def hexValue? (c : Char) : Option Nat :=
  if c.isDigit then some (c.toNat - 48)
  else if 'a' ≤ c ∧ c ≤ 'f' then some (c.toNat - 87)
  else if 'A' ≤ c ∧ c ≤ 'F' then some (c.toNat - 55)
  else none

/-- The code unit that four hexadecimal digits stand for. -/
def codeUnit? (a b c d : Char) : Option Nat := do
  return (((← hexValue? a) * 16 + (← hexValue? b)) * 16 + (← hexValue? c)) * 16 + (← hexValue? d)

/-- Whether a code unit is the first half of a surrogate pair. -/
def isLeading (unit : Nat) : Bool := 0xd800 ≤ unit && unit ≤ 0xdbff

/-- Whether a code unit is the second half of a surrogate pair. -/
def isTrailing (unit : Nat) : Bool := 0xdc00 ≤ unit && unit ≤ 0xdfff

/-- The character that an escape of one letter stands for. -/
def escapedChar? (c : Char) : Option Char :=
  match c with
  | '"' => some '"'
  | '\\' => some '\\'
  | '/' => some '/'
  | 'b' => some '\x08'
  | 'f' => some '\x0c'
  | 'n' => some '\n'
  | 'r' => some '\r'
  | 't' => some '\t'
  | _ => none

/-- Reads a string behind its opening quote; `done` is the reversed result so far. -/
def readString? (done : Text) : Text → Option (String × Text)
  | [] => none
  | c :: text =>
    if c = '"' then some (String.ofList done.reverse, text)
    else if c.toNat < 32 then none
    else if c = '\\' then
      match text with
      | 'u' :: a :: b :: c :: d :: text =>
        match codeUnit? a b c d, text with
        | none, _ => none
        | some unit, text =>
          if isLeading unit then
            match text with
            | '\\' :: 'u' :: a :: b :: c :: d :: text =>
              match codeUnit? a b c d with
              | some second =>
                if isTrailing second then
                  let code := 0x10000 + (unit - 0xd800) * 0x400 + (second - 0xdc00)
                  readString? (Char.ofNat code :: done) text
                else none
              | none => none
            | _ => none
          else if isTrailing unit then none
          else readString? (Char.ofNat unit :: done) text
      | c :: text =>
        match escapedChar? c with
        | some escaped => readString? (escaped :: done) text
        | none => none
      | [] => none
    else readString? (c :: done) text

/-- Reads the elements of an array up to its bracket, of which there is at least one; `read` reads
an element. -/
def readItems? (read : Text → Option (Json × Text)) :
    (steps : Nat) → (done : List Json) → Text → Option (List Json × Text)
  | 0, _, _ => none
  | steps + 1, done, text =>
    match read (skipGap text) with
    | none => none
    | some (item, rest) =>
      match skipGap rest with
      | ',' :: rest => readItems? read steps (item :: done) rest
      | ']' :: rest => some ((item :: done).reverse, rest)
      | _ => none

/-- Reads the name of a member and the colon behind it. -/
def readName? (text : Text) : Option (String × Text) :=
  match skipGap text with
  | '"' :: text =>
    match readString? [] text with
    | some (name, rest) =>
      match skipGap rest with
      | ':' :: rest => some (name, rest)
      | _ => none
    | none => none
  | _ => none

/-- Reads the members of an object up to its brace, of which there is at least one; `read` reads
what a name is bound to. -/
def readMembers? (read : Text → Option (Json × Text)) :
    (steps : Nat) → (done : List (String × Json)) → Text → Option (List (String × Json) × Text)
  | 0, _, _ => none
  | steps + 1, done, text =>
    match readName? text with
    | none => none
    | some (name, rest) =>
      match read (skipGap rest) with
      | none => none
      | some (value, rest) =>
        match skipGap rest with
        | ',' :: rest => readMembers? read steps ((name, value) :: done) rest
        | '}' :: rest => some (((name, value) :: done).reverse, rest)
        | _ => none

/-- Reads an array behind its opening bracket. -/
def readArray? (steps : Nat) (read : Text → Option (Json × Text)) (text : Text) :
    Option (Json × Text) :=
  match skipGap text with
  | ']' :: rest => some (.array [], rest)
  | text => (readItems? read steps [] text).map fun (items, rest) => (.array items, rest)

/-- Reads an object behind its opening brace. -/
def readObject? (steps : Nat) (read : Text → Option (Json × Text)) (text : Text) :
    Option (Json × Text) :=
  match skipGap text with
  | '}' :: rest => some (.object [], rest)
  | text =>
    (readMembers? read steps [] text).map fun (members, rest) => (.object members, rest)

/-- Reads a document that is neither an array nor an object. -/
def readScalar? : Text → Option (Json × Text)
  | 'n' :: 'u' :: 'l' :: 'l' :: rest => some (.null, rest)
  | 't' :: 'r' :: 'u' :: 'e' :: rest => some (.bool true, rest)
  | 'f' :: 'a' :: 'l' :: 's' :: 'e' :: rest => some (.bool false, rest)
  | '"' :: rest =>
    (readString? [] rest).map fun (s, rest) => (.string s, rest)
  | text => readNumber? text

/-- Reads a document whose arrays and objects nest to a given depth at most and have fewer than
`steps` members each. -/
def readValue? (steps : Nat) : (depth : Nat) → Text → Option (Json × Text)
  | 0, text =>
    match text with
    | '[' :: _ | '{' :: _ => none
    | text => readScalar? text
  | depth + 1, text =>
    match text with
    | '[' :: rest => readArray? steps (readValue? steps depth) rest
    | '{' :: rest => readObject? steps (readValue? steps depth) rest
    | text => readScalar? text

/-- Reads a text that holds one document. Its length exceeds the number of members. -/
def parse? (text : Text) : Option Json :=
  match readValue? (text.length + 1) greatestDepth (skipGap text) with
  | some (document, rest) => if (skipGap rest).isEmpty then some document else none
  | none => none

end TextTemplate.Json
