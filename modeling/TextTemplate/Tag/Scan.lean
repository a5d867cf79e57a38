/-
**Finding the tags of a template.**

A tag begins with an opener and ends at the first closer after it, which must be of the same kind.
Tags do not nest: neither may an opener stand inside of a tag, nor a closer outside of one. A
delimiter is read as a whole, so its characters belong to no other delimiter.

* `scan` lists the tags of a text in order, or reports the first fault;
* `ScanError.message` is what a reader is told about it.
-/

import TextTemplate.Tag

namespace TextTemplate

/-- What is wrong with the delimiters of a text. -/
inductive ScanFault where
  /-- A closer with no tag open. -/
  | unexpectedClose (close : TagKind)
  /-- A tag still open where another one opens or the text ends. -/
  | unterminated (opened : TagKind)
  /-- A tag closed by the closer of the other kind. -/
  | mismatched (opened close : TagKind)
deriving DecidableEq, Repr

/-- A fault and the delimiter where it lies: the stray closer, or the opener of the tag that is not
closed properly. -/
structure ScanError where
  position : Position
  fault : ScanFault
deriving DecidableEq, Repr

/-- The wording of a fault. -/
def ScanFault.message : ScanFault → String
  | .unexpectedClose close => s!"unexpected close '{String.ofList close.closer}'"
  | .unterminated opened => s!"unterminated tag '{String.ofList opened.opener}'"
  | .mismatched opened close =>
    s!"incorrect syntax: '{String.ofList opened.opener}' closed by '{String.ofList close.closer}'"

/-- The wording of an error, with the place. -/
def ScanError.message (error : ScanError) : String :=
  s!"Parse error at {error.position.describe}: {error.fault.message}"

/-- A tag that has begun: its kind, its start and, reversed, its body so far. -/
structure OpenTag where
  kind : TagKind
  start : Position
  body : Text

/-- What the end of a text means for a tag that may be open. -/
def scanEnd : Option OpenTag → Except ScanError (List Tag)
  | none => .ok []
  | some tag => .error ⟨tag.start, .unterminated tag.kind⟩

/-- The tags of a text that begins at `here`, with a tag possibly open already. -/
def scanFrom (pending : Option OpenTag) (here : Position) : Text → Except ScanError (List Tag)
  | [] => scanEnd pending
  | [_] => scanEnd pending
  | c :: d :: rest =>
    let past := (here.step c).step d
    match pending, opens? c d, closes? c d with
    | none, some kind, _ => scanFrom (some ⟨kind, here, []⟩) past rest
    | none, none, some close => .error ⟨here, .unexpectedClose close⟩
    | none, none, none => scanFrom none (here.step c) (d :: rest)
    | some tag, some _, _ => .error ⟨tag.start, .unterminated tag.kind⟩
    | some tag, none, some close =>
      if close = tag.kind then
        (⟨tag.kind, tag.start, past, tag.body.reverse⟩ :: ·) <$> scanFrom none past rest
      else .error ⟨tag.start, .mismatched tag.kind close⟩
    | some tag, none, none =>
      scanFrom (some { tag with body := c :: tag.body }) (here.step c) (d :: rest)

/-- The tags of a template in order. -/
def scan (text : Text) : Except ScanError (List Tag) :=
  scanFrom none Position.start text

/-- The statement tags of a template in order. -/
def scanStatements (text : Text) : Except ScanError (List Tag) :=
  (List.filter fun tag => tag.kind = .statement) <$> scan text

end TextTemplate
