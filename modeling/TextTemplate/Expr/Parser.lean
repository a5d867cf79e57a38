/-
**Parsing expressions.**

The levels of the grammar, from the loosest to the tightest: a condition between two values,
disjunction, conjunction, negation, comparison with membership and tests, sum, product, sign, and
what follows an operand. Binary operators associate to the left.

* `parseLevel` reads an expression of one level, `parseMore` the operators that follow a left
  operand;
* `parseExpr` reads a text that is one expression.

The recursion is bounded by a depth, which `parseExpr` chooses from the length of the text: between
two characters that are passed, less than twelve calls are nested.
-/

import TextTemplate.Expr.Cursor

namespace TextTemplate

/-- The levels of the grammar. -/
inductive Level where
  | conditional
  | disjunction
  | conjunction
  | negation
  | comparison
  | sum
  | product
  | sign
  | operand
deriving DecidableEq, Repr

/-- The level of the operands of an operator. -/
def Level.tighter : Level → Level
  | .conditional => .disjunction
  | .disjunction => .conjunction
  | .conjunction => .negation
  | .negation => .comparison
  | .comparison => .sum
  | .sum => .product
  | .product => .sign
  | .sign => .operand
  | .operand => .operand

/-- The first of some signs that comes next, with what it stands for. -/
def firstSign? (signs : List (Text × α)) (here : Cursor) : Option (α × Cursor) :=
  signs.findSome? fun (sign, meaning) => (here.take? sign).map (meaning, ·)

/-- Passes a binary operator of a level. -/
def operator? (level : Level) (here : Cursor) : Option ((Expr → Expr → Expr) × Cursor) :=
  match level with
  | .disjunction =>
    (here.keyword? ['o', 'r'] <|> here.take? ['|', '|']).map (Expr.or, ·)
  | .conjunction =>
    (here.keyword? ['a', 'n', 'd'] <|> here.take? ['&', '&']).map (Expr.and, ·)
  | .comparison =>
    firstSign? [(['=', '='], .compare .eq), (['!', '='], .compare .ne), (['<', '='], .compare .le),
      (['>', '='], .compare .ge), (['<'], .compare .lt), (['>'], .compare .gt)] here
  | .sum =>
    firstSign? [(['+'], .arith .add), (['-'], .arith .sub), (['~'], .arith .concat)] here
  | .product =>
    firstSign? [(['*'], .arith .mul), (['/'], .arith .div), (['%'], .arith .rem)] here
  | _ => none

/-- Passes `in` or `not in`; the answer tells whether the membership is negated. -/
def membership? (here : Cursor) : Option (Bool × Cursor) :=
  match here.keyword? ['i', 'n'] with
  | some next => some (false, next)
  | none =>
    match here.keyword? ['n', 'o', 't'] with
    | some next => (next.skipBlank.keyword? ['i', 'n']).map (true, ·)
    | none => none

/-- Passes the name of a test. -/
def testName? (here : Cursor) : Option (String × Cursor) :=
  testNames.findSome? fun name => (here.keyword? name.toList).map (name, ·)

/-- The digits of a number: underscores may stand between them, and one point before a digit. -/
def numberRun (pointPassed : Bool) : Text → Text
  | [] => []
  | c :: rest =>
    if c.isDigit || c == '_' then c :: numberRun pointPassed rest
    else if c == '.' && !pointPassed && (rest.head?.map Char.isDigit).getD false then
      c :: numberRun true rest
    else []

/-- The value of a number: an integer if it is one and fits, the nearest float otherwise. -/
def numberValue (digits : Text) : Value :=
  match readInteger? digits, readFloat? digits with
  | some n, _ => .int n
  | none, some x => .float x
  | none, none => .null

/-- Reads a number that begins at the cursor. -/
def parseNumber (here : Cursor) : Expr × Cursor :=
  let run := numberRun false here.rest
  (.literal (numberValue (run.filter (· != '_'))), here.behind run (here.rest.drop run.length))

/-- The character that a backslash and a letter stand for. -/
def unescape (c : Char) : Char :=
  if c = 'n' then '\n' else if c = 't' then '\t' else if c = 'r' then '\r' else c

/-- Reads a text up to the quote that ends it; `done` is the reversed result so far. -/
def parseQuoted (quote : Char) (done : Text) (position : Position) :
    Text → Except SyntaxError (Text × Cursor)
  | [] => .error ⟨position, .unexpectedEnd [quote]⟩
  | c :: rest =>
    if c = quote then .ok (done.reverse, ⟨rest, position.step c⟩)
    else if c = '\\' then
      match rest with
      | [] => .error ⟨position.step c, .unexpectedEnd [quote]⟩
      | d :: rest => parseQuoted quote (unescape d :: done) ((position.step c).step d) rest
    else parseQuoted quote (c :: done) (position.step c) rest

/-- What a name stands for: a literal, or a name to be looked up. -/
def nameExpr (name : String) : Expr :=
  if name ∈ ["true", "True"] then .literal (.bool true)
  else if name ∈ ["false", "False"] then .literal (.bool false)
  else if name ∈ ["null", "nil", "none", "None", "undefined"] then .literal .null
  else .name name

mutual

/-- Reads an expression of a level. -/
def parseLevel : (depth : Nat) → Level → Cursor → Except SyntaxError (Expr × Cursor)
  | 0, _, here => here.fail .tooDeep
  | depth + 1, .conditional, here => do
    let (value, here) ← parseLevel depth .disjunction here
    let here := here.skipBlank
    match here.keyword? ['i', 'f'] with
    | none => .ok (value, here)
    | some here => do
      let (condition, here) ← parseLevel depth .disjunction here
      let here := here.skipBlank
      match here.keyword? ['e', 'l', 's', 'e'] with
      | none => .ok (.conditional value condition none, here)
      | some here => do
        let (otherwise, here) ← parseLevel depth .conditional here
        .ok (.conditional value condition (some otherwise), here)
  | depth + 1, .negation, here =>
    let here := here.skipBlank
    match here.keyword? ['n', 'o', 't'] <|> here.symbol? ['!'] '=' with
    | some here => do
      let (operand, here) ← parseLevel depth .negation here
      .ok (.not operand, here)
    | none => parseLevel depth .comparison here
  | depth + 1, .sign, here =>
    let here := here.skipBlank
    match here.take? ['-'], here.take? ['+'] with
    | some here, _ => do
      let (operand, here) ← parseLevel depth .sign here
      .ok (.neg operand, here)
    | none, some here => parseLevel depth .sign here
    | none, none => parseLevel depth .operand here
  | depth + 1, .operand, here => do
    let (operand, here) ← parseOperand depth here.skipBlank
    parseMore depth .operand operand here
  | depth + 1, level, here => do
    let (left, here) ← parseLevel depth level.tighter here
    parseMore depth level left here

/-- Reads the operators of a level that follow a left operand. -/
def parseMore :
    (depth : Nat) → Level → (left : Expr) → Cursor → Except SyntaxError (Expr × Cursor)
  | 0, _, _, here => here.fail .tooDeep
  | depth + 1, .operand, left, here =>
    let here := here.skipBlank
    match here.take? ['.'], here.take? ['['], here.take? ['('], here.symbol? ['|'] '|' with
    | some here, _, _, _ =>
      match here.takeWhile continuesName with
      | ([], _) => here.fail (.missing "attribute name after '.'")
      | (name, here) => parseMore depth .operand (.field left (String.ofList name)) here
    | _, some here, _, _ => do
      let (index, here) ← parseLevel depth .conditional here
      let here ← here.expect [']']
      parseMore depth .operand (.index left index) here
    | _, _, some here, _ => do
      let (args, here) ← parseList depth ')' here
      parseMore depth .operand (.call left args) here
    | _, _, _, some here => do
      let (name, here) ← here.identifier
      let (args, here) ← parseArgs depth here
      parseMore depth .operand (.filter left name args) here
    | none, none, none, none => .ok (left, here)
  | depth + 1, level, left, here =>
    let here := here.skipBlank
    match operator? level here with
    | some (make, here) => do
      let (right, here) ← parseLevel depth level.tighter here
      parseMore depth level (make left right) here
    | none =>
      if level = .comparison then
        match here.keyword? ['i', 's'], membership? here with
        | some here, _ => do
          let (test, here) ← parseTest depth left here
          parseMore depth level test here
        | none, some (negated, here) => do
          let (container, here) ← parseLevel depth .sum here
          parseMore depth level (.member left container negated) here
        | none, none => .ok (left, here)
      else .ok (left, here)

/-- Reads what follows `is`: a test with its arguments, or an operand to compare with. -/
def parseTest : (depth : Nat) → (target : Expr) → Cursor → Except SyntaxError (Expr × Cursor)
  | 0, _, here => here.fail .tooDeep
  | depth + 1, target, here =>
    let here := here.skipBlank
    let (negated, here) :=
      match here.keyword? ['n', 'o', 't'] with
      | some here => (true, here.skipBlank)
      | none => (false, here)
    match testName? here with
    | some (name, here) => do
      let (args, here) ← parseArgs depth here
      .ok (.test target name args negated, here)
    | none => do
      let (right, here) ← parseLevel depth .sum here
      .ok (.compare (if negated then .ne else .eq) target right, here)

/-- Reads arguments in parentheses, if there are any. -/
def parseArgs : (depth : Nat) → Cursor → Except SyntaxError (List Expr × Cursor)
  | 0, here => here.fail .tooDeep
  | depth + 1, here =>
    let here := here.skipBlank
    match here.take? ['('] with
    | some here => parseList depth ')' here
    | none => .ok ([], here)

/-- Reads expressions between commas up to a closing sign; a comma may stand before the sign. -/
def parseList : (depth : Nat) → (close : Char) → Cursor → Except SyntaxError (List Expr × Cursor)
  | 0, _, here => here.fail .tooDeep
  | depth + 1, close, here =>
    let here := here.skipBlank
    match here.take? [close] with
    | some here => .ok ([], here)
    | none => do
      let (item, here) ← parseLevel depth .conditional here
      let here := here.skipBlank
      match here.take? [','] with
      | some here => do
        let (items, here) ← parseList depth close here
        .ok (item :: items, here)
      | none => do
        let here ← here.expect [close]
        .ok ([item], here)

/-- Reads an operand: a literal, a list, an expression in parentheses or a name. -/
def parseOperand : (depth : Nat) → Cursor → Except SyntaxError (Expr × Cursor)
  | 0, here => here.fail .tooDeep
  | depth + 1, here =>
    match here.rest with
    | [] => here.fail (.unexpectedEnd ['e', 'x', 'p', 'r', 'e', 's', 's', 'i', 'o', 'n'])
    | c :: rest =>
      let next : Cursor := ⟨rest, here.position.step c⟩
      if c.isDigit then .ok (parseNumber here)
      else if c = '"' ∨ c = '\'' then do
        let (text, here) ← parseQuoted c [] next.position rest
        .ok (.literal (Value.ofText text), here)
      else if c = '[' then do
        let (items, here) ← parseList depth ']' next
        .ok (.array items, here)
      else if c = '(' then do
        let (inside, here) ← parseLevel depth .conditional next
        let here ← here.expect [')']
        .ok (inside, here)
      else do
        let (name, here) ← here.identifier
        .ok (nameExpr name, here)

end

/-- A depth of nesting that no expression of a text exceeds. -/
def parseDepth (text : Text) : Nat :=
  12 * (text.length + 2)

/-- Reads a text that is one expression. -/
def parseExpr (text : Text) : Except SyntaxError Expr := do
  let (expr, here) ← parseLevel (parseDepth text) .conditional (Cursor.ofText text)
  let here := here.skipBlank
  if here.rest.isEmpty then .ok expr else here.fail (.leftOver here.rest)

end TextTemplate
