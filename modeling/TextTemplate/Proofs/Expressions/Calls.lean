/-
**Calls of the parser.**

A call of a function of the parser is given a depth, and the calls in it get one less. Each way that a
function can go is a rule: from what its calls read, it reads its own value with one call more.

* `Phrase`, `Phrase.ReadWithin`: a function of the parser gives its value within a depth;
* `Phrase.ReadWithin.plain`, …: **one rule for each way that a function can go**;
* `Cursor.stops`: no operator of a level begins at a cursor.
-/

import TextTemplate.Proofs.Expressions.Cursors

namespace TextTemplate

/-! ### Phrases -/

/-- A function of the parser, with what it is given and with the value that it gives. -/
inductive Phrase where
  /-- An expression of a level. -/
  | level (level : Level) (expr : Expr)
  /-- What the operators of a level make of a left operand. -/
  | more (level : Level) (left expr : Expr)
  /-- What a test makes of its target. -/
  | test (target expr : Expr)
  /-- Arguments in parentheses, if there are any. -/
  | args (args : List Expr)
  /-- The elements of a list up to its closing sign. -/
  | list (close : Char) (items : List Expr)
  /-- An operand behind blanks. -/
  | operand (expr : Expr)

/-- The function of a phrase gives its value within a depth. -/
def Phrase.ReadWithin (phrase : Phrase) (depth : Nat) (here next : Cursor) : Prop :=
  match phrase with
  | .level kind expr => parseLevel depth kind here = .ok (expr, next)
  | .more kind left expr => parseMore depth kind left here = .ok (expr, next)
  | .test target expr => parseTest depth target here = .ok (expr, next)
  | .args exprs => parseArgs depth here = .ok (exprs, next)
  | .list close items => parseList depth close here = .ok (items, next)
  | .operand expr => parseOperand depth here.skipBlank = .ok (expr, next)

/-! ### Equations of the functions -/

/-- Whether no operator of a level begins at a cursor. -/
def Cursor.stops (level : Level) (here : Cursor) : Bool :=
  match level with
  | .operand => (here.take? ['.']).isNone && (here.take? ['[']).isNone &&
      (here.take? ['(']).isNone && (here.symbol? ['|'] '|').isNone
  | .comparison => (operator? .comparison here).isNone && (here.keyword? ['i', 's']).isNone &&
      (membership? here).isNone
  | .conditional => (here.keyword? ['i', 'f']).isNone && (here.keyword? ['e', 'l', 's', 'e']).isNone
  | level => (operator? level here).isNone

/-- Whether the operators of a level stand between two operands. -/
def Level.isBinary : Level → Bool
  | .disjunction | .conjunction | .comparison | .sum | .product => true
  | _ => false

theorem parseLevel_of_isBinary {level : Level} (binary : level.isBinary = true) (depth : Nat) (here : Cursor) :
    parseLevel (depth + 1) level here = (do
      let (left, here) ← parseLevel depth level.tighter here
      parseMore depth level left here) := by
  cases level <;> first | rfl | contradiction

theorem parseMore_of_ne_operand {level : Level} (binary : level ≠ .operand) (depth : Nat)
    (left : Expr) (here : Cursor) :
    parseMore (depth + 1) level left here =
      match operator? level here.skipBlank with
      | some (make, here) => do
        let (right, here) ← parseLevel depth level.tighter here
        parseMore depth level (make left right) here
      | none =>
        if level = .comparison then
          match here.skipBlank.keyword? ['i', 's'], membership? here.skipBlank with
          | some here, _ => do
            let (test, here) ← parseTest depth left here
            parseMore depth level test here
          | none, some (negated, here) => do
            let (container, here) ← parseLevel depth .sum here
            parseMore depth level (.member left container negated) here
          | none, none => .ok (left, here.skipBlank)
        else .ok (left, here.skipBlank) := by
  cases level <;> first | rfl | contradiction

/-- The names of tests are names. -/
theorem isName_of_mem_testNames {name : String} (known : name ∈ testNames) : IsName name.toList := by
  have all : ∀ name ∈ testNames, IsName name.toList := by decide
  exact all name known

/-- The cursor behind the `not` that may stand before a test. -/
def ParsesTest.PassesNot (here : Cursor) (negated : Bool) (behind : Cursor) : Prop :=
  (here.keyword? ['n', 'o', 't'] = none ∧ negated = false ∧ behind = here) ∨
    ∃ next, here.keyword? ['n', 'o', 't'] = some next ∧ negated = true ∧ behind = next.skipBlank

open ParsesTest (PassesNot)

/-- A test behind the `not` that may stand before it. -/
theorem parseTest_of_passesNot {depth : Nat} {target : Expr} {negated : Bool} {here between : Cursor}
    (negation : PassesNot here.skipBlank negated between) :
    parseTest (depth + 1) target here =
      (match testName? between with
      | some (name, here) => do
        let (args, here) ← parseArgs depth here
        .ok (.test target name args negated, here)
      | none => do
        let (right, here) ← parseLevel depth .sum between
        .ok (.compare (if negated then .ne else .eq) target right, here)) := by
  rcases negation with ⟨word, rfl, rfl⟩ | ⟨next, word, rfl, rfl⟩
  all_goals
    rewrite [parseTest, word]
    rfl

/-! ### The rules of the calls -/

namespace Phrase.ReadWithin

variable {depth : Nat} {here between between' behind behind' next : Cursor}
  {value condition otherwise left right expr item : Expr} {exprs items : List Expr} {negated : Bool}
  {word : String}

theorem parseLevel_conditional (first : (level .disjunction value).ReadWithin depth here behind) :
    parseLevel (depth + 1) .conditional here =
      (match behind.skipBlank.keyword? ['i', 'f'] with
      | none => .ok (value, behind.skipBlank)
      | some here => do
        let (condition, here) ← parseLevel depth .disjunction here
        match here.skipBlank.keyword? ['e', 'l', 's', 'e'] with
        | none => .ok (.conditional value condition none, here.skipBlank)
        | some here => do
          let (otherwise, here) ← parseLevel depth .conditional here
          .ok (.conditional value condition (some otherwise), here)) := by
  rw [parseLevel, first]
  rfl

theorem plain (first : (level .disjunction value).ReadWithin depth here behind)
    (alone : behind.skipBlank.keyword? ['i', 'f'] = none) :
    (level .conditional value).ReadWithin (depth + 1) here behind.skipBlank := by
  show parseLevel (depth + 1) .conditional here = _
  rw [parseLevel_conditional first, alone]

theorem guarded (first : (level .disjunction value).ReadWithin depth here behind)
    (guard : behind.skipBlank.keyword? ['i', 'f'] = some between)
    (second : (level .disjunction condition).ReadWithin depth between behind')
    (alone : behind'.skipBlank.keyword? ['e', 'l', 's', 'e'] = none) :
    (level .conditional (.conditional value condition none)).ReadWithin (depth + 1) here
      behind'.skipBlank := by
  show parseLevel (depth + 1) .conditional here = _
  rw [parseLevel_conditional first, guard]
  show (parseLevel depth .disjunction between >>= _) = _
  rw [second, ok_bind]
  simp only [alone]

theorem choice (first : (level .disjunction value).ReadWithin depth here behind)
    (guard : behind.skipBlank.keyword? ['i', 'f'] = some between)
    (second : (level .disjunction condition).ReadWithin depth between behind')
    (word : behind'.skipBlank.keyword? ['e', 'l', 's', 'e'] = some between')
    (third : (level .conditional otherwise).ReadWithin depth between' next) :
    (level .conditional (.conditional value condition (some otherwise))).ReadWithin (depth + 1) here
      next := by
  show parseLevel (depth + 1) .conditional here = _
  rw [parseLevel_conditional first, guard]
  show (parseLevel depth .disjunction between >>= _) = _
  rw [second, ok_bind]
  simp only [word]
  show (parseLevel depth .conditional between' >>= _) = _
  rw [third]
  rfl

theorem not (sign : (here.skipBlank.keyword? ['n', 'o', 't'] <|> here.skipBlank.symbol? ['!'] '=') =
      some between) (inner : (level .negation expr).ReadWithin depth between next) :
    (level .negation (.not expr)).ReadWithin (depth + 1) here next := by
  show parseLevel (depth + 1) .negation here = _
  rw [parseLevel, sign]
  show (parseLevel depth .negation between >>= _) = _
  rw [inner]
  rfl

theorem positive
    (noSign : (here.skipBlank.keyword? ['n', 'o', 't'] <|> here.skipBlank.symbol? ['!'] '=') = none)
    (inner : (level .comparison expr).ReadWithin depth here.skipBlank next) :
    (level .negation expr).ReadWithin (depth + 1) here next := by
  show parseLevel (depth + 1) .negation here = _
  rw [parseLevel, noSign]
  exact inner

theorem minus (sign : here.skipBlank.take? ['-'] = some between)
    (inner : (level .sign expr).ReadWithin depth between next) :
    (level .sign (.neg expr)).ReadWithin (depth + 1) here next := by
  show parseLevel (depth + 1) .sign here = _
  rw [parseLevel, sign]
  show (parseLevel depth .sign between >>= _) = _
  rw [inner]
  rfl

theorem plus (noMinus : here.skipBlank.take? ['-'] = none)
    (sign : here.skipBlank.take? ['+'] = some between)
    (inner : (level .sign expr).ReadWithin depth between next) :
    (level .sign expr).ReadWithin (depth + 1) here next := by
  show parseLevel (depth + 1) .sign here = _
  rw [parseLevel, noMinus, sign]
  exact inner

theorem unsigned (noMinus : here.skipBlank.take? ['-'] = none)
    (noPlus : here.skipBlank.take? ['+'] = none)
    (inner : (level .operand expr).ReadWithin depth here.skipBlank next) :
    (level .sign expr).ReadWithin (depth + 1) here next := by
  show parseLevel (depth + 1) .sign here = _
  rw [parseLevel, noMinus, noPlus]
  exact inner

theorem operand (first : (Phrase.operand left).ReadWithin depth here between)
    (goesOn : (more .operand left expr).ReadWithin depth between next) :
    (level .operand expr).ReadWithin (depth + 1) here next := by
  show (parseOperand depth here.skipBlank >>= _) = _
  rw [first]
  exact goesOn

theorem field {c : Char} {run : Text} (point : here.skipBlank.take? ['.'] = some between)
    (named : between.takeWhile continuesName = (c :: run, behind))
    (goesOn : (more .operand (.field left (String.ofList (c :: run))) expr).ReadWithin depth behind
      next) :
    (more .operand left expr).ReadWithin (depth + 1) here next := by
  show parseMore (depth + 1) .operand left here = _
  rw [parseMore, point]
  simp only [named]
  exact goesOn

theorem index {index : Expr} (noPoint : here.skipBlank.take? ['.'] = none)
    (bracket : here.skipBlank.take? ['['] = some between)
    (inside : (level .conditional index).ReadWithin depth between behind)
    (closed : behind.expect [']'] = .ok behind')
    (goesOn : (more .operand (.index left index) expr).ReadWithin depth behind' next) :
    (more .operand left expr).ReadWithin (depth + 1) here next := by
  show parseMore (depth + 1) .operand left here = _
  rw [parseMore, noPoint, bracket]
  show (parseLevel depth .conditional between >>= _) = _
  rw [inside, ok_bind]
  simp only [closed]
  exact goesOn

theorem call (noPoint : here.skipBlank.take? ['.'] = none)
    (noBracket : here.skipBlank.take? ['['] = none)
    (bracket : here.skipBlank.take? ['('] = some between)
    (inside : (list ')' exprs).ReadWithin depth between behind)
    (goesOn : (more .operand (.call left exprs) expr).ReadWithin depth behind next) :
    (more .operand left expr).ReadWithin (depth + 1) here next := by
  show parseMore (depth + 1) .operand left here = _
  rw [parseMore, noPoint, noBracket, bracket]
  show (parseList depth ')' between >>= _) = _
  rw [inside]
  exact goesOn

theorem filter (noPoint : here.skipBlank.take? ['.'] = none)
    (noBracket : here.skipBlank.take? ['['] = none) (noList : here.skipBlank.take? ['('] = none)
    (pipe : here.skipBlank.symbol? ['|'] '|' = some between)
    (named : between.identifier = .ok (word, behind))
    (listed : (Phrase.args exprs).ReadWithin depth behind behind')
    (goesOn : (more .operand (.filter left word exprs) expr).ReadWithin depth behind' next) :
    (more .operand left expr).ReadWithin (depth + 1) here next := by
  show parseMore (depth + 1) .operand left here = _
  rw [parseMore, noPoint, noBracket, noList, pipe]
  show (Cursor.identifier between >>= _) = _
  rw [named]
  show (parseArgs depth behind >>= _) = _
  rw [listed]
  exact goesOn

theorem binary {kind : Level} (isBinary : kind.isBinary = true)
    (first : (level kind.tighter left).ReadWithin depth here between)
    (goesOn : (more kind left expr).ReadWithin depth between next) :
    (level kind expr).ReadWithin (depth + 1) here next := by
  show parseLevel (depth + 1) kind here = _
  rw [parseLevel_of_isBinary isBinary, first]
  exact goesOn

theorem operator {kind : Level} {make : Expr → Expr → Expr} (loose : kind ≠ .operand)
    (sign : operator? kind here.skipBlank = some (make, between))
    (second : (level kind.tighter right).ReadWithin depth between behind)
    (goesOn : (more kind (make left right) expr).ReadWithin depth behind next) :
    (more kind left expr).ReadWithin (depth + 1) here next := by
  show parseMore (depth + 1) kind left here = _
  rw [parseMore_of_ne_operand loose, sign]
  show (parseLevel depth kind.tighter between >>= _) = _
  rw [second]
  exact goesOn

theorem tested {tested : Expr} (noSign : operator? .comparison here.skipBlank = none)
    (word : here.skipBlank.keyword? ['i', 's'] = some between)
    (tests : (Phrase.test left tested).ReadWithin depth between behind)
    (goesOn : (more .comparison tested expr).ReadWithin depth behind next) :
    (more .comparison left expr).ReadWithin (depth + 1) here next := by
  show parseMore (depth + 1) .comparison left here = _
  rw [parseMore_of_ne_operand (by decide), noSign]
  simp only [word, if_true]
  show (parseTest depth left between >>= _) = _
  rw [tests]
  exact goesOn

theorem member {container : Expr} (noSign : operator? .comparison here.skipBlank = none)
    (noTest : here.skipBlank.keyword? ['i', 's'] = none)
    (words : membership? here.skipBlank = some (negated, between))
    (second : (level .sum container).ReadWithin depth between behind)
    (goesOn : (more .comparison (.member left container negated) expr).ReadWithin depth behind
      next) :
    (more .comparison left expr).ReadWithin (depth + 1) here next := by
  show parseMore (depth + 1) .comparison left here = _
  rw [parseMore_of_ne_operand (by decide), noSign]
  simp only [noTest, words, if_true]
  show (parseLevel depth .sum between >>= _) = _
  rw [second]
  exact goesOn

/-- Where no operator of a level begins, a left operand is all. -/
theorem stop {kind : Level} (loose : kind ≠ .conditional)
    (stops : here.skipBlank.stops kind = true) :
    (more kind left left).ReadWithin (depth + 1) here here.skipBlank := by
  show parseMore (depth + 1) kind left here = _
  by_cases isOperand : kind = .operand
  · subst isOperand
    simp only [Cursor.stops, Bool.and_eq_true, Option.isNone_iff_eq_none] at stops
    obtain ⟨⟨⟨point, bracket⟩, parenthesis⟩, pipe⟩ := stops
    rw [parseMore, point, bracket, parenthesis, pipe]
  · rw [parseMore_of_ne_operand isOperand]
    by_cases comparison : kind = .comparison
    · subst comparison
      simp only [Cursor.stops, Bool.and_eq_true, Option.isNone_iff_eq_none] at stops
      obtain ⟨⟨sign, noTest⟩, noMember⟩ := stops
      rw [sign, noTest, noMember]
      rfl
    · have sign : operator? kind here.skipBlank = none := by
        cases kind <;> first | exact Option.isNone_iff_eq_none.mp stops | contradiction
      rw [sign, if_neg comparison]

theorem named (negation : PassesNot here.skipBlank negated between)
    (passed : testName? between = some (word, behind))
    (listed : (Phrase.args exprs).ReadWithin depth behind next) :
    (test left (.test left word exprs negated)).ReadWithin (depth + 1) here next := by
  show parseTest (depth + 1) left here = _
  rw [parseTest_of_passesNot negation, passed]
  show (parseArgs depth behind >>= _) = _
  rw [listed]
  rfl

theorem compared (negation : PassesNot here.skipBlank negated between)
    (unword : testName? between = none)
    (second : (level .sum right).ReadWithin depth between next) :
    (test left (.compare (if negated then .ne else .eq) left right)).ReadWithin (depth + 1) here
      next := by
  show parseTest (depth + 1) left here = _
  rw [parseTest_of_passesNot negation, unword]
  show (parseLevel depth .sum between >>= _) = _
  rw [second]
  rfl

theorem noArgs (noList : here.skipBlank.take? ['('] = none) :
    (Phrase.args []).ReadWithin (depth + 1) here here.skipBlank := by
  show parseArgs (depth + 1) here = _
  rw [parseArgs, noList]

theorem args (bracket : here.skipBlank.take? ['('] = some between)
    (inside : (list ')' items).ReadWithin depth between next) :
    (Phrase.args items).ReadWithin (depth + 1) here next := by
  show parseArgs (depth + 1) here = _
  rw [parseArgs, bracket]
  exact inside

section Lists

variable {close : Char}

theorem nil (closed : here.skipBlank.take? [close] = some next) :
    (list close []).ReadWithin (depth + 1) here next := by
  show parseList (depth + 1) close here = _
  rw [parseList, closed]

theorem cons (opened : here.skipBlank.take? [close] = none)
    (first : (level .conditional item).ReadWithin depth here.skipBlank between)
    (comma : between.skipBlank.take? [','] = some behind)
    (rest : (list close items).ReadWithin depth behind next) :
    (list close (item :: items)).ReadWithin (depth + 1) here next := by
  show parseList (depth + 1) close here = _
  rw [parseList, opened]
  show (parseLevel depth .conditional here.skipBlank >>= _) = _
  rw [first, ok_bind]
  simp only [comma]
  show (parseList depth close behind >>= _) = _
  rw [rest]
  rfl

theorem last (opened : here.skipBlank.take? [close] = none)
    (first : (level .conditional item).ReadWithin depth here.skipBlank between)
    (noComma : between.skipBlank.take? [','] = none)
    (closed : between.skipBlank.expect [close] = .ok next) :
    (list close [item]).ReadWithin (depth + 1) here next := by
  show parseList (depth + 1) close here = _
  rw [parseList, opened]
  show (parseLevel depth .conditional here.skipBlank >>= _) = _
  rw [first, ok_bind]
  simp only [noComma, closed]
  rfl

end Lists

theorem number {c : Char} {rest : Text} (begins : here.skipBlank.rest = c :: rest)
    (digit : c.isDigit = true) :
    (Phrase.operand (parseNumber here.skipBlank).1).ReadWithin (depth + 1) here
      (parseNumber here.skipBlank).2 := by
  show parseOperand (depth + 1) here.skipBlank = _
  rw [parseOperand, begins]
  exact if_pos digit

theorem quoted {quote : Char} {rest text : Text} (begins : here.skipBlank.rest = quote :: rest)
    (quotes : quote = '"' ∨ quote = '\'')
    (read : parseQuoted quote [] (here.skipBlank.position.step quote) rest = .ok (text, next)) :
    (Phrase.operand (.literal (Value.ofText text))).ReadWithin (depth + 1) here next := by
  have noDigit : ¬ quote.isDigit = true := by
    rcases quotes with rfl | rfl <;> decide
  show parseOperand (depth + 1) here.skipBlank = _
  rw [parseOperand, begins]
  simp only [if_neg noDigit, if_pos quotes, read]
  rfl

theorem array (bracket : here.skipBlank.take? ['['] = some between)
    (inside : (list ']' items).ReadWithin depth between next) :
    (Phrase.operand (.array items)).ReadWithin (depth + 1) here next := by
  obtain ⟨rest, begins, rfl⟩ := Cursor.exists_of_character bracket
  show parseOperand (depth + 1) here.skipBlank = _
  rw [parseOperand, begins]
  show (parseList depth ']' _ >>= _) = _
  rw [inside]
  rfl

theorem parentheses (bracket : here.skipBlank.take? ['('] = some between)
    (inside : (level .conditional expr).ReadWithin depth between behind)
    (closed : behind.expect [')'] = .ok next) :
    (Phrase.operand expr).ReadWithin (depth + 1) here next := by
  obtain ⟨rest, begins, rfl⟩ := Cursor.exists_of_character bracket
  show parseOperand (depth + 1) here.skipBlank = _
  rw [parseOperand, begins]
  show (parseLevel depth .conditional _ >>= _) = _
  rw [inside, ok_bind]
  simp only [closed]
  rfl

/-- Where a name begins, nothing else does. -/
theorem name (named : here.skipBlank.identifier = .ok (word, next)) :
    (Phrase.operand (nameExpr word)).ReadWithin (depth + 1) here next := by
  have begins := (Cursor.identifier_eq_ok_iff.mp named).1
  rw [Cursor.skipBlank_skipBlank] at begins
  show parseOperand (depth + 1) here.skipBlank = _
  cases rest_eq : here.skipBlank.rest with
  | nil => simp [Cursor.sees, rest_eq] at begins
  | cons c rest =>
    have begins : beginsName c = true := by
      rw [Cursor.sees, rest_eq] at begins
      exact begins
    have noDigit : ¬ c.isDigit = true := by simp [not_isDigit_of_beginsName begins]
    have noQuote : ¬(c = '"' ∨ c = '\'') := by
      rintro (rfl | rfl) <;> exact absurd begins (by decide)
    have noBracket : c ≠ '[' := by
      rintro rfl
      exact absurd begins (by decide)
    have noParenthesis : c ≠ '(' := by
      rintro rfl
      exact absurd begins (by decide)
    rw [parseOperand, rest_eq]
    simp only [if_neg noDigit, if_neg noQuote, if_neg noBracket, if_neg noParenthesis, named]
    rfl

end Phrase.ReadWithin

end TextTemplate
