/-
**Derivations of expressions.**

What the parser reads, apart from its depth. A phrase is a function of the parser with the value that
it gives, and it is derived from one cursor to another one.

* `Derives`: the grammar, with one rule for each way that a function of the parser can go;
* `parserDerives`: **what the parser reads within a depth is derived**;
* `Derives.shorter`: a phrase ends where it begins, or behind that.
-/

import TextTemplate.Proofs.Expressions.Calls
import TextTemplate.Proofs.Expressions.Literals
import TextTemplate.Text.TopLevel

namespace TextTemplate

open ParsesTest (PassesNot)

/-! ### The grammar -/

/-- **A phrase is derived from a cursor to another one.** -/
inductive Derives : Phrase → Cursor → Cursor → Prop
  -- a value, and the condition that it may depend on
  | plain {value here behind} (first : Derives (.level .disjunction value) here behind)
      (alone : behind.skipBlank.keyword? ['i', 'f'] = none) :
      Derives (.level .conditional value) here behind.skipBlank
  | guarded {value condition here behind between behind'}
      (first : Derives (.level .disjunction value) here behind)
      (guard : behind.skipBlank.keyword? ['i', 'f'] = some between)
      (second : Derives (.level .disjunction condition) between behind')
      (alone : behind'.skipBlank.keyword? ['e', 'l', 's', 'e'] = none) :
      Derives (.level .conditional (.conditional value condition none)) here behind'.skipBlank
  | choice {value condition otherwise here behind between behind' between' next}
      (first : Derives (.level .disjunction value) here behind)
      (guard : behind.skipBlank.keyword? ['i', 'f'] = some between)
      (second : Derives (.level .disjunction condition) between behind')
      (word : behind'.skipBlank.keyword? ['e', 'l', 's', 'e'] = some between')
      (third : Derives (.level .conditional otherwise) between' next) :
      Derives (.level .conditional (.conditional value condition (some otherwise))) here next
  -- a negation, or none
  | not {operand here between next}
      (sign : (here.skipBlank.keyword? ['n', 'o', 't'] <|> here.skipBlank.symbol? ['!'] '=') =
        some between)
      (inner : Derives (.level .negation operand) between next) :
      Derives (.level .negation (.not operand)) here next
  | positive {expr here next}
      (noSign : (here.skipBlank.keyword? ['n', 'o', 't'] <|> here.skipBlank.symbol? ['!'] '=') = none)
      (inner : Derives (.level .comparison expr) here.skipBlank next) :
      Derives (.level .negation expr) here next
  -- a sign, or none
  | minus {operand here between next} (sign : here.skipBlank.take? ['-'] = some between)
      (inner : Derives (.level .sign operand) between next) :
      Derives (.level .sign (.neg operand)) here next
  | plus {expr here between next} (noMinus : here.skipBlank.take? ['-'] = none)
      (sign : here.skipBlank.take? ['+'] = some between)
      (inner : Derives (.level .sign expr) between next) : Derives (.level .sign expr) here next
  | unsigned {expr here next} (noMinus : here.skipBlank.take? ['-'] = none)
      (noPlus : here.skipBlank.take? ['+'] = none)
      (inner : Derives (.level .operand expr) here.skipBlank next) :
      Derives (.level .sign expr) here next
  -- operands, and what follows them
  | operand {left expr here between next} (first : Derives (.operand left) here between)
      (more : Derives (.more .operand left expr) between next) :
      Derives (.level .operand expr) here next
  | field {left expr here between behind next c name}
      (point : here.skipBlank.take? ['.'] = some between)
      (named : between.takeWhile continuesName = (c :: name, behind))
      (more : Derives (.more .operand (.field left (String.ofList (c :: name))) expr) behind next) :
      Derives (.more .operand left expr) here next
  | index {left index expr here between behind behind' next}
      (noPoint : here.skipBlank.take? ['.'] = none)
      (bracket : here.skipBlank.take? ['['] = some between)
      (inside : Derives (.level .conditional index) between behind)
      (closed : behind.expect [']'] = .ok behind')
      (more : Derives (.more .operand (.index left index) expr) behind' next) :
      Derives (.more .operand left expr) here next
  | call {left args expr here between behind next} (noPoint : here.skipBlank.take? ['.'] = none)
      (noBracket : here.skipBlank.take? ['['] = none)
      (bracket : here.skipBlank.take? ['('] = some between)
      (inside : Derives (.list ')' args) between behind)
      (more : Derives (.more .operand (.call left args) expr) behind next) :
      Derives (.more .operand left expr) here next
  | filter {left args expr here between behind behind' next name}
      (noPoint : here.skipBlank.take? ['.'] = none) (noBracket : here.skipBlank.take? ['['] = none)
      (noList : here.skipBlank.take? ['('] = none)
      (pipe : here.skipBlank.symbol? ['|'] '|' = some between)
      (named : between.identifier = .ok (name, behind)) (listed : Derives (.args args) behind behind')
      (more : Derives (.more .operand (.filter left name args) expr) behind' next) :
      Derives (.more .operand left expr) here next
  -- binary operators
  | binary {level left expr here between next} (isBinary : Level.isBinary level = true)
      (first : Derives (.level level.tighter left) here between)
      (more : Derives (.more level left expr) between next) : Derives (.level level expr) here next
  | operator {level left right expr here between behind next} {make : Expr → Expr → Expr}
      (loose : level ≠ .operand) (sign : operator? level here.skipBlank = some (make, between))
      (second : Derives (.level level.tighter right) between behind)
      (more : Derives (.more level (make left right) expr) behind next) :
      Derives (.more level left expr) here next
  | tested {left tested expr here between behind next}
      (noSign : operator? .comparison here.skipBlank = none)
      (word : here.skipBlank.keyword? ['i', 's'] = some between)
      (test : Derives (.test left tested) between behind)
      (more : Derives (.more .comparison tested expr) behind next) :
      Derives (.more .comparison left expr) here next
  | member {left container expr here between behind next negated}
      (noSign : operator? .comparison here.skipBlank = none)
      (noTest : here.skipBlank.keyword? ['i', 's'] = none)
      (words : membership? here.skipBlank = some (negated, between))
      (second : Derives (.level .sum container) between behind)
      (more : Derives (.more .comparison (.member left container negated) expr) behind next) :
      Derives (.more .comparison left expr) here next
  | stop {level left here} (loose : level ≠ .conditional)
      (stops : here.skipBlank.stops level = true) : Derives (.more level left left) here here.skipBlank
  -- tests
  | named {target args here between behind next name negated}
      (negation : PassesNot here.skipBlank negated between)
      (known : testName? between = some (name, behind)) (listed : Derives (.args args) behind next) :
      Derives (.test target (.test target name args negated)) here next
  | compared {target right here between next negated}
      (negation : PassesNot here.skipBlank negated between) (unknown : testName? between = none)
      (second : Derives (.level .sum right) between next) :
      Derives (.test target (.compare (if negated then .ne else .eq) target right)) here next
  -- arguments and lists
  | noArgs {here} (noList : here.skipBlank.take? ['('] = none) : Derives (.args []) here here.skipBlank
  | args {args here between next} (bracket : here.skipBlank.take? ['('] = some between)
      (inside : Derives (.list ')' args) between next) : Derives (.args args) here next
  | nil {close here next} (closes : Text.closesBracket close = true)
      (closed : here.skipBlank.take? [close] = some next) : Derives (.list close []) here next
  | cons {close item items here between behind next} (closes : Text.closesBracket close = true)
      (opened : here.skipBlank.take? [close] = none)
      (first : Derives (.level .conditional item) here.skipBlank between)
      (comma : between.skipBlank.take? [','] = some behind)
      (rest : Derives (.list close items) behind next) : Derives (.list close (item :: items)) here next
  | last {close item here between next} (closes : Text.closesBracket close = true)
      (opened : here.skipBlank.take? [close] = none)
      (first : Derives (.level .conditional item) here.skipBlank between)
      (noComma : between.skipBlank.take? [','] = none)
      (closed : between.skipBlank.expect [close] = .ok next) : Derives (.list close [item]) here next
  -- literals, names and brackets
  | number {here c rest} (begins : here.skipBlank.rest = c :: rest) (digit : c.isDigit = true) :
      Derives (.operand (parseNumber here.skipBlank).1) here (parseNumber here.skipBlank).2
  | quoted {here quote rest text next} (begins : here.skipBlank.rest = quote :: rest)
      (quotes : quote = '"' ∨ quote = '\'')
      (read : parseQuoted quote [] (here.skipBlank.position.step quote) rest = .ok (text, next)) :
      Derives (.operand (.literal (Value.ofText text))) here next
  | array {items here between next} (bracket : here.skipBlank.take? ['['] = some between)
      (inside : Derives (.list ']' items) between next) : Derives (.operand (.array items)) here next
  | parentheses {expr here between behind next} (bracket : here.skipBlank.take? ['('] = some between)
      (inside : Derives (.level .conditional expr) between behind)
      (closed : behind.expect [')'] = .ok next) : Derives (.operand expr) here next
  | name {here name next} (named : here.skipBlank.identifier = .ok (name, next)) :
      Derives (.operand (nameExpr name)) here next

/-! ### What the parser reads is derived -/

/-- What each function of the parser reads within a depth is derived. -/
structure ParserDerives (depth : Nat) : Prop where
  level : ∀ {level here expr next}, parseLevel depth level here = .ok (expr, next) →
    Derives (.level level expr) here next
  more : ∀ {level left here expr next}, level ≠ .conditional →
    parseMore depth level left here = .ok (expr, next) → Derives (.more level left expr) here next
  test : ∀ {target here expr next}, parseTest depth target here = .ok (expr, next) →
    Derives (.test target expr) here next
  args : ∀ {here args next}, parseArgs depth here = .ok (args, next) → Derives (.args args) here next
  list : ∀ {close here items next}, Text.closesBracket close = true →
    parseList depth close here = .ok (items, next) → Derives (.list close items) here next
  operand : ∀ {here : Cursor} {expr next}, parseOperand depth here.skipBlank = .ok (expr, next) →
    Derives (.operand expr) here next

namespace ParserDerives

variable {depth : Nat} {here next : Cursor} {expr : Expr}

theorem level_conditional (ih : ParserDerives depth)
    (ok : parseLevel (depth + 1) .conditional here = .ok (expr, next)) :
    Derives (.level .conditional expr) here next := by
  rw [parseLevel] at ok
  obtain ⟨⟨value, behind⟩, first, ok⟩ := exists_of_bind_eq_ok ok
  simp only at ok
  split at ok
  · rename_i alone
    cases ok
    exact .plain (ih.level first) alone
  · rename_i between guard
    obtain ⟨⟨condition, behind'⟩, second, ok⟩ := exists_of_bind_eq_ok ok
    simp only at ok
    split at ok
    · rename_i alone
      cases ok
      exact .guarded (ih.level first) guard (ih.level second) alone
    · rename_i between' word
      obtain ⟨⟨otherwise, last⟩, third, ok⟩ := exists_of_bind_eq_ok ok
      cases ok
      exact .choice (ih.level first) guard (ih.level second) word (ih.level third)

theorem level_negation (ih : ParserDerives depth)
    (ok : parseLevel (depth + 1) .negation here = .ok (expr, next)) :
    Derives (.level .negation expr) here next := by
  rw [parseLevel] at ok
  split at ok
  · rename_i between sign
    obtain ⟨⟨operand, last⟩, inner, ok⟩ := exists_of_bind_eq_ok ok
    cases ok
    exact .not sign (ih.level inner)
  · rename_i noSign
    exact .positive noSign (ih.level ok)

theorem level_sign (ih : ParserDerives depth)
    (ok : parseLevel (depth + 1) .sign here = .ok (expr, next)) :
    Derives (.level .sign expr) here next := by
  rw [parseLevel] at ok
  split at ok
  · rename_i between _ sign
    obtain ⟨⟨operand, last⟩, inner, ok⟩ := exists_of_bind_eq_ok ok
    cases ok
    exact .minus sign (ih.level inner)
  · rename_i between noMinus sign
    exact .plus noMinus sign (ih.level ok)
  · rename_i noMinus noPlus
    exact .unsigned noMinus noPlus (ih.level ok)

theorem level_succ (ih : ParserDerives depth) {level : Level}
    (ok : parseLevel (depth + 1) level here = .ok (expr, next)) :
    Derives (.level level expr) here next := by
  by_cases isBinary : level.isBinary = true
  · rw [parseLevel_of_isBinary isBinary] at ok
    obtain ⟨⟨left, between⟩, first, second⟩ := exists_of_bind_eq_ok ok
    have loose : level ≠ .conditional := by
      rintro rfl
      cases isBinary
    exact .binary isBinary (ih.level first) (ih.more loose second)
  · cases level with
    | conditional => exact ih.level_conditional ok
    | negation => exact ih.level_negation ok
    | sign => exact ih.level_sign ok
    | operand =>
      rw [parseLevel] at ok
      obtain ⟨⟨operand, between⟩, first, ok⟩ := exists_of_bind_eq_ok ok
      exact .operand (ih.operand first) (ih.more (by decide) ok)
    | _ => exact absurd rfl isBinary

/-- What may follow an operand: a field, an index, a call or a filter. -/
theorem more_operand (ih : ParserDerives depth) {left : Expr}
    (ok : parseMore (depth + 1) .operand left here = .ok (expr, next)) :
    Derives (.more .operand left expr) here next := by
  rw [parseMore] at ok
  split at ok
  · rename_i between point
    split at ok
    · cases ok
    · rename_i name behind filled named
      cases name with
      | nil => exact absurd rfl filled
      | cons c name => exact .field point named (ih.more (by decide) ok)
  · rename_i between bracket noPoint
    obtain ⟨⟨index, behind⟩, inside, ok⟩ := exists_of_bind_eq_ok ok
    obtain ⟨behind', closed, ok⟩ := exists_of_bind_eq_ok ok
    have noPoint := Option.eq_none_iff_forall_not_mem.mpr noPoint
    exact .index noPoint bracket (ih.level inside) closed (ih.more (by decide) ok)
  · rename_i between bracket noPoint noBracket
    obtain ⟨⟨args, behind⟩, inside, ok⟩ := exists_of_bind_eq_ok ok
    have noPoint := Option.eq_none_iff_forall_not_mem.mpr noPoint
    have noBracket := Option.eq_none_iff_forall_not_mem.mpr noBracket
    exact .call noPoint noBracket bracket (ih.list rfl inside) (ih.more (by decide) ok)
  · rename_i between pipe noPoint noBracket noList
    obtain ⟨⟨name, behind⟩, named, ok⟩ := exists_of_bind_eq_ok ok
    obtain ⟨⟨args, behind'⟩, listed, ok⟩ := exists_of_bind_eq_ok ok
    have noPoint := Option.eq_none_iff_forall_not_mem.mpr noPoint
    have noBracket := Option.eq_none_iff_forall_not_mem.mpr noBracket
    have noList := Option.eq_none_iff_forall_not_mem.mpr noList
    exact .filter noPoint noBracket noList pipe named (ih.args listed) (ih.more (by decide) ok)
  · rename_i noPoint noBracket noList noPipe
    cases ok
    exact .stop (by decide) (by simp [Cursor.stops, noPoint, noBracket, noList, noPipe])

theorem more_succ (ih : ParserDerives depth) {level : Level} {left : Expr}
    (loose : level ≠ .conditional) (ok : parseMore (depth + 1) level left here = .ok (expr, next)) :
    Derives (.more level left expr) here next := by
  by_cases isOperand : level = .operand
  · subst isOperand
    exact ih.more_operand ok
  · rw [parseMore_of_ne_operand isOperand] at ok
    split at ok
    · rename_i make between sign
      obtain ⟨⟨right, behind⟩, second, ok⟩ := exists_of_bind_eq_ok ok
      exact .operator isOperand sign (ih.level second) (ih.more loose ok)
    · rename_i noSign
      split at ok
      · rename_i isComparison
        subst isComparison
        split at ok
        · rename_i between _ word
          obtain ⟨⟨test, behind⟩, first, ok⟩ := exists_of_bind_eq_ok ok
          exact .tested noSign word (ih.test first) (ih.more loose ok)
        · rename_i negated between noTest words
          obtain ⟨⟨container, behind⟩, first, ok⟩ := exists_of_bind_eq_ok ok
          exact .member noSign noTest words (ih.level first) (ih.more loose ok)
        · rename_i noTest noWords
          cases ok
          exact .stop loose (by simp [Cursor.stops, noSign, noTest, noWords])
      · rename_i notComparison
        cases ok
        refine .stop loose ?_
        cases level <;> first | contradiction | exact Option.isNone_iff_eq_none.mpr noSign

/-- The `not` that may stand before a test is passed. -/
theorem passesNot (here : Cursor) :
    let passed := match here.keyword? ['n', 'o', 't'] with
      | some here => (true, here.skipBlank)
      | none => (false, here)
    PassesNot here passed.1 passed.2 := by
  intro passed
  cases word : here.keyword? ['n', 'o', 't'] with
  | some next => exact .inr ⟨next, word, by simp [passed, word], by simp [passed, word]⟩
  | none => exact .inl ⟨word, by simp [passed, word], by simp [passed, word]⟩

theorem test_succ (ih : ParserDerives depth) {target : Expr}
    (ok : parseTest (depth + 1) target here = .ok (expr, next)) :
    Derives (.test target expr) here next := by
  rw [parseTest] at ok
  have negation := passesNot here.skipBlank
  simp only at ok negation
  split at ok
  · rename_i name behind known
    obtain ⟨⟨args, last⟩, listed, ok⟩ := exists_of_bind_eq_ok ok
    cases ok
    exact .named negation known (ih.args listed)
  · rename_i unknown
    obtain ⟨⟨right, last⟩, second, ok⟩ := exists_of_bind_eq_ok ok
    cases ok
    exact .compared negation unknown (ih.level second)

theorem args_succ (ih : ParserDerives depth) {args : List Expr}
    (ok : parseArgs (depth + 1) here = .ok (args, next)) : Derives (.args args) here next := by
  rw [parseArgs] at ok
  split at ok
  · rename_i between bracket
    exact .args bracket (ih.list rfl ok)
  · rename_i noList
    cases ok
    exact .noArgs noList

theorem list_succ (ih : ParserDerives depth) {close : Char} {items : List Expr}
    (closes : Text.closesBracket close = true)
    (ok : parseList (depth + 1) close here = .ok (items, next)) :
    Derives (.list close items) here next := by
  rw [parseList] at ok
  split at ok
  · rename_i closed
    cases ok
    exact .nil closes closed
  · rename_i opened
    obtain ⟨⟨item, between⟩, first, ok⟩ := exists_of_bind_eq_ok ok
    simp only at ok
    split at ok
    · rename_i behind comma
      obtain ⟨⟨items', last⟩, rest, ok⟩ := exists_of_bind_eq_ok ok
      cases ok
      exact .cons closes opened (ih.level first) comma (ih.list closes rest)
    · rename_i noComma
      obtain ⟨last, closed, ok⟩ := exists_of_bind_eq_ok ok
      cases ok
      exact .last closes opened (ih.level first) noComma closed

theorem operand_succ (ih : ParserDerives depth)
    (ok : parseOperand (depth + 1) here.skipBlank = .ok (expr, next)) :
    Derives (.operand expr) here next := by
  rw [parseOperand] at ok
  split at ok
  · cases ok
  · rename_i c rest begins
    have taken : here.skipBlank.take? [c] = some ⟨rest, here.skipBlank.position.step c⟩ :=
      Cursor.take?_of_rest begins
    split at ok
    · rename_i digit
      cases ok
      exact .number begins digit
    · split at ok
      · rename_i quotes
        obtain ⟨⟨text, last⟩, read, ok⟩ := exists_of_bind_eq_ok ok
        cases ok
        exact .quoted begins quotes read
      · split at ok
        · rename_i bracket
          subst bracket
          obtain ⟨⟨items, last⟩, inside, ok⟩ := exists_of_bind_eq_ok ok
          cases ok
          exact .array taken (ih.list rfl inside)
        · split at ok
          · rename_i bracket
            subst bracket
            obtain ⟨⟨inside, behind⟩, read, ok⟩ := exists_of_bind_eq_ok ok
            obtain ⟨last, closed, ok⟩ := exists_of_bind_eq_ok ok
            cases ok
            exact .parentheses taken (ih.level read) closed
          · obtain ⟨⟨name, last⟩, named, ok⟩ := exists_of_bind_eq_ok ok
            cases ok
            exact .name named

end ParserDerives

/-- **What the parser reads within a depth is derived.** -/
theorem parserDerives (depth : Nat) : ParserDerives depth := by
  induction depth with
  | zero =>
    refine ⟨fun ok => ?_, fun _ ok => ?_, fun ok => ?_, fun ok => ?_, fun _ ok => ?_, fun ok => ?_⟩
    all_goals cases ok
  | succ depth ih =>
    exact ⟨ih.level_succ, ih.more_succ, ih.test_succ, ih.args_succ, ih.list_succ, ih.operand_succ⟩

/-! ### How far a phrase reaches -/

namespace Derives

variable {phrase : Phrase} {here between next : Cursor}

theorem length_skipBlank_le (here : Cursor) : here.skipBlank.rest.length ≤ here.rest.length :=
  Text.length_trimStart_le here.rest

theorem length_of_passesNot {negated : Bool} (negation : PassesNot here.skipBlank negated between) :
    between.rest.length ≤ here.rest.length := by
  rcases negation with ⟨-, -, rfl⟩ | ⟨next, word, -, rfl⟩
  · exact length_skipBlank_le here
  · exact (length_skipBlank_le next).trans (Lexes.notWord.advances_of_skipBlank word).le

theorem negationSign :
    Lexes.Plain fun here => here.keyword? ['n', 'o', 't'] <|> here.symbol? ['!'] '=' :=
  Lexes.orElse Lexes.notWord (Lexes.sign rfl)

theorem ifWord : Lexes.Plain (Cursor.keyword? ['i', 'f']) :=
  Lexes.word (by decide) (by decide)

theorem elseWord : Lexes.Plain (Cursor.keyword? ['e', 'l', 's', 'e']) :=
  Lexes.word (by decide) (by decide)

theorem isWord : Lexes.Plain (Cursor.keyword? ['i', 's']) :=
  Lexes.word (by decide) (by decide)

theorem pipeSign : Lexes.Plain (Cursor.symbol? ['|'] '|') :=
  Lexes.sign rfl

/-- A single character behind blanks gets on. -/
theorem length_of_character {c : Char} (taken : here.skipBlank.take? [c] = some next) :
    next.rest.length < here.rest.length :=
  (Lexes.length_of_take? (List.cons_ne_nil c []) taken).trans_le (length_skipBlank_le here)

/-- **A phrase ends where it begins, or behind that.** -/
theorem shorter (derives : Derives phrase here next) : next.rest.length ≤ here.rest.length := by
  induction derives with
  | plain first alone ih => exact (length_skipBlank_le _).trans ih
  | guarded first guard second alone ih ih' =>
    exact (length_skipBlank_le _).trans (ih'.trans ((ifWord.advances_of_skipBlank guard).le.trans ih))
  | choice first guard second word third ih ih' ih'' =>
    have guarded := ih'.trans ((ifWord.advances_of_skipBlank guard).le.trans ih)
    exact ih''.trans ((elseWord.advances_of_skipBlank word).le.trans guarded)
  | not sign inner ih => exact ih.trans (negationSign.advances_of_skipBlank sign).le
  | positive noSign inner ih => exact ih.trans (length_skipBlank_le _)
  | minus sign inner ih => exact ih.trans (length_of_character sign).le
  | plus noMinus sign inner ih => exact ih.trans (length_of_character sign).le
  | unsigned noMinus noPlus inner ih => exact ih.trans (length_skipBlank_le _)
  | operand first more ih ih' => exact ih'.trans ih
  | field point named more ih =>
    have passed := Cursor.length_of_takeWhile named
    exact ih.trans (passed.trans (length_of_character point).le)
  | index noPoint bracket inside closed more ih ih' =>
    have inside := (Cursor.length_of_expect closed).le.trans ih
    exact ih'.trans (inside.trans (length_of_character bracket).le)
  | call noPoint noBracket bracket inside more ih ih' =>
    exact ih'.trans (ih.trans (length_of_character bracket).le)
  | filter noPoint noBracket noList pipe named listed more ih ih' =>
    have named := (Cursor.length_of_identifier named).le.trans (length_skipBlank_le _)
    exact ih'.trans (ih.trans (named.trans (pipeSign.advances_of_skipBlank pipe).le))
  | binary isBinary first more ih ih' => exact ih'.trans ih
  | operator loose sign second more ih ih' =>
    exact ih'.trans (ih.trans ((Lexes.operator? _).advances_of_skipBlank sign).le)
  | tested noSign word test more ih ih' =>
    exact ih'.trans (ih.trans (isWord.advances_of_skipBlank word).le)
  | member noSign noTest words second more ih ih' =>
    have words := (Lexes.advances_of_membership? words).le.trans (length_skipBlank_le _)
    exact ih'.trans (ih.trans words)
  | stop loose stops => exact length_skipBlank_le _
  | named negation known listed ih =>
    exact ih.trans ((Lexes.testName?.advances known).le.trans (length_of_passesNot negation))
  | compared negation unknown second ih => exact ih.trans (length_of_passesNot negation)
  | noArgs noList => exact length_skipBlank_le _
  | args bracket inside ih => exact ih.trans (length_of_character bracket).le
  | nil closes closed => exact (length_of_character closed).le
  | cons closes opened first comma rest ih ih' =>
    have item := (length_of_character comma).le.trans (ih.trans (length_skipBlank_le _))
    exact ih'.trans item
  | last closes opened first noComma closed ih =>
    have item := (length_skipBlank_le _).trans (ih.trans (length_skipBlank_le _))
    exact (Cursor.length_of_expect closed).le.trans item
  | number begins digit => exact (length_of_parseNumber _).trans (length_skipBlank_le _)
  | @quoted here _ _ _ _ begins quotes read =>
    have length_eq := congrArg List.length begins
    have read := length_of_parseQuoted read
    have blanks := length_skipBlank_le here
    rw [List.length_cons] at length_eq
    omega
  | array bracket inside ih => exact ih.trans (length_of_character bracket).le
  | parentheses bracket inside closed ih =>
    exact (Cursor.length_of_expect closed).le.trans (ih.trans (length_of_character bracket).le)
  | name named =>
    have named := (Cursor.length_of_identifier named).le.trans (length_skipBlank_le _)
    exact named.trans (length_skipBlank_le _)

end Derives

end TextTemplate
