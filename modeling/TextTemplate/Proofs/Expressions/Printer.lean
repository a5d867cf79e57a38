/-
**Writing expressions.**

The text of an expression, with parentheses where the levels of the grammar ask for them and
wherever a style adds some.

* `Expr.level` is the level of the grammar at which an expression stands without parentheses;
* `Style.bare` is the text of an expression, `Style.text` the one where an operand of a level is
  expected: in parentheses if the expression is looser than that, or if the style asks for them;
* `Style.fewest` adds no parentheses, `Style.full` puts every expression in parentheses;
* `Writable` are the expressions that have a text: the literals are null, truth values, natural numbers
  and texts, and the names are such that they can be read back.
-/

import TextTemplate.Expr.Parser
import TextTemplate.Number.Decimal
import TextTemplate.Proofs.Expressions.Names

namespace TextTemplate

/-! ### The levels of expressions -/

/-- How loose a level is; an operand is tightest. -/
def Level.looseness : Level → Nat
  | .conditional => 8
  | .disjunction => 7
  | .conjunction => 6
  | .negation => 5
  | .comparison => 4
  | .sum => 3
  | .product => 2
  | .sign => 1
  | .operand => 0

/-- The level of an arithmetic operator. -/
def ArithOp.level : ArithOp → Level
  | .add | .sub | .concat => .sum
  | .mul | .div | .rem => .product

/-- The level at which an expression stands without parentheses. -/
def Expr.level : Expr → Level
  | .conditional .. => .conditional
  | .or .. => .disjunction
  | .and .. => .conjunction
  | .not _ => .negation
  | .compare .. | .member .. | .test .. => .comparison
  | .arith op .. => op.level
  | .neg _ => .sign
  | .literal _ | .array _ | .name _ | .field .. | .index .. | .call .. | .filter .. => .operand

namespace Expr

/-- Whether an expression is a number. -/
def isNumber : Expr → Bool
  | .literal (.int _) | .literal (.float _) => true
  | _ => false

/-- Whether an expression is a filter without arguments. -/
def isBareFilter : Expr → Bool
  | .filter _ _ [] => true
  | _ => false

end Expr

/-! ### Signs, words and quotes -/

/-- The sign of a comparison. -/
def CompareOp.sign : CompareOp → Text
  | .eq => ['=', '=']
  | .ne => ['!', '=']
  | .lt => ['<']
  | .le => ['<', '=']
  | .gt => ['>']
  | .ge => ['>', '=']

/-- The sign of an arithmetic operator. -/
def ArithOp.sign : ArithOp → Text
  | .add => ['+']
  | .sub => ['-']
  | .mul => ['*']
  | .div => ['/']
  | .rem => ['%']
  | .concat => ['~']

/-- A text between two quotes, where a backslash stands before quotes and backslashes. -/
def quotedBy (quote : Char) (text : Text) : Text :=
  quote :: (text.flatMap (fun c => if c = quote ∨ c = '\\' then ['\\', c] else [c]) ++ [quote])

/-- A choice between the spellings of the operators and of the quotes. -/
structure Spelling where
  /-- `!`, `&&` and `||` instead of words. -/
  signs : Bool
  /-- Single quotes instead of double ones. -/
  single : Bool

namespace Spelling

variable (spelling : Spelling)

def quote : Char :=
  if spelling.single then '\'' else '"'

def negation : Text :=
  if spelling.signs then ['!'] else ['n', 'o', 't', ' ']

theorem length_negation_pos : 0 < spelling.negation.length := by
  rcases spelling with ⟨_ | _, single⟩ <;> exact Nat.succ_pos _

def conjunction : Text :=
  if spelling.signs then ['&', '&'] else ['a', 'n', 'd']

def disjunction : Text :=
  if spelling.signs then ['|', '|'] else ['o', 'r']

/-- The text of a literal; floats, lists and maps have none. -/
def literal : Value → Text
  | .null => ['n', 'u', 'l', 'l']
  | .bool true => ['t', 'r', 'u', 'e']
  | .bool false => ['f', 'a', 'l', 's', 'e']
  | .int n => Decimal.digitText n.toInt.toNat
  | .string s => quotedBy spelling.quote s.toList
  | .float _ | .array _ | .map _ => []

end Spelling

/-! ### The text of an expression -/

/-- A text in parentheses. -/
def inParentheses (text : Text) : Text :=
  '(' :: (text ++ [')'])

/-- Arguments in parentheses, if there are any, from the text between the parentheses. -/
def listed (args : List Expr) (text : Text) : Text :=
  if args.isEmpty then [] else inParentheses text

/-- Two operands with an operator between them. -/
def infixed (left sign right : Text) : Text :=
  left ++ ' ' :: (sign ++ ' ' :: right)

/-- A spelling, and the expressions that are in parentheses although the grammar does not ask for
them. -/
structure Style where
  spelling : Spelling
  parentheses : Expr → Bool

namespace Style

/-- No more parentheses than the grammar asks for. -/
def fewest (spelling : Spelling) : Style :=
  ⟨spelling, fun _ => false⟩

/-- Parentheses around every expression. -/
def full (spelling : Spelling) : Style :=
  ⟨spelling, fun _ => true⟩

variable (style : Style)

/-- The text of an expression where an operand of a level is expected, from its own text. -/
def placed (level : Level) (expr : Expr) (text : Text) : Text :=
  if level.looseness < expr.level.looseness || style.parentheses expr then inParentheses text
  else text

/-- What stands before a point: a number is in parentheses, since its digits would go on. -/
def beforePoint (expr : Expr) (text : Text) : Text :=
  if expr.isNumber then inParentheses text else style.placed .operand expr text

/-- What is called: a filter has its list of arguments, even if that is empty. -/
def beforeCall (expr : Expr) (text : Text) : Text :=
  style.placed .operand expr (if expr.isBareFilter then text ++ ['(', ')'] else text)

mutual

/-- The text of an expression on its own. -/
def bare : Expr → Text
  | .literal value => style.spelling.literal value
  | .array items => '[' :: (bareItems items ++ [']'])
  | .name name => name.toList
  | .field target name => style.beforePoint target (bare target) ++ '.' :: name.toList
  | .index target index =>
    style.placed .operand target (bare target) ++
      '[' :: (style.placed .conditional index (bare index) ++ [']'])
  | .call callee args => style.beforeCall callee (bare callee) ++ inParentheses (bareItems args)
  | .filter target name args =>
    style.placed .operand target (bare target) ++
      [' ', '|', ' '] ++ name.toList ++ listed args (bareItems args)
  | .not operand => style.spelling.negation ++ style.placed .negation operand (bare operand)
  | .and left right =>
    infixed (style.placed .conjunction left (bare left)) style.spelling.conjunction
      (style.placed .negation right (bare right))
  | .or left right =>
    infixed (style.placed .disjunction left (bare left)) style.spelling.disjunction
      (style.placed .conjunction right (bare right))
  | .compare op left right =>
    infixed (style.placed .comparison left (bare left)) op.sign (style.placed .sum right (bare right))
  | .member item container negated =>
    infixed (style.placed .comparison item (bare item))
      (if negated then ['n', 'o', 't', ' ', 'i', 'n'] else ['i', 'n'])
      (style.placed .sum container (bare container))
  | .test target name args negated =>
    infixed (style.placed .comparison target (bare target)) ['i', 's']
      ((if negated then ['n', 'o', 't', ' '] else []) ++ name.toList ++ listed args (bareItems args))
  | .arith op left right =>
    infixed (style.placed op.level left (bare left)) op.sign
      (style.placed op.level.tighter right (bare right))
  | .neg operand => '-' :: style.placed .sign operand (bare operand)
  | .conditional value condition none =>
    infixed (style.placed .disjunction value (bare value)) ['i', 'f']
      (style.placed .disjunction condition (bare condition))
  | .conditional value condition (some otherwise) =>
    infixed
      (infixed (style.placed .disjunction value (bare value)) ['i', 'f']
        (style.placed .disjunction condition (bare condition)))
      ['e', 'l', 's', 'e'] (style.placed .conditional otherwise (bare otherwise))

/-- The texts of the elements of a list, with commas between them. -/
def bareItems : List Expr → Text
  | [] => []
  | [item] => style.placed .conditional item (bare item)
  | item :: items => style.placed .conditional item (bare item) ++ [',', ' '] ++ bareItems items

end

/-- The text of an expression where an operand of a level is expected. -/
def text (level : Level) (expr : Expr) : Text :=
  style.placed level expr (style.bare expr)

/-- The text of a whole expression. -/
def written (expr : Expr) : Text :=
  style.text .conditional expr

end Style

/-! ### The expressions that have a text -/

/-- The words that stand for literals. -/
def literalWords : List String :=
  ["true", "True", "false", "False", "null", "nil", "none", "None", "undefined"]

/-- The words that are operators. -/
def operatorWords : List String :=
  ["not", "and", "or", "if", "else", "in", "is"]

/-- **The expressions that have a text.** -/
inductive Writable : Expr → Prop where
  | null : Writable (.literal .null)
  | bool (b : Bool) : Writable (.literal (.bool b))
  | int {n : Int64} (natural : 0 ≤ n.toInt) : Writable (.literal (.int n))
  | string (s : String) : Writable (.literal (.string s))
  | array {items : List Expr} (writable : ∀ item ∈ items, Writable item) : Writable (.array items)
  | name {name : String} (identifier : IsName name.toList)
      (free : name ∉ literalWords ++ operatorWords) : Writable (.name name)
  | field {target : Expr} {name : String} (writable : Writable target) (filled : name.toList ≠ [])
      (continues : ∀ c ∈ name.toList, continuesName c = true) : Writable (.field target name)
  | index {target index : Expr} (writable : Writable target) (writable' : Writable index) :
      Writable (.index target index)
  | call {callee : Expr} {args : List Expr} (writable : Writable callee)
      (writable' : ∀ arg ∈ args, Writable arg) : Writable (.call callee args)
  | filter {target : Expr} {name : String} {args : List Expr} (writable : Writable target)
      (identifier : IsName name.toList) (writable' : ∀ arg ∈ args, Writable arg) :
      Writable (.filter target name args)
  | not {operand : Expr} (writable : Writable operand) : Writable (.not operand)
  | and {left right : Expr} (writable : Writable left) (writable' : Writable right) :
      Writable (.and left right)
  | or {left right : Expr} (writable : Writable left) (writable' : Writable right) :
      Writable (.or left right)
  | compare (op : CompareOp) {left right : Expr} (writable : Writable left)
      (writable' : Writable right) : Writable (.compare op left right)
  | member {item container : Expr} (negated : Bool) (writable : Writable item)
      (writable' : Writable container) : Writable (.member item container negated)
  | test {target : Expr} {name : String} {args : List Expr} (negated : Bool)
      (writable : Writable target) (known : name ∈ testNames)
      (writable' : ∀ arg ∈ args, Writable arg) : Writable (.test target name args negated)
  | arith (op : ArithOp) {left right : Expr} (writable : Writable left)
      (writable' : Writable right) : Writable (.arith op left right)
  | neg {operand : Expr} (writable : Writable operand) : Writable (.neg operand)
  | condition {value condition : Expr} (writable : Writable value)
      (writable' : Writable condition) : Writable (.conditional value condition none)
  | choice {value condition otherwise : Expr} (writable : Writable value)
      (writable' : Writable condition) (writable'' : Writable otherwise) :
      Writable (.conditional value condition (some otherwise))

end TextTemplate
