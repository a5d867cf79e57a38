/-
**Chains of operands.**

Outside of quotes and brackets a condition is a chain: operands that are joined by conjunctions alone,
or by disjunctions alone. A chain is an expression, and so is each part of it.

* `Chain`, `JoinedBy`: operands, with an operator of one level between any two of them;
* `JoinedBy.parses`: **a chain is the expression that joins its operands from the left**;
* `Connectives`: the operators of a text; `exists_connectives`: **without an inline `if` a text consists
  of operands and operators**, in one way only (`Connectives.unique`);
* `Chain.cut`: **a search for a word cuts a chain into two chains**, or finds nothing;
* `JoinedBy.split`: **the parts between the words are chains**, of as many operands in all.
-/

import TextTemplate.Proofs.Expressions.Depth
import TextTemplate.Proofs.Expressions.Fronts
import TextTemplate.Proofs.Expressions.Words

namespace TextTemplate

/-! ### Chains -/

/-- **Operands that are joined by operators of one level.** -/
inductive Chain (level : Level) : Cursor → List Expr → Cursor → Prop
  | single {depth here expr next} (operand : parseLevel depth .negation here = .ok (expr, next)) :
    Chain level here [expr] next
  | join {depth here expr between behind exprs next} {make : Expr → Expr → Expr}
    (operand : parseLevel depth .negation here = .ok (expr, between))
    (sign : operator? level between.skipBlank = some (make, behind))
    (more : Chain level behind exprs next) : Chain level here (expr :: exprs) next

/-- **A text is a chain of operands**, with nothing but blanks behind it. -/
def JoinedBy (level : Level) (text : Text) (exprs : List Expr) : Prop :=
  ∃ next, Chain level (Cursor.ofText text) exprs next ∧ next.skipBlank.rest = []

/-- A level whose operators join conditions. -/
def Level.IsLogical (level : Level) : Prop :=
  level = .conjunction ∨ level = .disjunction

/-- The word for the operator of a level that joins conditions. -/
def Level.word : Level → Text
  | .disjunction => ['o', 'r']
  | _ => ['a', 'n', 'd']

/-- The sign for the operator of a level that joins conditions. -/
def Level.symbol : Level → Text
  | .disjunction => ['|', '|']
  | _ => ['&', '&']

/-- The operator of a level that joins conditions. -/
def Level.join : Level → Expr → Expr → Expr
  | .disjunction => .or
  | _ => .and

/-- The operands of a chain, joined from the left. -/
def Level.joinAll (level : Level) : List Expr → Expr
  | [] => .literal .null
  | expr :: exprs => exprs.foldl level.join expr

namespace Level.IsLogical

variable {level : Level} (logical : level.IsLogical)

include logical

theorem isConnective : IsConnective level.word := by
  rcases logical with rfl | rfl
  · exact Or.inl rfl
  · exact Or.inr rfl

theorem trimStart_word (rest : Text) : Text.trimStart (level.word ++ rest) = level.word ++ rest := by
  rcases logical with rfl | rfl <;> rfl

theorem symbol_isSign : level.symbol.all isSign = true := by
  rcases logical with rfl | rfl <;> rfl

theorem isBinary : level.isBinary = true := by
  rcases logical with rfl | rfl <;> rfl

theorem ne_conditional : level ≠ .conditional := by
  rcases logical with rfl | rfl <;> decide

theorem ne_operand : level ≠ .operand := by
  rcases logical with rfl | rfl <;> decide

theorem names_join (left right : Expr) : (level.join left right).names = left.names ++ right.names := by
  rcases logical with rfl | rfl <;> rfl

/-- A chain has the names of its operands. -/
theorem names_joinAll (expr : Expr) (exprs : List Expr) :
    (level.joinAll (expr :: exprs)).names = (expr :: exprs).flatMap Expr.names := by
  show (exprs.foldl level.join expr).names = _
  induction exprs generalizing expr with
  | nil => exact (List.append_nil _).symm
  | cons next exprs ih =>
    rw [List.foldl_cons, ih, List.flatMap_cons, logical.names_join, List.append_assoc]
    rfl

end Level.IsLogical

section Operators

variable {level : Level} {here next : Cursor} {make : Expr → Expr → Expr}

/-- The operator of a level that joins conditions is its word or its sign. -/
theorem operator?_eq_some_iff (logical : level.IsLogical) :
    operator? level here = some (make, next) ↔ level.join = make ∧
      (here.keyword? level.word = some next ∨
        here.keyword? level.word = none ∧ here.take? level.symbol = some next) := by
  have either (lexer lexer' : Option Cursor) (join : Expr → Expr → Expr) :
      (lexer <|> lexer').map (join, ·) = some (make, next) ↔
        join = make ∧ (lexer = some next ∨ lexer = none ∧ lexer' = some next) := by
    cases lexer <;> cases lexer' <;> simp [and_comm]
  rcases logical with rfl | rfl
  · exact either _ _ _
  · exact either _ _ _

/-- Where a disjunction stands there is no conjunction. -/
theorem operator?_conjunction_eq_none (found : operator? level here = some (make, next))
    (isLevel : level = .disjunction) : operator? .conjunction here = none := by
  subst isLevel
  have begins : ∃ c rest, here.rest = c :: rest ∧ c ≠ 'a' ∧ c ≠ '&' := by
    rcases ((operator?_eq_some_iff (.inr rfl)).mp found).2 with word | ⟨-, sign⟩
    · exact ⟨_, _, Cursor.rest_of_take? (keyword?_eq_some_iff.mp word).1, by decide, by decide⟩
    · exact ⟨_, _, Cursor.rest_of_take? sign, by decide, by decide⟩
  obtain ⟨c, rest, begins, noWord, noSign⟩ := begins
  have noWord' : ('a' == c) = false := beq_false_of_ne noWord.symm
  have noSign' : ('&' == c) = false := beq_false_of_ne noSign.symm
  simp [operator?, Cursor.keyword?, Cursor.take?, Text.dropPrefix?, List.isPrefixOf?, begins, noWord',
    noSign']

/-- The operators of different levels begin differently. -/
theorem Level.IsLogical.eq_of_operator? {level' : Level} {next' : Cursor} {make' : Expr → Expr → Expr}
    (logical : level.IsLogical) (logical' : level'.IsLogical)
    (found : operator? level here = some (make, next))
    (found' : operator? level' here = some (make', next')) : level = level' := by
  have apart {make make' : Expr → Expr → Expr} {next next' : Cursor}
      (first : operator? .conjunction here = some (make, next))
      (second : operator? .disjunction here = some (make', next')) : False := by
    rw [operator?_conjunction_eq_none second rfl] at first
    cases first
  rcases logical with rfl | rfl <;> rcases logical' with rfl | rfl
  · rfl
  · exact (apart found found').elim
  · exact (apart found' found).elim
  · rfl

/-- At the end of a text there is no operator. -/
theorem stops_of_nil (ends : here.rest = []) : here.stops level = true := by
  cases here with
  | mk rest position =>
    cases ends
    cases level <;> rfl

/-- At the end of a text a left operand is all. -/
theorem derives_end (loose : level ≠ .conditional) {next' : Cursor}
    (same : next'.skipBlank = next.skipBlank) (ends : next.skipBlank.rest = []) (left : Expr) :
    Derives (.more level left left) next' next.skipBlank := by
  rw [← same] at ends ⊢
  exact .stop loose (stops_of_nil ends)

end Operators

/-! ### A chain is an expression -/

namespace Chain

variable {level : Level} {here next whole : Cursor} {exprs : List Expr} {tail : Text}

theorem derives_of_ok {depth : Nat} {kind : Level} {expr : Expr}
    (ok : parseLevel depth kind here = .ok (expr, next)) : Derives (.level kind expr) here next :=
  (parserDerives depth).level ok

theorem exists_ok_of_derives {kind : Level} {expr : Expr}
    (derives : Derives (.level kind expr) here next) :
    ∃ depth, parseLevel depth kind here = .ok (expr, next) :=
  ⟨_, (parseLevel_eq_ok_iff (Nat.le_refl _)).mpr derives⟩

theorem shorter (chain : Chain level here exprs next) : next.rest.length ≤ here.rest.length := by
  induction chain with
  | single operand => exact (derives_of_ok operand).shorter
  | join operand sign more ih =>
    exact ih.trans (((Lexes.operator? level).advances_of_skipBlank sign).le.trans
      (derives_of_ok operand).shorter)

/-- **A chain that does not reach into a tail is a chain without it.** -/
theorem front (chain : Chain level whole exprs next) {front : Cursor}
    (parts : whole.Parts front tail) (inside : tail.trimStart.length ≤ next.rest.length) :
    ∃ next', Chain level front exprs next' ∧ next.Parts next' tail := by
  induction chain generalizing front with
  | single operand =>
    obtain ⟨next', derives, parts⟩ := (derives_of_ok operand).front parts inside
    obtain ⟨depth, operand⟩ := exists_ok_of_derives derives
    exact ⟨next', .single operand, parts⟩
  | join operand sign more ih =>
    have inside' := inside.trans more.shorter
    have inside'' := inside'.trans ((Lexes.operator? level).advances_of_skipBlank sign).le
    obtain ⟨between, derives, parts⟩ := (derives_of_ok operand).front parts inside''
    obtain ⟨depth, operand⟩ := exists_ok_of_derives derives
    obtain ⟨⟨make', behind⟩, sign, marked, splits⟩ :=
      (Lexes.operator? level).found_front parts sign inside'
    obtain ⟨next', more, parts⟩ := ih splits.parts inside
    exact ⟨next', .join operand sign more, parts⟩

/-- An operand of a chain is an expression of the next tighter level. -/
theorem derives_tighter (logical : level.IsLogical) {expr : Expr}
    (derives : Derives (.level .negation expr) here next)
    (stops : level = .disjunction → operator? .conjunction next.skipBlank = none) :
    ∃ next', Derives (.level level.tighter expr) here next' ∧ next'.skipBlank = next.skipBlank := by
  rcases logical with rfl | rfl
  · exact ⟨next, derives, rfl⟩
  · have more : Derives (.more .conjunction expr expr) next next.skipBlank :=
      .stop (by decide) (Option.isNone_iff_eq_none.mpr (stops rfl))
    exact ⟨next.skipBlank, .binary rfl derives more, Cursor.skipBlank_skipBlank next⟩

/-- Behind an operator, a chain goes on with the left operand. -/
theorem derives_more (logical : level.IsLogical) (chain : Chain level here exprs next)
    (ends : next.skipBlank.rest = []) {left : Expr} {before : Cursor} {make : Expr → Expr → Expr}
    (sign : operator? level before.skipBlank = some (make, here)) :
    Derives (.more level left (exprs.foldl level.join left)) before next.skipBlank := by
  obtain ⟨rfl, -⟩ := (operator?_eq_some_iff logical).mp sign
  induction chain generalizing left before with
  | single operand =>
    obtain ⟨next', derives, same⟩ := derives_tighter logical (derives_of_ok operand) fun _ =>
      (Lexes.operator? .conjunction).none_of_nil ends
    exact .operator logical.ne_operand sign derives (derives_end logical.ne_conditional same ends _)
  | join operand sign' more ih =>
    obtain ⟨rfl, -⟩ := (operator?_eq_some_iff logical).mp sign'
    obtain ⟨between', derives, same⟩ :=
      derives_tighter logical (derives_of_ok operand) (operator?_conjunction_eq_none sign')
    rw [← same] at sign'
    exact .operator logical.ne_operand sign derives (ih ends sign')

/-- **A chain is the expression that joins its operands from the left.** -/
theorem derives (logical : level.IsLogical) (chain : Chain level here exprs next)
    (ends : next.skipBlank.rest = []) :
    Derives (.level level (level.joinAll exprs)) here next.skipBlank := by
  cases chain with
  | single operand =>
    obtain ⟨next', derives, same⟩ := derives_tighter logical (derives_of_ok operand) fun _ =>
      (Lexes.operator? .conjunction).none_of_nil ends
    exact .binary logical.isBinary derives (derives_end logical.ne_conditional same ends _)
  | join operand sign more =>
    obtain ⟨between', derives, same⟩ :=
      derives_tighter logical (derives_of_ok operand) (operator?_conjunction_eq_none sign)
    rw [← same] at sign
    exact .binary logical.isBinary derives (more.derives_more logical ends sign)

end Chain

namespace JoinedBy

variable {level : Level} {text : Text} {exprs : List Expr}

/-- **A chain is the expression that joins its operands from the left.** -/
theorem parses (logical : level.IsLogical) (joined : JoinedBy level text exprs) :
    parseExpr text = .ok (level.joinAll exprs) := by
  obtain ⟨next, chain, ends⟩ := joined
  have derives := chain.derives logical ends
  have ends' : next.skipBlank.skipBlank.rest = [] := by
    rw [Cursor.skipBlank_skipBlank]
    exact ends
  have disjunction : Derives (.level .disjunction (level.joinAll exprs)) (Cursor.ofText text)
      next.skipBlank := by
    rcases logical with rfl | rfl
    · exact .binary rfl derives (derives_end (by decide) (Cursor.skipBlank_skipBlank next) ends _)
    · exact derives
  refine parseExpr_eq_ok_iff.mpr ⟨_, .plain disjunction (Derives.ifWord.none_of_nil ends'), ?_⟩
  rw [Cursor.skipBlank_skipBlank]
  exact ends'

end JoinedBy

/-! ### The operators of a text -/

/-- **Operands, with the operators between them** that join conditions, outside of quotes and
brackets. -/
inductive Operands : List Level → Cursor → List Expr → Cursor → Prop
  | single {depth here expr next} (operand : parseLevel depth .negation here = .ok (expr, next)) :
    Operands [] here [expr] next
  | join {depth level here expr between behind levels exprs next} {make : Expr → Expr → Expr}
    (operand : parseLevel depth .negation here = .ok (expr, between)) (logical : level.IsLogical)
    (sign : operator? level between.skipBlank = some (make, behind))
    (more : Operands levels behind exprs next) : Operands (level :: levels) here (expr :: exprs) next

/-- **The operators that join conditions in a text**, outside of quotes and brackets; there is nothing
but blanks behind the last operand. -/
def Connectives (text : Text) (levels : List Level) : Prop :=
  ∃ exprs next, Operands levels (Cursor.ofText text) exprs next ∧ next.skipBlank.rest = []

namespace Operands

variable {level : Level} {levels levels' : List Level} {here between between' behind next : Cursor}
  {exprs exprs' : List Expr} {expr left : Expr}

/-- Operands with operators of one level between them are a chain. -/
theorem chain (operands : Operands levels here exprs next) (alike : ∀ other ∈ levels, other = level) :
    Chain level here exprs next := by
  induction operands with
  | single operand => exact .single operand
  | join operand logical sign more ih =>
    obtain rfl := alike _ (List.mem_cons_self ..)
    exact .join operand sign (ih fun other member => alike other (List.mem_cons_of_mem _ member))

theorem length_eq (operands : Operands levels here exprs next) : exprs.length = levels.length + 1 := by
  induction operands with
  | single operand => rfl
  | join operand logical sign more ih => exact congrArg (· + 1) ih

theorem isLogical (operands : Operands levels here exprs next) : ∀ level ∈ levels, level.IsLogical := by
  induction operands with
  | single operand => exact fun level member => absurd member List.not_mem_nil
  | join operand logical sign more ih => exact List.forall_mem_cons.mpr ⟨logical, ih⟩

/-- Further operands behind an operator. -/
theorem append (operands : Operands levels here exprs between) (logical : level.IsLogical)
    {make : Expr → Expr → Expr} (sign : operator? level between.skipBlank = some (make, behind))
    (more : Operands levels' behind exprs' next) :
    Operands (levels ++ level :: levels') here (exprs ++ exprs') next := by
  induction operands with
  | single operand => exact .join operand logical sign more
  | join operand logical' sign' _ ih => exact .join operand logical' sign' (ih sign)

/-- Operands from one cursor to another one, up to blanks behind them. -/
def Reads (here next : Cursor) : Prop :=
  ∃ levels exprs between, Operands levels here exprs between ∧ between.skipBlank = next.skipBlank

/-- What the operators of a level make of operands goes on with operands. -/
theorem reads_more (logical : level.IsLogical)
    (tighter : ∀ {expr here next}, Derives (.level level.tighter expr) here next → Reads here next)
    (first : Reads here between) (more : Derives (.more level left expr) between next) :
    Reads here next := by
  generalize phrase_eq : Phrase.more level left expr = phrase at more
  induction more generalizing left with
  | operator loose sign second _ _ ih =>
    cases phrase_eq
    obtain ⟨levels, exprs, between', operands, same⟩ := first
    obtain ⟨levels', exprs', behind', operands', same'⟩ := tighter second
    rw [← same] at sign
    exact ih ⟨_, _, _, operands.append logical sign operands', same'⟩ rfl
  | stop loose stops =>
    obtain ⟨levels, exprs, between', operands, same⟩ := first
    exact ⟨_, _, _, operands, same.trans (Cursor.skipBlank_skipBlank _).symm⟩
  | field | index | call | filter | tested | member =>
    cases phrase_eq
    rcases logical with isLevel | isLevel <;> cases isLevel
  | _ => cases phrase_eq

/-- **A phrase of a level that joins conditions consists of operands.** -/
theorem reads (logical : level.IsLogical) (derives : Derives (.level level expr) here next) :
    Reads here next := by
  have conjunction {expr here next} (derives : Derives (.level .conjunction expr) here next) :
      Reads here next := by
    cases derives with
    | binary isBinary first more =>
      have operand {expr here next} (derives : Derives (.level .negation expr) here next) :
          Reads here next := by
        obtain ⟨depth, ok⟩ := Chain.exists_ok_of_derives derives
        exact ⟨_, _, _, .single ok, rfl⟩
      exact reads_more (.inl rfl) operand (operand first) more
  rcases logical with rfl | rfl
  · exact conjunction derives
  · cases derives with
    | binary isBinary first more => exact reads_more (.inr rfl) conjunction (conjunction first) more

end Operands

/-- **A text with operators of one level is a chain**, of one operand more than there are operators. -/
theorem Connectives.joinedBy {text : Text} {levels : List Level} (outside : Connectives text levels)
    (alike : ∀ level ∈ levels, ∀ other ∈ levels, level = other) :
    ∃ level exprs, level.IsLogical ∧ JoinedBy level text exprs ∧ exprs.length = levels.length + 1 := by
  obtain ⟨exprs, next, operands, ends⟩ := outside
  obtain ⟨level, logical, same⟩ :
      ∃ level : Level, level.IsLogical ∧ ∀ other ∈ levels, other = level := by
    cases levels with
    | nil => exact ⟨.conjunction, .inl rfl, fun other member => absurd member List.not_mem_nil⟩
    | cons level levels =>
      have first : level ∈ level :: levels := List.mem_cons_self ..
      exact ⟨level, operands.isLogical level first, fun other member => alike other member level first⟩
  exact ⟨level, exprs, logical, ⟨next, operands.chain same, ends⟩, operands.length_eq⟩

namespace Operands

variable {levels levels' : List Level} {here next next' : Cursor} {exprs exprs' : List Expr}

/-- A text consists of operands and operators in one way only. -/
theorem unique (operands : Operands levels here exprs next) (ends : next.skipBlank.rest = [])
    (operands' : Operands levels' here exprs' next') (ends' : next'.skipBlank.rest = []) :
    levels = levels' := by
  have goesOn {between behind : Cursor} {level : Level} {make : Expr → Expr → Expr}
      (sign : operator? level between.skipBlank = some (make, behind))
      (ends : between.skipBlank.rest = []) : False := by
    rw [(Lexes.operator? level).none_of_nil ends] at sign
    cases sign
  induction operands generalizing levels' exprs' with
  | single operand =>
    cases operands' with
    | single operand' => rfl
    | join operand' logical' sign' more' =>
      cases parseLevel_unique operand operand'
      exact (goesOn sign' ends).elim
  | join operand logical sign more ih =>
    cases operands' with
    | single operand' =>
      cases parseLevel_unique operand operand'
      exact (goesOn sign ends').elim
    | join operand' logical' sign' more' =>
      cases parseLevel_unique operand operand'
      have same := logical.eq_of_operator? logical' sign sign'
      subst same
      cases sign.symm.trans sign'
      exact congrArg (_ :: ·) (ih ends more')

end Operands

/-- **An inline `if`** outside of quotes and brackets, which stands behind the value before it. -/
def InlineIf (text : Text) : Prop :=
  ∃ depth value next behind, parseLevel depth .disjunction (Cursor.ofText text) = .ok (value, next) ∧
    next.skipBlank.keyword? ['i', 'f'] = some behind

/-- **An expression without an inline `if` consists of operands and operators between them.** -/
theorem exists_connectives {text : Text} {expr : Expr} (accepted : parseExpr text = .ok expr)
    (plain : ¬ InlineIf text) : ∃ levels, Connectives text levels := by
  obtain ⟨next, derives, ends⟩ := parseExpr_eq_ok_iff.mp accepted
  cases derives with
  | plain first alone =>
    obtain ⟨levels, exprs, between, operands, same⟩ := Operands.reads (.inr rfl) first
    refine ⟨levels, exprs, between, operands, ?_⟩
    rw [same, ← Cursor.skipBlank_skipBlank]
    exact ends
  | guarded first guard second alone =>
    obtain ⟨depth, ok⟩ := Chain.exists_ok_of_derives first
    exact absurd ⟨depth, _, _, _, ok, guard⟩ plain
  | choice first guard second word third =>
    obtain ⟨depth, ok⟩ := Chain.exists_ok_of_derives first
    exact absurd ⟨depth, _, _, _, ok, guard⟩ plain
  | binary isBinary => cases isBinary

theorem Connectives.unique {text : Text} {levels levels' : List Level}
    (outside : Connectives text levels) (outside' : Connectives text levels') : levels = levels' := by
  obtain ⟨exprs, next, operands, ends⟩ := outside
  obtain ⟨exprs', next', operands', ends'⟩ := outside'
  exact operands.unique ends operands' ends'

/-! ### Parts of a chain -/

/-- A chain in front of a tail is a text of its own. -/
theorem Chain.joinedBy {level : Level} {here next : Cursor} {exprs : List Expr} {text tail : Text}
    (chain : Chain level here exprs next)
    (parts : here.Parts (Cursor.ofText text) tail) (same : next.rest.trimStart = tail.trimStart) :
    JoinedBy level text exprs := by
  have inside : tail.trimStart.length ≤ next.rest.length := by
    rw [← same]
    exact Text.length_trimStart_le next.rest
  obtain ⟨next', chain', parts'⟩ := chain.front parts inside
  exact ⟨next', chain', parts'.ends same⟩

/-- **A chain is cut between two of its operands** into a part of the text and the rest. -/
inductive CutAt (level : Level) (here : Cursor) : List Expr → Cursor → Text → Text → Prop
  | between {front more between behind next part tail} (first : Chain level here front between)
    (second : Chain level behind more next) (whole : here.rest = part ++ tail) (detached : Detached tail)
    (same : between.rest.trimStart = tail.trimStart) :
    CutAt level here (front ++ more) next part behind.rest.trimStart

/-- A cut behind the first operand. -/
theorem CutAt.cons {level : Level} {here between behind next : Cursor} {expr : Expr} {exprs : List Expr}
    {front part rest : Text} {depth : Nat} {make : Expr → Expr → Expr}
    (operand : parseLevel depth .negation here = .ok (expr, between))
    (sign : operator? level between.skipBlank = some (make, behind))
    (whole : here.rest = front ++ behind.rest) (cut : CutAt level behind exprs next part rest) :
    CutAt level here (expr :: exprs) next (front ++ part) rest := by
  cases cut with
  | between first second whole' detached same =>
    refine .between (.join operand sign first) second ?_ detached same
    rw [whole, whole', List.append_assoc]

section Search

variable {word : Text} {level : Level} {here next : Cursor} {exprs : List Expr}

/-- A search passes over an operator, if it does not stand at the blanks before it. -/
theorem exists_token_of_operator? {make : Expr → Expr → Expr} (connective : IsConnective word)
    (logical : level.IsLogical) (found : operator? level here = some (make, next)) :
    ∃ token, here.rest = token ++ next.rest ∧ Text.Skips (Text.wordSeparator word) 0 token ∧
      (Clear word here.rest ∨ token = word ∧ word = level.word ∧
        ∃ c rest, next.rest = c :: rest ∧ Text.isBlank c = true) := by
  rcases ((operator?_eq_some_iff logical).mp found).2 with isWord | ⟨-, isSymbol⟩
  · have whole := Cursor.rest_of_take? (keyword?_eq_some_iff.mp isWord).1
    refine ⟨level.word, whole, skips_of_all_continuesName logical.isConnective.continues, ?_⟩
    by_cases same : level.word = word
    · by_cases blank : ∃ c rest, next.rest = c :: rest ∧ Text.isBlank c = true
      · exact Or.inr ⟨same, same.symm, blank⟩
      · refine Or.inl fun c rest dropped => ?_
        rw [whole, logical.trimStart_word, same] at dropped
        have rest_eq := List.append_cancel_left (Text.dropPrefix?_eq_some_iff.mp dropped)
        exact eq_false_of_ne_true fun isBlank => blank ⟨c, rest, rest_eq, isBlank⟩
    · have filled := logical.isConnective.ne_nil
      exact Or.inl (clear_of_keyword? connective filled logical.isConnective.continues same isWord)
  · refine ⟨level.symbol, Cursor.rest_of_take? isSymbol,
      skips_of_all_isSign logical.symbol_isSign, Or.inl ?_⟩
    rw [Cursor.rest_of_take? isSymbol]
    rcases logical with rfl | rfl <;> exact clear_of_head connective rfl rfl

/-- A search finds a word between blanks. -/
theorem findFrom_word {gap before rest : Text} {c : Char} (logical : level.IsLogical)
    (filled : gap ≠ []) (blank : gap.all Text.isBlank = true) (blank' : Text.isBlank c = true) :
    Text.findFrom (Text.wordSeparator level.word) ⟨0, none⟩ before (gap ++ (level.word ++ c :: rest)) =
      some (before.reverse, Text.trimStart (c :: rest)) := by
  obtain ⟨d, gap', rfl⟩ := List.exists_cons_of_ne_nil filled
  obtain ⟨first, -⟩ := Bool.and_eq_true_iff.mp blank
  have visible : Text.trimStart (d :: gap' ++ (level.word ++ c :: rest)) = level.word ++ c :: rest := by
    rw [Text.trimStart_append_of_nil (trimStart_of_all_isBlank blank), logical.trimStart_word]
  have dropped : Text.dropPrefix? level.word (level.word ++ c :: rest) = some (c :: rest) :=
    Text.dropPrefix?_eq_some_iff.mpr rfl
  have found : Text.wordSeparator level.word before.head? (d :: (gap' ++ (level.word ++ c :: rest))) =
      some (Text.trimStart (c :: rest)) := by
    rw [List.cons_append] at visible
    simp only [Text.wordSeparator, first, if_true, visible, dropped]
    simp only [blank', if_true]
    rw [Text.trimStart, Text.trimStart, List.dropWhile_cons_of_pos blank']
  exact Text.findFrom_found (by simp [isNeutral_top (isNeutral_of_isBlank d first)]) found

/-- **A search for a word passes over an operand and the operator behind it**, or it finds the
operator, at the blanks in front of it. -/
theorem findFrom_operand (connective : IsConnective word) (logical : level.IsLogical) {expr : Expr}
    {between : Cursor} {make : Expr → Expr → Expr} {depth : Nat}
    (operand : parseLevel depth .negation here = .ok (expr, between))
    (sign : operator? level between.skipBlank = some (make, next))
    (other : String.ofList word ∉ expr.names) :
    (∃ front, here.rest = front ++ next.rest ∧ ∀ before,
        Text.findFrom (Text.wordSeparator word) ⟨0, none⟩ before here.rest =
          Text.findFrom (Text.wordSeparator word) ⟨0, none⟩ (front.reverse ++ before) next.rest) ∨
      (word = level.word ∧ ∃ front tail, here.rest = front ++ tail ∧ Detached tail ∧
        between.rest.trimStart = tail.trimStart ∧ ∀ before,
          Text.findFrom (Text.wordSeparator word) ⟨0, none⟩ before here.rest =
            some (before.reverse ++ front, next.rest.trimStart)) := by
  obtain ⟨core, gap, whole, blank, -, passed⟩ :=
    (Chain.derives_of_ok operand).crosses connective rfl other
  obtain ⟨token, token_eq, skips, separates⟩ := exists_token_of_operator? connective logical sign
  -- all the blanks between the operand and the operator
  obtain ⟨gap', blank', gap_eq⟩ : ∃ gap', gap'.all Text.isBlank = true ∧
      gap ++ between.rest = gap' ++ (token ++ next.rest) := by
    refine ⟨gap ++ between.rest.takeWhile Text.isBlank, ?_, ?_⟩
    · rw [List.all_append, blank, Bool.true_and]
      exact List.all_eq_true.mpr fun c member => List.mem_takeWhile_imp member
    · rw [List.append_assoc, ← token_eq]
      exact congrArg (gap ++ ·) List.takeWhile_append_dropWhile.symm
  rw [gap_eq] at passed
  by_cases separated : gap' ≠ [] ∧ token = word ∧ word = level.word ∧
      ∃ c rest, next.rest = c :: rest ∧ Text.isBlank c = true
  · obtain ⟨filled, rfl, rfl, c, rest, rest_eq, blank''⟩ := separated
    refine Or.inr ⟨rfl, core, gap ++ between.rest, whole, ?_, ?_, fun before => ?_⟩
    · rw [gap_eq]
      exact (detached_of_all_isBlank blank').append filled
    · exact (Text.trimStart_append_of_nil (trimStart_of_all_isBlank blank)).symm
    · rw [passed, rest_eq, findFrom_word logical filled blank' blank'', List.reverse_append,
        List.reverse_reverse]
  · refine Or.inl ⟨core ++ gap' ++ token, ?_, fun before => ?_⟩
    · rw [whole, gap_eq]
      simp
    · have blanks : Text.findFrom (Text.wordSeparator word) ⟨0, none⟩ (core.reverse ++ before)
            (gap' ++ (token ++ next.rest)) =
          Text.findFrom (Text.wordSeparator word) ⟨0, none⟩ (gap'.reverse ++ (core.reverse ++ before))
            (token ++ next.rest) := by
        by_cases empty : gap' = []
        · rw [empty]
          rfl
        · rcases separates with clear | stands
          · exact findFrom_blanks blank' (token_eq ▸ clear) _
          · exact absurd ⟨empty, stands⟩ separated
      rw [passed, blanks, skips 0 _ _ (Nat.le_refl 0)]
      simp

/-- A search for a word passes over the last operand. -/
theorem findFrom_last (connective : IsConnective word) {expr : Expr} {depth : Nat}
    (operand : parseLevel depth .negation here = .ok (expr, next)) (ends : next.skipBlank.rest = [])
    (other : String.ofList word ∉ expr.names) (before : Text) :
    Text.findFrom (Text.wordSeparator word) ⟨0, none⟩ before here.rest = none := by
  obtain ⟨core, gap, -, blank, -, passed⟩ := (Chain.derives_of_ok operand).crosses connective rfl other
  have blank' : (gap ++ next.rest).all Text.isBlank = true := by
    rw [List.all_append, blank, Bool.true_and]
    exact List.all_eq_true.mpr (List.dropWhile_eq_nil_iff.mp ends)
  have clear : Clear word [] := by
    intro c rest dropped
    cases word <;> cases dropped
  have none' := findFrom_blanks blank' clear (core.reverse ++ before)
  rw [List.append_nil] at none'
  rw [passed, none', Text.findFrom]

/-- **A search for a word cuts a chain between two operands**, at the word of its level, or finds
nothing. -/
theorem Chain.cut (connective : IsConnective word) (logical : level.IsLogical)
    (chain : Chain level here exprs next) (ends : next.skipBlank.rest = [])
    (others : ∀ expr ∈ exprs, String.ofList word ∉ expr.names) (before : Text) :
    Text.findFrom (Text.wordSeparator word) ⟨0, none⟩ before here.rest = none ∨
      ∃ part rest, CutAt level here exprs next part rest ∧ word = level.word ∧
        Text.findFrom (Text.wordSeparator word) ⟨0, none⟩ before here.rest =
          some (before.reverse ++ part, rest) := by
  induction chain generalizing before with
  | single operand =>
    exact Or.inl (findFrom_last connective operand ends (others _ (List.mem_singleton_self _)) before)
  | join operand sign more ih =>
    have other := others _ (List.mem_cons_self ..)
    rcases findFrom_operand connective logical operand sign other with
      ⟨front, whole, goesOn⟩ | ⟨isWord, front, tail, whole, detached, same, found⟩
    · have ih := ih ends fun other member => others other (List.mem_cons_of_mem _ member)
      rcases ih (front.reverse ++ before) with nothing | ⟨part, rest, cut, isWord, found⟩
      · exact Or.inl ((goesOn before).trans nothing)
      · refine Or.inr ⟨front ++ part, rest, cut.cons operand sign whole, isWord, ?_⟩
        rw [goesOn, found]
        simp
    · exact Or.inr ⟨front, _, .between (.single operand) more whole detached same, isWord, found before⟩

end Search

/-! ### The parts of a chain between words -/

/-- A cut leaves two chains. -/
theorem CutAt.joinedBy {level : Level} {text part rest : Text} {exprs : List Expr} {next : Cursor}
    (cut : CutAt level (Cursor.ofText text) exprs next part rest) (ends : next.skipBlank.rest = []) :
    ∃ front more, exprs = front ++ more ∧ JoinedBy level part front ∧ JoinedBy level rest more := by
  cases cut with
  | @between front more _ behind _ _ _ first second whole detached same =>
    refine ⟨front, more, rfl, first.joinedBy ⟨.of_rest whole, detached.unjoined _⟩ same, ?_⟩
    refine second.joinedBy ⟨?_, detached_nil.unjoined _⟩ ends
    show behind.rest.trimStart = Text.trimStart (behind.rest.trimStart ++ [])
    rw [List.append_nil, Text.trimStart_trimStart]

namespace JoinedBy

variable {word text : Text} {level : Level} {exprs : List Expr}

/-- **The parts of a chain between words are chains**, of as many operands in all; a word of another
level is not there. -/
theorem split (connective : IsConnective word) (logical : level.IsLogical)
    (joined : JoinedBy level text exprs) (others : ∀ expr ∈ exprs, String.ofList word ∉ expr.names)
    (steps : Nat) :
    ∃ groups, groups.flatten = exprs ∧
      List.Forall₂ (JoinedBy level) (Text.splitLoop (Text.wordSeparator word) steps text) groups ∧
      (word ≠ level.word → groups = [exprs]) := by
  have whole (text : Text) (exprs : List Expr) (joined : JoinedBy level text exprs) :
      ∃ groups, groups.flatten = exprs ∧ List.Forall₂ (JoinedBy level) [text] groups ∧
        (word ≠ level.word → groups = [exprs]) :=
    ⟨[exprs], List.append_nil exprs, .cons joined .nil, fun _ => rfl⟩
  induction steps generalizing text exprs with
  | zero => exact whole text exprs joined
  | succ steps ih =>
    obtain ⟨next, chain, ends⟩ := joined
    rw [Text.splitLoop, Text.findTopLevel]
    rcases chain.cut connective logical ends others [] with nothing | ⟨part, rest, cut, isWord, found⟩
    · rw [show Text.findFrom (Text.wordSeparator word) ⟨0, none⟩ [] text = none from nothing]
      exact whole text exprs ⟨next, chain, ends⟩
    · rw [show Text.findFrom (Text.wordSeparator word) ⟨0, none⟩ [] text = some (part, rest) from found]
      obtain ⟨front, more, rfl, first, second⟩ := cut.joinedBy ends
      obtain ⟨groups, rfl, parts, -⟩ := ih second fun expr member =>
        others expr (List.mem_append_right _ member)
      exact ⟨front :: groups, rfl, .cons first parts, fun other => absurd isWord other⟩

end JoinedBy

end TextTemplate
