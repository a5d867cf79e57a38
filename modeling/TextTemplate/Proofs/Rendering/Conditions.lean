/-
**Conditions and expressions.**

A condition is taken apart at words, and its parts are evaluated one after the other. The evaluator
reads the same words as operators. Where a condition is an expression with one kind of operator, the
two ways lead to the same answer.

* `verdict`: the truth of operands that are looked at from the left, up to the one that decides;
* `truth_joinAll`: **the truth of a chain is the verdict on its operands**;
* `answers_holds`: **a condition gives the verdict on its parts** when it is rendered;
* `answer_ofText`: **a condition is taken apart into parts with the same verdict**;
* `Rendering.holds_iff_evaluate`: **a condition holds, does not hold or fails as the expression does.**
-/

import TextTemplate.Proofs.Expressions.Chains
import TextTemplate.Proofs.Rendering.Outcome
import TextTemplate.Proofs.Tags.Parts
import TextTemplate.Rendering.Condition

namespace TextTemplate

/-! ### The truth of a chain -/

/-- A first answer, and a second one unless the first is decisive or an error. -/
def consult (decisive : Bool) (first second : Except EvalError Bool) : Except EvalError Bool := do
  if (← first) = decisive then .ok decisive else second

/-- **The verdict on operands**: they are looked at from the left, up to one that is decisive. -/
def verdict (decisive : Bool) (answers : List (Except EvalError Bool)) : Except EvalError Bool :=
  answers.foldr (consult decisive) (.ok !decisive)

section Verdicts

variable {decisive : Bool}

theorem consult_ok_not (answer : Except EvalError Bool) :
    consult decisive answer (.ok !decisive) = answer := by
  rcases answer with error | holds
  · rfl
  · cases holds <;> cases decisive <;> rfl

theorem ok_not_consult (answer : Except EvalError Bool) :
    consult decisive (.ok !decisive) answer = answer := by
  cases decisive <;> rfl

theorem consult_assoc (first second third : Except EvalError Bool) :
    consult decisive (consult decisive first second) third =
      consult decisive first (consult decisive second third) := by
  rcases first with error | holds
  · rfl
  · cases holds <;> cases decisive <;> rfl

theorem verdict_singleton (answer : Except EvalError Bool) : verdict decisive [answer] = answer :=
  consult_ok_not answer

theorem verdict_append (answers more : List (Except EvalError Bool)) :
    verdict decisive (answers ++ more) =
      consult decisive (verdict decisive answers) (verdict decisive more) := by
  induction answers with
  | nil => exact (ok_not_consult _).symm
  | cons answer answers ih =>
    exact (congrArg (consult decisive answer) ih).trans (consult_assoc ..).symm

/-- **The verdict on groups of operands** is the one on all the operands. -/
theorem verdict_flatten (groups : List (List (Except EvalError Bool))) :
    verdict decisive (groups.map (verdict decisive)) = verdict decisive groups.flatten := by
  induction groups with
  | nil => rfl
  | cons group groups ih =>
    rw [List.flatten_cons, verdict_append, ← ih]
    rfl

end Verdicts

/-- The truth value of an operand that decides about a chain of a level. -/
def Level.decisive : Level → Bool
  | .disjunction => true
  | _ => false

/-- Whether an expression is true in a scope, or what is wrong. -/
def truth (extensions : Extensions) (scope : Scope) (expr : Expr) : Except EvalError Bool :=
  Value.truthy <$> evalExpr extensions scope expr

section Truth

variable (extensions : Extensions) (scope : Scope) {level : Level}

theorem truth_not (operand : Expr) :
    truth extensions scope (.not operand) = (!·) <$> truth extensions scope operand := by
  rw [truth, truth, evalExpr]
  cases evalExpr extensions scope operand <;> rfl

/-- A conjunction or disjunction of two operands. -/
theorem truth_join (logical : level.IsLogical) (left right : Expr) :
    truth extensions scope (level.join left right) =
      consult level.decisive (truth extensions scope left) (truth extensions scope right) := by
  have joined : evalExpr extensions scope (level.join left right) =
      Value.bool <$> consult level.decisive (truth extensions scope left)
        (truth extensions scope right) := by
    rcases logical with rfl | rfl
    all_goals
      simp only [Level.join, evalExpr, truth]
      rcases evalExpr extensions scope left with error | value
      · rfl
      · cases holds : value.truthy <;> cases evalExpr extensions scope right <;>
          simp [consult, Level.decisive, holds, Functor.map, Except.map, bind, Except.bind]
  rw [truth, joined]
  cases consult level.decisive (truth extensions scope left) (truth extensions scope right) with
  | error error => rfl
  | ok holds => rfl

/-- **The truth of a chain is the verdict on its operands.** -/
theorem truth_joinAll (logical : level.IsLogical) (expr : Expr) (exprs : List Expr) :
    truth extensions scope (level.joinAll (expr :: exprs)) =
      verdict level.decisive ((expr :: exprs).map (truth extensions scope)) := by
  show truth extensions scope (exprs.foldl level.join expr) = _
  induction exprs generalizing expr with
  | nil => exact (verdict_singleton _).symm
  | cons next exprs ih =>
    rw [List.foldl_cons, ih, List.map_cons, truth_join extensions scope logical]
    exact consult_assoc ..

end Truth

/-! ### The answer of a condition -/

/-- Whether the value of a text is true in a scope, or what is wrong. -/
def Renderer.truthOf (renderer : Renderer) (scope : Scope) (expression : Text) :
    Except EvalError Bool :=
  Value.truthy <$> renderer.evaluator expression scope

section Truth

variable {renderer : Renderer} {scope : Scope} {expression : Text}

theorem truthOf_eq_ok_iff {holds : Bool} : renderer.truthOf scope expression = .ok holds ↔
    ∃ value, renderer.evaluator expression scope = .ok value ∧ value.truthy = holds := by
  rw [Renderer.truthOf]
  cases renderer.evaluator expression scope <;> simp

theorem truthOf_eq_error_iff {error : EvalError} : renderer.truthOf scope expression = .error error ↔
    renderer.evaluator expression scope = .error error := by
  rw [Renderer.truthOf]
  cases renderer.evaluator expression scope <;> simp

end Truth

/-- **The answer of a condition**: the verdict on its parts. -/
def Condition.answer (renderer : Renderer) (scope : Scope) : Condition → Except EvalError Bool
  | .negation part => (!·) <$> renderer.truthOf scope part
  | .conjunction parts => verdict false (parts.map (renderer.truthOf scope))
  | .disjunction parts => verdict true (parts.map (renderer.truthOf scope))
  | .single expression => renderer.truthOf scope expression

/-- The truth value of an expression of the language. -/
theorem truthOf_eq_truth {extensions : Extensions} {keywords : List String} {scope : Scope}
    {text : Text} {expr : Expr} (accepted : parseExpr text = .ok expr) :
    Renderer.truthOf ⟨evaluate extensions, keywords⟩ scope text = truth extensions scope expr := by
  have value : evaluate extensions text scope = evalExpr extensions scope expr := by
    rw [show evaluate extensions text scope = (do
      let expr ← (parseExpr text).mapError .malformed
      evalExpr extensions scope expr) from rfl, accepted]
    rfl
  exact congrArg (Value.truthy <$> ·) value

namespace Rendering

/-- **A rendering gives an answer** in a scope, which it does not change; an error is told with the
expression that it comes from. -/
def Answers (rendering : Rendering Bool) (scope : Scope) (answer : Except EvalError Bool) : Prop :=
  ∀ asked, ∃ asked' outcome, (ExceptT.run rendering).run ⟨scope, asked⟩ = (outcome, ⟨scope, asked'⟩) ∧
    match answer with
    | .ok holds => outcome = .ok holds
    | .error error => ∃ part, outcome = .error (.eval part error)

section Answers

variable {renderer : Renderer} {scope : Scope}

theorem answers_pure (holds : Bool) : Answers (pure holds) scope (.ok holds) :=
  fun asked => ⟨asked, .ok holds, rfl, rfl⟩

/-- An answer that the next step depends on. -/
theorem Answers.bind {first : Rendering Bool} {answer : Except EvalError Bool}
    {next : Bool → Rendering Bool} {more : Bool → Except EvalError Bool}
    (answers : Answers first scope answer) (goesOn : ∀ holds, Answers (next holds) scope (more holds)) :
    Answers (first >>= next) scope (answer >>= more) := by
  intro asked
  obtain ⟨between, outcome, run, outcome_eq⟩ := answers asked
  rw [run_bind, run]
  rcases answer with error | holds
  · obtain ⟨part, rfl⟩ := outcome_eq
    exact ⟨between, _, rfl, part, rfl⟩
  · cases outcome_eq
    exact goesOn holds between

/-- The truth value of an expression. -/
theorem answers_askTruth (expression : Text) :
    Answers (askTruth renderer expression) scope (renderer.truthOf scope expression) := by
  intro asked
  rw [askTruth, run_bind, run_ask, Renderer.truthOf]
  rcases renderer.evaluator expression scope with error | value
  · exact ⟨expression :: asked, _, rfl, expression, rfl⟩
  · exact ⟨expression :: asked, _, rfl, rfl⟩

theorem answers_allHold (parts : List Text) :
    Answers (allHold renderer parts) scope (verdict false (parts.map (renderer.truthOf scope))) := by
  induction parts with
  | nil => exact answers_pure true
  | cons part parts ih =>
    refine (answers_askTruth part).bind fun holds => ?_
    cases holds
    · exact answers_pure false
    · exact ih

theorem answers_anyHolds (parts : List Text) :
    Answers (anyHolds renderer parts) scope (verdict true (parts.map (renderer.truthOf scope))) := by
  induction parts with
  | nil => exact answers_pure false
  | cons part parts ih =>
    refine (answers_askTruth part).bind fun holds => ?_
    cases holds
    · exact ih
    · exact answers_pure true

/-- What an answer says about the outcome of a rendering. -/
theorem Answers.outcome {rendering : Rendering Bool} {answer : Except EvalError Bool}
    (answers : Answers rendering scope answer) :
    (∀ holds, (rendering.run scope).1 = .ok holds ↔ answer = .ok holds) ∧
      ∀ error, (∃ part, (rendering.run scope).1 = .error (.eval part error)) ↔
        answer = .error error := by
  obtain ⟨asked, outcome, run, outcome_eq⟩ := answers []
  have outcome' : (rendering.run scope).1 = outcome := congrArg Prod.fst run
  rw [outcome']
  rcases answer with error | holds
  · obtain ⟨part, rfl⟩ := outcome_eq
    simp
  · cases outcome_eq
    simp

/-- **A condition gives its answer** when it is rendered. -/
theorem answers_holds (renderer : Renderer) (scope : Scope) (condition : Condition) :
    Answers (holds renderer condition) scope (condition.answer renderer scope) := by
  cases condition with
  | negation part =>
    rw [Condition.answer, map_eq_pure_bind]
    exact (answers_askTruth part).bind fun holds => answers_pure !holds
  | conjunction parts => exact answers_allHold parts
  | disjunction parts => exact answers_anyHolds parts
  | single expression => exact answers_askTruth expression

end Answers

end Rendering

/-! ### The parts of a condition -/

section Parts

variable {level : Level} {text : Text} {exprs : List Expr}

/-- Blanks around a chain do not matter. -/
theorem JoinedBy.trim (joined : JoinedBy level text exprs) : JoinedBy level text.trim exprs := by
  obtain ⟨next, chain, ends⟩ := joined
  obtain ⟨tail, whole, blank⟩ := Text.exists_dropRightWhile Text.isBlank text.trimStart
  have blank := List.all_eq_true.mpr blank
  have stands : (Cursor.ofText text).At (text.trim ++ tail) := by
    show text.trimStart = Text.trimStart (text.trim ++ tail)
    exact (Text.trimStart_trimStart text).symm.trans (congrArg Text.trimStart whole)
  exact chain.joinedBy ⟨stands, (detached_of_all_isBlank blank).unjoined text.trim⟩
    (Eq.trans ends (trimStart_of_all_isBlank blank).symm)

/-- A leading `not` in front of a blank negates all of a single operand. -/
theorem JoinedBy.of_negated? {expr : Expr} {rest : Text} (joined : JoinedBy level text [expr])
    (negated : negated? text = some rest) :
    ∃ operand, expr = .not operand ∧ JoinedBy level rest.trim [operand] := by
  obtain ⟨next, chain, ends⟩ := joined
  obtain ⟨c, rest', whole, blank, rfl⟩ : ∃ c rest', text = ['n', 'o', 't'] ++ c :: rest' ∧
      Text.isBlank c = true ∧ rest = c :: rest' := by
    unfold TextTemplate.negated? at negated
    split at negated
    · rename_i c rest' dropped
      obtain ⟨blank, same⟩ := Option.ite_none_right_eq_some.mp negated
      cases same
      exact ⟨c, rest', Text.dropPrefix?_eq_some_iff.mp dropped, blank, rfl⟩
    · cases negated
    · cases negated
  subst whole
  cases chain with
  | join operand sign more => cases more
  | single operand =>
    have word : (Cursor.ofText (['n', 'o', 't'] ++ c :: rest')).skipBlank.keyword? ['n', 'o', 't'] =
        some ((Cursor.ofText (['n', 'o', 't'] ++ c :: rest')).skipBlank.behind ['n', 'o', 't']
          (c :: rest')) := by
      refine Cursor.keyword?_of_rest rfl fun d first => ?_
      cases first
      exact continuesName_of_isBlank blank
    cases Chain.derives_of_ok operand with
    | positive noSign inner =>
      rw [word] at noSign
      cases noSign
    | binary isBinary first more => cases isBinary
    | not sign inner =>
      rw [word] at sign
      cases sign
      obtain ⟨depth, ok⟩ := Chain.exists_ok_of_derives inner
      refine ⟨_, rfl, JoinedBy.trim ?_⟩
      have single : Chain level _ _ next := .single ok
      have whole : c :: rest' = c :: rest' ++ [] := (List.append_nil _).symm
      exact single.joinedBy ⟨.of_rest whole, detached_nil.unjoined _⟩ ends

end Parts

/-! ### Conditions and expressions -/

section Agreement

variable (extensions : Extensions) (keywords : List String) (scope : Scope)
  {level : Level} {text : Text} {exprs : List Expr}

/-- **The truth of a text that is a chain is the verdict on its operands.** -/
theorem truthOf_joined (logical : level.IsLogical) (joined : JoinedBy level text exprs) :
    Renderer.truthOf ⟨evaluate extensions, keywords⟩ scope text =
      verdict level.decisive (exprs.map (truth extensions scope)) := by
  have accepted := joined.parses logical
  obtain ⟨next, chain, ends⟩ := joined
  cases chain <;> exact (truthOf_eq_truth accepted).trans (truth_joinAll extensions scope logical _ _)

/-- The verdict on the parts of a chain is the one on its operands. -/
theorem verdict_parts (logical : level.IsLogical) {parts : List Text} {groups : List (List Expr)}
    (joined : List.Forall₂ (JoinedBy level) parts groups) :
    verdict level.decisive
        ((parts.map Text.trim).map (Renderer.truthOf ⟨evaluate extensions, keywords⟩ scope)) =
      verdict level.decisive (groups.flatten.map (truth extensions scope)) := by
  have answers : (parts.map Text.trim).map (Renderer.truthOf ⟨evaluate extensions, keywords⟩ scope) =
      (groups.map (List.map (truth extensions scope))).map (verdict level.decisive) := by
    induction joined with
    | nil => rfl
    | cons first rest ih =>
      rw [List.map_cons, List.map_cons, List.map_cons, List.map_cons, ih,
        truthOf_joined extensions keywords scope logical first.trim]
  rw [answers, verdict_flatten, List.map_flatten]

/-- A chain that is divided at the word of a level is one of this level, so that the verdict on its
parts is the one on its operands. -/
theorem verdict_split {level' : Level} (logical : level.IsLogical) (logical' : level'.IsLogical)
    (joined : JoinedBy level text exprs)
    (others : ∀ expr ∈ exprs, String.ofList level'.word ∉ expr.names) {first second : Text}
    {more : List Text}
    (split : text.splitTopLevel (Text.wordSeparator level'.word) = first :: second :: more) :
    verdict level'.decisive (((first :: second :: more).map Text.trim).map
        (Renderer.truthOf ⟨evaluate extensions, keywords⟩ scope)) =
      verdict level.decisive (exprs.map (truth extensions scope)) := by
  obtain ⟨groups, rfl, parts, whole⟩ := joined.split logical'.isConnective logical others text.length
  rw [← Text.splitTopLevel, split] at parts
  have sameWord : level'.word = level.word := by
    by_contra other
    rw [whole other] at parts
    cases parts with
    | cons _ rest => cases rest
  have same : level' = level := by
    rcases logical with rfl | rfl <;> rcases logical' with rfl | rfl <;>
      first | rfl | exact absurd sameWord (by decide)
  rw [same]
  exact verdict_parts extensions keywords scope logical parts

/-- **A condition that is a chain is taken apart into parts with the same verdict.** -/
theorem answer_ofText (logical : level.IsLogical) (joined : JoinedBy level text exprs)
    (others : ∀ expr ∈ exprs, "and" ∉ expr.names ∧ "or" ∉ expr.names)
    (alone : (negated? text.trim).isSome → exprs.length = 1) :
    (Condition.ofText text).answer ⟨evaluate extensions, keywords⟩ scope =
      Renderer.truthOf ⟨evaluate extensions, keywords⟩ scope text := by
  have trimmed := joined.trim
  rw [truthOf_joined extensions keywords scope logical joined, Condition.ofText]
  rcases negated : negated? text.trim with _ | rest
  · simp only
    split
    · rename_i first second more split
      exact verdict_split extensions keywords scope logical (.inl rfl) trimmed
        (fun expr member => (others expr member).1) split
    · split
      · rename_i first second more split
        exact verdict_split extensions keywords scope logical (.inr rfl) trimmed
          (fun expr member => (others expr member).2) split
      · exact truthOf_joined extensions keywords scope logical trimmed
  · rw [negated] at alone
    obtain ⟨expr, rfl⟩ := List.length_eq_one_iff.mp (alone rfl)
    obtain ⟨operand, rfl, joined'⟩ := trimmed.of_negated? negated
    rw [List.map_singleton, verdict_singleton, truth_not]
    show (!·) <$> Renderer.truthOf _ scope rest.trim = _
    rw [truthOf_joined extensions keywords scope logical joined', List.map_singleton, verdict_singleton]

end Agreement

/-- **A condition and an expression say the same.** Let a text be an expression with no inline `if`,
with conjunctions only or disjunctions only, and with no operator at all behind a leading `not`, and
let no variable or filter be called `and` or `or`. In every scope the condition holds, does not hold or
fails just as the expression does. -/
theorem Rendering.holds_iff_evaluate {text : Text} {expr : Expr}
    (accepted : parseExpr text = .ok expr) (named : "and" ∉ expr.names ∧ "or" ∉ expr.names)
    (plain : ¬ InlineIf text)
    (alike : ∀ levels, Connectives text levels → ∀ level ∈ levels, ∀ other ∈ levels, level = other)
    (alone : (negated? text.trim).isSome → Connectives text [])
    (extensions : Extensions) (keywords : List String) (scope : Scope) :
    (∀ truth,
      ((holds ⟨evaluate extensions, keywords⟩ (Condition.ofText text)).run scope).1 = .ok truth ↔
        ∃ value, evaluate extensions text scope = .ok value ∧ value.truthy = truth) ∧
    (∀ error,
      (∃ part, ((holds ⟨evaluate extensions, keywords⟩ (Condition.ofText text)).run scope).1 =
        .error (.eval part error)) ↔
        evaluate extensions text scope = .error error) := by
  obtain ⟨levels, outside⟩ := exists_connectives accepted plain
  obtain ⟨level, exprs, logical, joined, length_eq⟩ := outside.joinedBy (alike levels outside)
  have single (negated : (negated? text.trim).isSome) : exprs.length = 1 := by
    rw [length_eq, outside.unique (alone negated)]
    rfl
  obtain rfl : expr = level.joinAll exprs := Except.ok.inj (accepted.symm.trans (joined.parses logical))
  have others : ∀ expr ∈ exprs, "and" ∉ expr.names ∧ "or" ∉ expr.names := by
    intro expr member
    obtain ⟨first, exprs, rfl⟩ := List.exists_cons_of_ne_nil (List.ne_nil_of_mem member)
    rw [logical.names_joinAll] at named
    exact ⟨fun inside => named.1 (List.mem_flatMap_of_mem member inside),
      fun inside => named.2 (List.mem_flatMap_of_mem member inside)⟩
  obtain ⟨holds, fails⟩ :=
    (answers_holds ⟨evaluate extensions, keywords⟩ scope (Condition.ofText text)).outcome
  rw [answer_ofText extensions keywords scope logical joined others single] at holds fails
  exact ⟨fun truth => (holds truth).trans truthOf_eq_ok_iff,
    fun error => (fails error).trans truthOf_eq_error_iff⟩

/-- A condition with two conjunctions, of which one is a sign, and with other words inside of brackets
and quotes. -/
def mixedCondition : Text :=
  "a and (b or \"x or y\") && c".toList

/-- What is seen of a result shows that there is one. -/
theorem exists_ok_of_seen {ε α β : Type} {result : Except ε α} (see : α → β) {seen : β}
    (shows : result.toOption.map see = some seen) : ∃ value, result = .ok value ∧ see value = seen := by
  rcases result with error | value
  · cases shows
  · exact ⟨value, rfl, Option.some.inj shows⟩

theorem connectives_mixedCondition : Connectives mixedCondition [.conjunction, .conjunction] := by
  have operand (here : Cursor) (rest : Text) (position : Position)
      (reads : (parseLevel 40 .negation here).toOption.map
        (fun found => (found.2.rest, found.2.position)) = some (rest, position)) :
      ∃ expr, parseLevel 40 .negation here = .ok (expr, ⟨rest, position⟩) := by
    obtain ⟨⟨expr, next⟩, ok, same⟩ := exists_ok_of_seen _ reads
    cases same
    exact ⟨expr, ok⟩
  obtain ⟨first, ok⟩ := operand (.ofText mixedCondition) (mixedCondition.drop 2) ⟨2, 0, 2⟩
    (by decide +kernel)
  obtain ⟨second, ok'⟩ := operand ⟨mixedCondition.drop 5, ⟨5, 0, 5⟩⟩ (mixedCondition.drop 22)
    ⟨22, 0, 22⟩ (by decide +kernel)
  obtain ⟨third, ok''⟩ := operand ⟨mixedCondition.drop 24, ⟨24, 0, 24⟩⟩ [] ⟨26, 0, 26⟩
    (by decide +kernel)
  have sign : operator? .conjunction (Cursor.mk (mixedCondition.drop 2) ⟨2, 0, 2⟩).skipBlank =
      some (.and, ⟨mixedCondition.drop 5, ⟨5, 0, 5⟩⟩) := by rfl
  have sign' : operator? .conjunction (Cursor.mk (mixedCondition.drop 22) ⟨22, 0, 22⟩).skipBlank =
      some (.and, ⟨mixedCondition.drop 24, ⟨24, 0, 24⟩⟩) := by rfl
  exact ⟨_, _, .join ok (.inl rfl) sign (.join ok' (.inl rfl) sign' (.single ok'')), by rfl⟩

theorem not_inlineIf_mixedCondition : ¬ InlineIf mixedCondition := by
  rintro ⟨depth, value, next, behind, ok, guard⟩
  obtain ⟨found, ok', ends⟩ : ∃ found, parseLevel 40 .disjunction (.ofText mixedCondition) = .ok found ∧
      found.2.skipBlank.rest = [] := exists_ok_of_seen _ (by decide +kernel)
  cases parseLevel_unique ok ok'
  rw [Derives.ifWord.none_of_nil ends] at guard
  cases guard

/-- The condition is divided at its word only, and it does not hold as the last name is not bound. -/
theorem Rendering.holds_mixedCondition :
    ¬ InlineIf mixedCondition ∧ Connectives mixedCondition [.conjunction, .conjunction] ∧
      Condition.ofText mixedCondition =
        .conjunction ["a".toList, "(b or \"x or y\") && c".toList] ∧
      ((holds ⟨evaluate .none, []⟩ (Condition.ofText mixedCondition)).run ⟨[("a", .bool true)]⟩).1 =
        .ok false := by
  obtain ⟨expr, accepted, names⟩ : ∃ expr, parseExpr mixedCondition = .ok expr ∧
      expr.names = ["a", "b", "c"] := exists_ok_of_seen _ (by decide +kernel)
  have named : "and" ∉ expr.names ∧ "or" ∉ expr.names := by
    rw [names]
    decide
  have evaluates : ∃ value, evaluate .none mixedCondition ⟨[("a", .bool true)]⟩ = .ok value ∧
      value.truthy = false := exists_ok_of_seen _ (by decide +kernel)
  have alike : ∀ levels, Connectives mixedCondition levels →
      ∀ level ∈ levels, ∀ other ∈ levels, level = other := by
    intro levels outside
    rw [outside.unique connectives_mixedCondition]
    decide
  have noNot : ¬ (negated? mixedCondition.trim).isSome := by decide +kernel
  have agrees := holds_iff_evaluate accepted named not_inlineIf_mixedCondition alike
    (fun negated => absurd negated noNot) .none [] ⟨[("a", .bool true)]⟩
  exact ⟨not_inlineIf_mixedCondition, connectives_mixedCondition, by decide +kernel,
    (agrees.1 false).mpr evaluates⟩

end TextTemplate
