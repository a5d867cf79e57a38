/-
**Rules of reading.**

What the parser reads depends on the text before the cursor only, not on the position, and not on the
depth if that is enough: twelve calls for each character, and some by the level.

* `Parses`: a function of the parser reads a value from a text up to a rest;
* one rule for each way that a function of the parser can go, from the rules of the functions that it
  calls;
* `Stops`: no operator of a level begins at a text;
* `parseExpr_eq_ok_of_reads`: **an expression that is read up to the end of a text is its parse**.
-/

import TextTemplate.Proofs.Expressions.Calls
import TextTemplate.Proofs.Expressions.Printer

namespace TextTemplate

/-! ### Reading -/

/-- **A function of the parser reads a value from a text up to a rest**, at every cursor before the
text and within every depth that is enough. -/
structure Parses {α : Type} (parse : Nat → Cursor → Except SyntaxError (α × Cursor)) (rank : Nat)
    (text : Text) (value : α) (rest : Text) : Prop where
  shorter : rest.length ≤ text.length
  reads : ∀ depth {here}, 12 * text.length + rank ≤ depth → here.At text →
    ∃ next, parse depth here = .ok (value, next) ∧ next.At rest

/-- It is enough to look at what a function does with one call less for the others. -/
theorem Parses.of_succ {α : Type} {parse : Nat → Cursor → Except SyntaxError (α × Cursor)}
    {rank : Nat} {text rest : Text} {value : α} (shorter : rest.length ≤ text.length)
    (reads : ∀ depth here, 12 * text.length + rank ≤ depth → here.At text →
      ∃ next, parse (depth + 1) here = .ok (value, next) ∧ next.At rest) :
    Parses parse (rank + 1) text value rest where
  shorter := shorter
  reads depth here enough stands := by
    cases depth with
    | zero => omega
    | succ depth => exact reads depth here (by omega) stands

/-- A blank before a text does not matter. -/
theorem Parses.blank {α : Type} {parse : Nat → Cursor → Except SyntaxError (α × Cursor)} {rank : Nat}
    {text rest : Text} {value : α} (reads : Parses parse rank text value rest) :
    Parses parse rank (' ' :: text) value rest where
  shorter := reads.shorter.trans (Nat.le_succ _)
  reads depth here enough stands := by
    rw [List.length_cons] at enough
    exact reads.reads depth (by omega) (Cursor.At.of_blank stands)

/-- Reading an expression of a level. -/
abbrev ParsesLevel (level : Level) : Text → Expr → Text → Prop :=
  Parses (fun depth here => parseLevel depth level here) (level.looseness + 2)

/-- Reading what follows a left operand of a level. -/
abbrev ParsesMore (level : Level) (left : Expr) : Text → Expr → Text → Prop :=
  Parses (fun depth here => parseMore depth level left here) 1

/-- Reading what follows `is`. -/
abbrev ParsesTest (target : Expr) : Text → Expr → Text → Prop :=
  Parses (fun depth here => parseTest depth target here) 6

/-- Reading arguments in parentheses, if there are any. -/
abbrev ParsesArgs : Text → List Expr → Text → Prop :=
  Parses parseArgs 1

/-- Reading a list up to a closing sign. -/
abbrev ParsesList (close : Char) : Text → List Expr → Text → Prop :=
  Parses (fun depth here => parseList depth close here) 11

/-- Reading an operand behind blank characters. -/
abbrev ParsesOperand : Text → Expr → Text → Prop :=
  Parses (fun depth here => parseOperand depth here.skipBlank) 1

/-! ### Where reading stops -/

/-- **No operator of a level begins at a text.** -/
def Stops (level : Level) (text : Text) : Prop :=
  ∀ here : Cursor, here.rest = text.trimStart → here.stops level = true

theorem Stops.skipBlank {level : Level} {text : Text} {here : Cursor} (stops : Stops level text)
    (stands : here.At text) : here.skipBlank.stops level = true :=
  stops here.skipBlank stands.rest_skipBlank

namespace ParsesMore

variable {level : Level} {left right expr : Expr} {text between between' rest : Text}

/-- Where no operator begins, the left operand is all. -/
theorem stop (tight : level ≠ .conditional) (stops : Stops level text) :
    ParsesMore level left text left text :=
  Parses.of_succ (Nat.le_refl _) fun _ here _ stands =>
    ⟨here.skipBlank, Phrase.ReadWithin.stop tight (stops.skipBlank stands), stands.skipBlank⟩

/-- An operator and its right operand. -/
theorem operator {make : Expr → Expr → Expr} (binary : level ≠ .operand)
    (shorter : between.length < text.length)
    (found : ∀ here : Cursor, here.rest = text.trimStart →
      ∃ next, operator? level here = some (make, next) ∧ next.At between)
    (first : ParsesLevel level.tighter between right between')
    (more : ParsesMore level (make left right) between' expr rest) :
    ParsesMore level left text expr rest := by
  have shorter' := first.shorter
  have shorter'' := more.shorter
  refine Parses.of_succ (by omega) fun depth here enough stands => ?_
  obtain ⟨next, sign, stands⟩ := found here.skipBlank stands.rest_skipBlank
  have loose : level.tighter.looseness ≤ 7 := by cases level <;> decide
  obtain ⟨next', operand, stands⟩ := first.reads depth (by omega) stands
  obtain ⟨last, ok, stands⟩ := more.reads depth (by omega) stands
  exact ⟨last, Phrase.ReadWithin.operator binary sign operand ok, stands⟩

end ParsesMore

/-! ### Levels -/

namespace ParsesLevel

variable {level : Level} {expr left : Expr} {text between rest : Text}

/-- A level of binary operators. -/
theorem binary (binary : level.isBinary = true) (first : ParsesLevel level.tighter text left between)
    (more : ParsesMore level left between expr rest) : ParsesLevel level text expr rest := by
  have tight : level.tighter.looseness < level.looseness := by
    cases level <;> first | decide | contradiction
  have shorter := first.shorter
  refine Parses.of_succ (more.shorter.trans shorter) fun depth here enough stands => ?_
  obtain ⟨next, operand, stands⟩ := first.reads depth (by omega) stands
  obtain ⟨last, ok, stands⟩ := more.reads depth (by omega) stands
  exact ⟨last, Phrase.ReadWithin.binary binary operand ok, stands⟩

/-- An operand and what follows it. -/
theorem operand (first : ParsesOperand text left between)
    (more : ParsesMore .operand left between expr rest) : ParsesLevel .operand text expr rest := by
  have shorter := first.shorter
  refine Parses.of_succ (more.shorter.trans shorter) fun depth here enough stands => ?_
  obtain ⟨next, operand, stands⟩ := first.reads depth (by omega) stands
  obtain ⟨last, ok, stands⟩ := more.reads depth (by omega) stands
  exact ⟨last, Phrase.ReadWithin.operand operand ok, stands⟩

/-- A number without a sign. -/
theorem sign_of_operand (unsigned : ∀ here : Cursor, here.rest = text.trimStart →
      here.take? ['-'] = none ∧ here.take? ['+'] = none)
    (reads : ParsesLevel .operand text expr rest) : ParsesLevel .sign text expr rest := by
  refine Parses.of_succ reads.shorter fun depth here enough stands => ?_
  obtain ⟨next, ok, stands'⟩ := reads.reads depth enough stands.skipBlank
  obtain ⟨minus, plus⟩ := unsigned here.skipBlank stands.rest_skipBlank
  exact ⟨next, Phrase.ReadWithin.unsigned minus plus ok, stands'⟩

theorem neg (reads : ParsesLevel .sign text expr rest) :
    ParsesLevel .sign ('-' :: text) (.neg expr) rest := by
  have shorter := reads.shorter
  refine Parses.of_succ (by rw [List.length_cons]; omega) fun depth here enough stands => ?_
  have begins : here.skipBlank.rest = ['-'] ++ text := stands.rest_skipBlank
  rw [List.length_cons] at enough
  obtain ⟨next, ok, stands⟩ := reads.reads depth
    (by simp only [Level.looseness] at enough ⊢; omega)
    (here.skipBlank.at_behind ['-'] text)
  exact ⟨next, Phrase.ReadWithin.minus (Cursor.take?_of_rest begins) ok, stands⟩

/-- An operand that is not negated. -/
theorem negation_of_comparison (positive : ∀ here : Cursor, here.rest = text.trimStart →
      here.keyword? ['n', 'o', 't'] = none ∧ here.symbol? ['!'] '=' = none)
    (reads : ParsesLevel .comparison text expr rest) : ParsesLevel .negation text expr rest := by
  refine Parses.of_succ reads.shorter fun depth here enough stands => ?_
  obtain ⟨next, ok, stands'⟩ := reads.reads depth enough stands.skipBlank
  obtain ⟨word, sign⟩ := positive here.skipBlank stands.rest_skipBlank
  exact ⟨next, Phrase.ReadWithin.positive (by rw [word, sign]; rfl) ok, stands'⟩

theorem not (shorter : between.length < text.length)
    (found : ∀ here : Cursor, here.rest = text.trimStart →
      ∃ next, (here.keyword? ['n', 'o', 't'] <|> here.symbol? ['!'] '=') = some next ∧
        next.At between)
    (reads : ParsesLevel .negation between expr rest) :
    ParsesLevel .negation text (.not expr) rest := by
  refine Parses.of_succ (reads.shorter.trans shorter.le) fun depth here enough stands => ?_
  obtain ⟨next, sign, stands⟩ := found here.skipBlank stands.rest_skipBlank
  obtain ⟨last, ok, stands⟩ := reads.reads depth
    (by simp only [Level.looseness] at enough ⊢; omega) stands
  exact ⟨last, Phrase.ReadWithin.not sign ok, stands⟩

/-- A value without a condition. -/
theorem conditional_of_disjunction (stops : Stops .conditional rest)
    (reads : ParsesLevel .disjunction text expr rest) : ParsesLevel .conditional text expr rest := by
  refine Parses.of_succ reads.shorter fun depth here enough stands => ?_
  obtain ⟨next, ok, stands⟩ := reads.reads depth enough stands
  have stopped := stops.skipBlank stands
  simp only [Cursor.stops, Bool.and_eq_true, Option.isNone_iff_eq_none] at stopped
  exact ⟨next.skipBlank, Phrase.ReadWithin.plain ok stopped.1, stands.skipBlank⟩

section Conditional

variable {value condition otherwise : Expr} {between' : Text}

/-- A value and its condition. -/
theorem conditional_none
    (first : ParsesLevel .disjunction text value (' ' :: 'i' :: 'f' :: ' ' :: between))
    (stops : Stops .conditional rest) (second : ParsesLevel .disjunction between condition rest) :
    ParsesLevel .conditional text (.conditional value condition none) rest := by
  have shorter := first.shorter
  have shorter' := second.shorter
  simp only [List.length_cons] at shorter
  refine Parses.of_succ (by omega) fun depth here enough stands => ?_
  simp only [Level.looseness] at enough
  obtain ⟨next, ok, stands⟩ := first.reads depth enough stands
  obtain ⟨next', word, stands⟩ := stands.keyword ['i', 'f'] rfl
  obtain ⟨last, ok', stands⟩ :=
    second.reads depth (by simp only [Level.looseness]; omega) stands
  have stopped := stops.skipBlank stands
  simp only [Cursor.stops, Bool.and_eq_true, Option.isNone_iff_eq_none] at stopped
  exact ⟨last.skipBlank, Phrase.ReadWithin.guarded ok word ok' stopped.2, stands.skipBlank⟩

/-- A choice between two values. -/
theorem conditional_some
    (first : ParsesLevel .disjunction text value (' ' :: 'i' :: 'f' :: ' ' :: between))
    (second : ParsesLevel .disjunction between condition
      (' ' :: 'e' :: 'l' :: 's' :: 'e' :: ' ' :: between'))
    (third : ParsesLevel .conditional between' otherwise rest) :
    ParsesLevel .conditional text (.conditional value condition (some otherwise)) rest := by
  have shorter := first.shorter
  have shorter' := second.shorter
  have shorter'' := third.shorter
  simp only [List.length_cons] at shorter shorter'
  refine Parses.of_succ (by omega) fun depth here enough stands => ?_
  simp only [Level.looseness] at enough
  obtain ⟨next, ok, stands⟩ := first.reads depth enough stands
  obtain ⟨next', word, stands⟩ := stands.keyword ['i', 'f'] rfl
  obtain ⟨next, ok', stands⟩ :=
    second.reads depth (by simp only [Level.looseness]; omega) stands
  obtain ⟨behind, word', stands⟩ := stands.keyword ['e', 'l', 's', 'e'] rfl
  obtain ⟨last, ok'', stands⟩ :=
    third.reads depth (by simp only [Level.looseness]; omega) stands
  exact ⟨last, Phrase.ReadWithin.choice ok word ok' word' ok'', stands⟩

end Conditional

end ParsesLevel

/-! ### Whole expressions -/

/-- **An expression that is read up to the end of a text is its parse.** -/
theorem parseExpr_eq_ok_of_reads {text : Text} {expr : Expr}
    (reads : ParsesLevel .conditional text expr []) : parseExpr text = .ok expr := by
  obtain ⟨last, ok, stands⟩ := reads.reads (parseDepth text)
    (by simp only [parseDepth, Level.looseness]; omega) (Cursor.at_ofText text)
  have ended : last.skipBlank.rest.isEmpty = true := by
    rw [stands.rest_skipBlank]
    rfl
  show (parseLevel (parseDepth text) .conditional (Cursor.ofText text) >>= _) = _
  rw [ok]
  exact if_pos ended

end TextTemplate
