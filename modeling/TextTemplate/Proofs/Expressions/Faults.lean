/-
**Where expressions are at fault.**

A function of the parser fails at a cursor that it has reached from where it began, and its fault says
what stands there, or does not. The calls that it takes are never too deep, so no error is left that
comes from the depth.

* `Noticed`: what a fault says of the text where it is noticed;
* `Cursor.Raises`: an error is noticed behind a cursor;
* `parserRaises`: **what the parser raises is noticed at a cursor that it has reached**, within a depth
  that is enough for the text;
* `parseExpr_error`: **an error tells the place behind a front of the text**.
-/

import TextTemplate.Proofs.Expressions.Endings
import TextTemplate.Proofs.Positions

namespace TextTemplate

/-! ### Faults and the text where they are noticed -/

/-- **A fault is noticed in front of a text**: something else than what is expected stands there, or
the end, or no name. -/
inductive Noticed (rest : Text) : SyntaxFault → Prop
  | unexpected {expected : Text} (filled : rest ≠ []) (other : ¬ expected <+: rest) :
      Noticed rest (.unexpected expected (rest.take (expected.length + 10)))
  | unexpectedEnd {expected : Text} (ended : rest = []) : Noticed rest (.unexpectedEnd expected)
  | invalidIdentifier {c : Char} {behind : Text} (begins : rest = c :: behind)
      (noName : beginsName c = false) : Noticed rest (.invalidIdentifier c)
  | missing {description : String} (noName : rest.takeWhile continuesName = []) :
      Noticed rest (.missing description)

/-- **An error is noticed at a cursor or behind it**, with the position of the cursor there. -/
def Cursor.Raises (here : Cursor) (error : SyntaxError) : Prop :=
  ∃ passed place, here.Passes passed place ∧ error.position = place.position ∧
    Noticed place.rest error.fault

namespace Cursor

variable {here between next : Cursor} {passed : Text} {error : SyntaxError}

theorem raises_of_fail {α : Type} {fault : SyntaxFault}
    (failed : (here.fail fault : Except SyntaxError α) = .error error)
    (noticed : Noticed here.rest fault) : here.Raises error := by
  cases failed
  exact ⟨[], here, .refl here, rfl, noticed⟩

/-- An error behind what is passed is an error behind the beginning. -/
theorem Passes.raises (passes : here.Passes passed between) (raises : between.Raises error) :
    here.Raises error := by
  obtain ⟨passed', place, passes', position, noticed⟩ := raises
  exact ⟨passed ++ passed', place, passes.trans passes', position, noticed⟩

theorem Closes.raises (closes : here.Closes between) (raises : between.Raises error) :
    here.Raises error := by
  obtain ⟨passed, passes, -⟩ := closes
  exact passes.raises raises

theorem raises_of_skipBlank (raises : here.skipBlank.Raises error) : here.Raises error :=
  (Passes.skipBlank here).raises raises

/-! ### Tokens that are missing -/

theorem raises_of_expect {expected : Text} (failed : here.expect expected = .error error) :
    here.Raises error := by
  refine raises_of_skipBlank ?_
  unfold expect at failed
  simp only at failed
  split at failed
  · cases failed
  · rename_i missing
    split at failed
    · rename_i ended
      exact raises_of_fail failed (.unexpectedEnd (List.isEmpty_iff.mp ended))
    · rename_i filled
      refine raises_of_fail failed (.unexpected (fun ended => filled ?_) fun begins => ?_)
      · rw [ended]
        rfl
      · obtain ⟨behind, begins⟩ := begins
        have found := take?_of_rest begins.symm
        rw [missing] at found
        cases found

theorem raises_of_identifier (failed : here.identifier = .error error) : here.Raises error := by
  refine raises_of_skipBlank ?_
  unfold identifier at failed
  simp only at failed
  split at failed
  · rename_i ended
    exact raises_of_fail failed (.missing (by rw [ended]; rfl))
  · rename_i c behind begins
    split at failed
    · cases failed
    · rename_i noName
      exact raises_of_fail failed (.invalidIdentifier begins (eq_false_of_ne_true noName))

theorem raises_of_parseQuoted {quote : Char} {done source : Text} {position : Position}
    (failed : parseQuoted quote done position source = .error error) :
    (Cursor.mk source position).Raises error := by
  fun_induction parseQuoted quote done position source with
  | case1 =>
    cases failed
    exact ⟨[], _, .refl _, rfl, .unexpectedEnd rfl⟩
  | case2 => cases failed
  | case3 done position =>
    cases failed
    exact ⟨['\\'], ⟨[], position.step '\\'⟩, ⟨rfl, rfl⟩, rfl, .unexpectedEnd rfl⟩
  | case4 done position c rest other ih =>
    have passes : (Cursor.mk ('\\' :: c :: rest) position).Passes ['\\', c]
        ⟨rest, (position.step '\\').step c⟩ := ⟨rfl, rfl⟩
    exact passes.raises (ih failed)
  | case5 done position c rest other plain ih =>
    have passes : (Cursor.mk (c :: rest) position).Passes [c] ⟨rest, position.step c⟩ := ⟨rfl, rfl⟩
    exact passes.raises (ih failed)

end Cursor

/-- An error behind a token is an error behind the blanks in front of it. -/
theorem Lexes.raises {α β : Type} {token : β → α} {place : β → Cursor} {lexer : Cursor → Option β}
    {here : Cursor} {found : β} {error : SyntaxError} (lexes : Lexes token place lexer)
    (result : lexer here.skipBlank = some found) (raises : (place found).Raises error) :
    here.Raises error := by
  obtain ⟨passed, -, passes⟩ := lexes.passes result
  exact Cursor.raises_of_skipBlank (passes.raises raises)

theorem Cursor.raises_of_membership? {here between : Cursor} {error : SyntaxError} {negated : Bool}
    (words : membership? here.skipBlank = some (negated, between)) (raises : between.Raises error) :
    here.Raises error := by
  rcases Lexes.membership?_eq_some_iff.mp words with ⟨taken, -⟩ | ⟨behind, -, taken, taken', -⟩
  · exact Lexes.inWord.raises taken raises
  · exact Lexes.notWord.raises taken (Lexes.inWord.raises taken' raises)

/-! ### What the parser raises -/

open Cursor
open ParsesTest (PassesNot)

/-- Within a depth that is enough for the text, what each function of the parser raises is noticed at a
cursor that it has reached. -/
structure ParserRaises (depth : Nat) : Prop where
  level : ∀ {level here error}, parseLevel depth level here = .error error →
    12 * here.rest.length + (level.looseness + 2) ≤ depth → here.Raises error
  more : ∀ {level left here error}, parseMore depth level left here = .error error →
    12 * here.rest.length + 1 ≤ depth → here.Raises error
  test : ∀ {target here error}, parseTest depth target here = .error error →
    12 * here.rest.length + 6 ≤ depth → here.Raises error
  args : ∀ {here error}, parseArgs depth here = .error error →
    12 * here.rest.length + 1 ≤ depth → here.Raises error
  list : ∀ {close here error}, parseList depth close here = .error error →
    12 * here.rest.length + 11 ≤ depth → here.Raises error
  operand : ∀ {here error}, parseOperand depth here = .error error →
    12 * here.rest.length + 1 ≤ depth → here.Raises error

namespace ParserRaises

variable {depth : Nat} {here between : Cursor} {error : SyntaxError} {level level' : Level}

theorem level_of_shorter (ih : ParserRaises depth)
    (failed : parseLevel depth level between = .error error)
    (shorter : between.rest.length < here.rest.length) (enough : 12 * here.rest.length ≤ depth) :
    between.Raises error := by
  have low : level.looseness ≤ 8 := by cases level <;> decide
  exact ih.level failed (by omega)

theorem level_of_tighter (ih : ParserRaises depth)
    (failed : parseLevel depth level between = .error error)
    (reached : between.rest.length ≤ here.rest.length) (tighter : level.looseness < level'.looseness)
    (enough : 12 * here.rest.length + (level'.looseness + 2) ≤ depth + 1) : between.Raises error :=
  ih.level failed (by omega)

/-- What goes on behind a phrase fails behind it. -/
theorem more_behind (ih : ParserRaises depth) {phrase : Phrase} {left : Expr}
    (inside : Derives phrase here between)
    (failed : parseMore depth level left between = .error error)
    (enough : 12 * here.rest.length + 1 ≤ depth) : here.Raises error := by
  have reached := inside.shorter
  exact inside.closes.raises (ih.more failed (by omega))

theorem level_conditional (ih : ParserRaises depth)
    (failed : parseLevel (depth + 1) .conditional here = .error error)
    (enough : 12 * here.rest.length + (Level.conditional.looseness + 2) ≤ depth + 1) :
    here.Raises error := by
  rw [parseLevel] at failed
  rcases eq_error_of_bind failed with failed | ⟨⟨value, behind⟩, ok, failed⟩
  · exact ih.level_of_tighter failed (Nat.le_refl _) (by decide) enough
  · have first := (parserDerives depth).level ok
    have low : 12 * here.rest.length ≤ depth := by omega
    refine first.closes.raises ?_
    simp only at failed
    split at failed
    · cases failed
    · rename_i between guard
      have passed := (Derives.ifWord.advances_of_skipBlank guard).trans_le first.shorter
      refine Derives.ifWord.raises guard ?_
      rcases eq_error_of_bind failed with failed | ⟨⟨condition, behind'⟩, ok', failed⟩
      · exact ih.level_of_shorter failed passed low
      · have second := (parserDerives depth).level ok'
        refine second.closes.raises ?_
        simp only at failed
        split at failed
        · cases failed
        · rename_i between' word
          have passed' := Derives.elseWord.advances_of_skipBlank word
          refine Derives.elseWord.raises word ?_
          rcases eq_error_of_bind failed with failed | ⟨⟨otherwise, last⟩, -, failed⟩
          · exact ih.level_of_shorter failed (passed'.trans (second.shorter.trans_lt passed)) low
          · cases failed

theorem level_negation (ih : ParserRaises depth)
    (failed : parseLevel (depth + 1) .negation here = .error error)
    (enough : 12 * here.rest.length + (Level.negation.looseness + 2) ≤ depth + 1) :
    here.Raises error := by
  have low : 12 * here.rest.length ≤ depth := by omega
  rw [parseLevel] at failed
  split at failed
  · rename_i between sign
    refine Derives.negationSign.raises sign ?_
    rcases eq_error_of_bind failed with failed | ⟨⟨operand, last⟩, -, failed⟩
    · exact ih.level_of_shorter failed (Derives.negationSign.advances_of_skipBlank sign) low
    · cases failed
  · refine raises_of_skipBlank ?_
    exact ih.level_of_tighter failed (Derives.length_skipBlank_le here) (by decide) enough

theorem level_sign (ih : ParserRaises depth)
    (failed : parseLevel (depth + 1) .sign here = .error error)
    (enough : 12 * here.rest.length + (Level.sign.looseness + 2) ≤ depth + 1) :
    here.Raises error := by
  have low : 12 * here.rest.length ≤ depth := by omega
  rw [parseLevel] at failed
  split at failed
  · rename_i between _ sign
    refine Lexes.character.raises sign ?_
    rcases eq_error_of_bind failed with failed | ⟨⟨operand, last⟩, -, failed⟩
    · exact ih.level_of_shorter failed (Derives.length_of_character sign) low
    · cases failed
  · rename_i between noMinus sign
    refine Lexes.character.raises sign ?_
    exact ih.level_of_shorter failed (Derives.length_of_character sign) low
  · refine raises_of_skipBlank ?_
    exact ih.level_of_tighter failed (Derives.length_skipBlank_le here) (by decide) enough

theorem level_operand (ih : ParserRaises depth)
    (failed : parseLevel (depth + 1) .operand here = .error error)
    (enough : 12 * here.rest.length + (Level.operand.looseness + 2) ≤ depth + 1) :
    here.Raises error := by
  have skipped := Derives.length_skipBlank_le here
  have low : 12 * here.rest.length + 1 ≤ depth := by
    have least : Level.operand.looseness + 2 = 2 := rfl
    omega
  rw [parseLevel] at failed
  rcases eq_error_of_bind failed with failed | ⟨⟨operand, between⟩, ok, failed⟩
  · exact raises_of_skipBlank (ih.operand failed (by omega))
  · exact ih.more_behind ((parserDerives depth).operand ok) failed (by omega)

theorem level_succ (ih : ParserRaises depth)
    (failed : parseLevel (depth + 1) level here = .error error)
    (enough : 12 * here.rest.length + (level.looseness + 2) ≤ depth + 1) : here.Raises error := by
  by_cases isBinary : level.isBinary = true
  · have tighter : level.tighter.looseness < level.looseness := by
      revert isBinary
      cases level <;> decide
    rw [parseLevel_of_isBinary isBinary] at failed
    rcases eq_error_of_bind failed with failed | ⟨⟨left, between⟩, ok, failed⟩
    · exact ih.level_of_tighter failed (Nat.le_refl _) tighter enough
    · exact ih.more_behind ((parserDerives depth).level ok) failed (by omega)
  · cases level with
    | conditional => exact ih.level_conditional failed enough
    | negation => exact ih.level_negation failed enough
    | sign => exact ih.level_sign failed enough
    | operand => exact ih.level_operand failed enough
    | _ => exact absurd rfl isBinary

/-- What may follow an operand: a field, an index, a call or a filter. -/
theorem more_operand (ih : ParserRaises depth) {left : Expr}
    (failed : parseMore (depth + 1) .operand left here = .error error)
    (low : 12 * here.rest.length ≤ depth) : here.Raises error := by
  rw [parseMore] at failed
  split at failed
  · rename_i between point
    have passed := Derives.length_of_character point
    refine Lexes.character.raises point ?_
    split at failed
    · rename_i behind named
      exact raises_of_fail failed (.missing (congrArg Prod.fst named))
    · rename_i name behind filled named
      have reached := Cursor.length_of_takeWhile named
      exact (Passes.of_takeWhile named).raises (ih.more failed (by omega))
  · rename_i between bracket _
    have passed := Derives.length_of_character bracket
    refine Lexes.character.raises bracket ?_
    show between.Raises error
    rcases eq_error_of_bind failed with failed | ⟨⟨index, behind⟩, ok, failed⟩
    · exact ih.level_of_shorter failed passed low
    · have inside := (parserDerives depth).level ok
      have reached := inside.shorter
      refine inside.closes.raises ?_
      rcases eq_error_of_bind failed with failed | ⟨behind', closed, failed⟩
      · exact raises_of_expect failed
      · have passed' := length_of_expect closed
        exact (gains_of_expect rfl closed).closes.raises (ih.more failed (by omega))
  · rename_i between bracket _ _
    have passed := Derives.length_of_character bracket
    refine Lexes.character.raises bracket ?_
    show between.Raises error
    rcases eq_error_of_bind failed with failed | ⟨⟨args, behind⟩, ok, failed⟩
    · exact ih.list failed (by omega)
    · exact ih.more_behind ((parserDerives depth).list rfl ok) failed (by omega)
  · rename_i between pipe _ _ _
    have passed : between.rest.length < here.rest.length :=
      Derives.pipeSign.advances_of_skipBlank pipe
    refine Derives.pipeSign.raises pipe ?_
    show between.Raises error
    rcases eq_error_of_bind failed with failed | ⟨⟨name, behind⟩, named, failed⟩
    · exact raises_of_identifier failed
    · have skipped := Derives.length_skipBlank_le between
      have passed' := length_of_identifier named
      refine (gains_of_identifier named).closes.raises ?_
      simp only at failed
      rcases eq_error_of_bind failed with failed | ⟨⟨args, behind'⟩, ok, failed⟩
      · exact ih.args failed (by omega)
      · exact ih.more_behind ((parserDerives depth).args ok) failed (by omega)
  · cases failed

theorem more_succ (ih : ParserRaises depth) {left : Expr}
    (failed : parseMore (depth + 1) level left here = .error error)
    (enough : 12 * here.rest.length + 1 ≤ depth + 1) : here.Raises error := by
  have low : 12 * here.rest.length ≤ depth := by omega
  by_cases isOperand : level = .operand
  · subst isOperand
    exact ih.more_operand failed low
  · rw [parseMore_of_ne_operand isOperand] at failed
    split at failed
    · rename_i make between sign
      have passed : between.rest.length < here.rest.length :=
        (Lexes.operator? level).advances_of_skipBlank sign
      refine (Lexes.operator? level).raises sign ?_
      show between.Raises error
      rcases eq_error_of_bind failed with failed | ⟨⟨right, behind⟩, ok, failed⟩
      · exact ih.level_of_shorter failed passed low
      · exact ih.more_behind ((parserDerives depth).level ok) failed (by omega)
    · split at failed
      · split at failed
        · rename_i _ _ between word
          have passed : between.rest.length < here.rest.length :=
            Derives.isWord.advances_of_skipBlank word
          refine Derives.isWord.raises word ?_
          show between.Raises error
          rcases eq_error_of_bind failed with failed | ⟨⟨test, behind⟩, ok, failed⟩
          · exact ih.test failed (by omega)
          · exact ih.more_behind ((parserDerives depth).test ok) failed (by omega)
        · rename_i negated between _ words
          have skipped := Derives.length_skipBlank_le here
          have passed := Lexes.advances_of_membership? words
          refine raises_of_membership? words ?_
          rcases eq_error_of_bind failed with failed | ⟨⟨container, behind⟩, ok, failed⟩
          · exact ih.level_of_shorter failed (passed.trans_le skipped) low
          · exact ih.more_behind ((parserDerives depth).level ok) failed (by omega)
        · cases failed
      · cases failed

theorem test_succ (ih : ParserRaises depth) {target : Expr}
    (failed : parseTest (depth + 1) target here = .error error)
    (enough : 12 * here.rest.length + 6 ≤ depth + 1) : here.Raises error := by
  obtain ⟨negated, between, negation⟩ : ∃ negated between, PassesNot here.skipBlank negated between :=
    ⟨_, _, ParserDerives.passesNot here.skipBlank⟩
  have reached := Derives.length_of_passesNot negation
  refine (closes_of_passesNot negation).raises ?_
  rw [parseTest_of_passesNot negation] at failed
  split at failed
  · rename_i name behind known
    have passed : behind.rest.length < between.rest.length := Lexes.testName?.advances known
    refine (gains_of_testName? known).closes.raises ?_
    rcases eq_error_of_bind failed with failed | ⟨⟨args, last⟩, -, failed⟩
    · exact ih.args failed (by omega)
    · cases failed
  · rcases eq_error_of_bind failed with failed | ⟨⟨right, last⟩, -, failed⟩
    · have low : Level.sum.looseness = 3 := rfl
      exact ih.level failed (by omega)
    · cases failed

theorem args_succ (ih : ParserRaises depth) (failed : parseArgs (depth + 1) here = .error error)
    (enough : 12 * here.rest.length + 1 ≤ depth + 1) : here.Raises error := by
  rw [parseArgs] at failed
  split at failed
  · rename_i between bracket
    have passed := Derives.length_of_character bracket
    have inside : between.Raises error := ih.list failed (by omega)
    exact Lexes.character.raises bracket inside
  · cases failed

theorem list_succ (ih : ParserRaises depth) {close : Char}
    (failed : parseList (depth + 1) close here = .error error)
    (enough : 12 * here.rest.length + 11 ≤ depth + 1) : here.Raises error := by
  have skipped := Derives.length_skipBlank_le here
  rw [parseList] at failed
  split at failed
  · cases failed
  · refine raises_of_skipBlank ?_
    rcases eq_error_of_bind failed with failed | ⟨⟨item, between⟩, ok, failed⟩
    · have low : Level.conditional.looseness = 8 := rfl
      exact ih.level failed (by omega)
    · have first := (parserDerives depth).level ok
      have reached := first.shorter
      refine first.closes.raises ?_
      simp only at failed
      split at failed
      · rename_i behind comma
        have passed := Derives.length_of_character comma
        refine Lexes.character.raises comma ?_
        show behind.Raises error
        rcases eq_error_of_bind failed with failed | ⟨⟨items, last⟩, -, failed⟩
        · exact ih.list failed (by omega)
        · cases failed
      · rcases eq_error_of_bind failed with failed | ⟨last, -, failed⟩
        · exact raises_of_skipBlank (raises_of_expect failed)
        · cases failed

theorem operand_succ (ih : ParserRaises depth)
    (failed : parseOperand (depth + 1) here = .error error)
    (enough : 12 * here.rest.length + 1 ≤ depth + 1) : here.Raises error := by
  rw [parseOperand] at failed
  split at failed
  · rename_i ended
    exact raises_of_fail failed (.unexpectedEnd ended)
  · rename_i c rest begins
    have passes : here.Passes [c] ⟨rest, here.position.step c⟩ := ⟨begins, rfl⟩
    have passed := passes.length_lt (List.cons_ne_nil c [])
    simp only at passed
    simp only at failed
    split at failed
    · cases failed
    · split at failed
      · rcases eq_error_of_bind failed with failed | ⟨⟨text, last⟩, -, failed⟩
        · exact passes.raises (raises_of_parseQuoted failed)
        · cases failed
      · split at failed
        · rcases eq_error_of_bind failed with failed | ⟨⟨items, last⟩, -, failed⟩
          · exact passes.raises (ih.list failed (by simp only; omega))
          · cases failed
        · split at failed
          · refine passes.raises ?_
            rcases eq_error_of_bind failed with failed | ⟨⟨inside, behind⟩, ok, failed⟩
            · exact ih.level_of_shorter failed passed (Nat.le_of_succ_le_succ enough)
            · refine ((parserDerives depth).level ok).closes.raises ?_
              rcases eq_error_of_bind failed with failed | ⟨last, -, failed⟩
              · exact raises_of_expect failed
              · cases failed
          · rcases eq_error_of_bind failed with failed | ⟨⟨name, last⟩, -, failed⟩
            · exact raises_of_identifier failed
            · cases failed

end ParserRaises

/-- **What the parser raises is noticed at a cursor that it has reached**, within a depth that is enough
for the text. -/
theorem parserRaises (depth : Nat) : ParserRaises depth := by
  induction depth with
  | zero =>
    refine ⟨fun _ enough => ?_, fun _ enough => ?_, fun _ enough => ?_, fun _ enough => ?_,
      fun _ enough => ?_, fun _ enough => ?_⟩
    all_goals omega
  | succ depth ih =>
    exact ⟨ih.level_succ, ih.more_succ, ih.test_succ, ih.args_succ, ih.list_succ, ih.operand_succ⟩

/-! ### Errors of expressions -/

/-- **An error of an expression tells the place behind a front of the text.** Either the fault is noticed
there, or the front is an expression by itself and the rest is left over. -/
theorem parseExpr_error {text : Text} {error : SyntaxError} (failed : parseExpr text = .error error) :
    ∃ front rest place, text = front ++ rest ∧ error.position.Measures front ∧
      IsPlaceBehind front place ∧ error.message = s!"Parse error at {place}: {error.fault.message}" ∧
      (Noticed rest error.fault ∨
        error.fault = .leftOver rest ∧ rest ≠ [] ∧ ∃ expr, parseExpr front = .ok expr) := by
  have told {front : Text} (measures : error.position.Measures front) :
      ∃ place, IsPlaceBehind front place ∧
        error.message = s!"Parse error at {place}: {error.fault.message}" :=
    ⟨error.position.describe, measures.isPlaceBehind, rfl⟩
  rw [parseExpr] at failed
  rcases eq_error_of_bind failed with failed | ⟨⟨expr, next⟩, ok, failed⟩
  · obtain ⟨front, reached, passes, position, noticed⟩ := (parserRaises _).level failed (le_parseDepth text)
    have measures : error.position.Measures front := by
      rw [position, passes.position]
      exact measures_after front
    obtain ⟨place, behind, message⟩ := told measures
    exact ⟨front, reached.rest, place, passes.rest, measures, behind, message, .inl noticed⟩
  · have derives := (parserDerives _).level ok
    obtain ⟨front, passes, -⟩ := derives.closes.trans (closes_skipBlank next)
    simp only at failed
    split at failed
    · cases failed
    · rename_i filled
      cases failed
      have measures : next.skipBlank.position.Measures front := by
        rw [passes.position]
        exact measures_after front
      obtain ⟨place, behind, message⟩ := told measures
      refine ⟨front, next.skipBlank.rest, place, passes.rest, measures, behind, message, .inr ?_⟩
      exact ⟨rfl, fun ended => filled (List.isEmpty_iff.mpr ended), expr, parseExpr_passed derives passes⟩

/-- Behind a quoted text with a line break, a name is left over in the second line. -/
theorem parseExpr_left_over_in_second_line :
    parseExpr ['"', 'é', '\n', '"', ' ', 'b'] = .error ⟨⟨6, 1, 2⟩, .leftOver ['b']⟩ ∧
      ∃ front rest place, ['"', 'é', '\n', '"', ' ', 'b'] = front ++ rest ∧
        (Position.mk 6 1 2).Measures front ∧ IsPlaceBehind front place ∧
        (SyntaxError.mk ⟨6, 1, 2⟩ (.leftOver ['b'])).message =
          "Parse error at " ++ place ++ ": " ++ SyntaxFault.message (.leftOver ['b']) ∧
        (Noticed rest (.leftOver ['b']) ∨
          SyntaxFault.leftOver ['b'] = .leftOver rest ∧ rest ≠ [] ∧
            ∃ expr, parseExpr front = .ok expr) := by
  have failed : parseExpr ['"', 'é', '\n', '"', ' ', 'b'] = .error ⟨⟨6, 1, 2⟩, .leftOver ['b']⟩ := by
    rfl
  exact ⟨failed, parseExpr_error failed⟩

end TextTemplate
