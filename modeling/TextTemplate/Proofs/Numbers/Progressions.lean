/-
**Arithmetic progressions.**

A progression is made term by term, until its end is reached or the next term is no word. As the end
is a word, a term that is none lies beyond it, so nothing is missing; and as sums are exact, nothing
wraps around.

* `IsProgression`: a list holds the terms of a progression that come before its end, in order;
* `rangeFrom_eq_append`: one term after the other, **the terms from any place on**;
* `eval_range`: **what the function `range` gives for integers**.
-/

import TextTemplate.Proofs.Numbers.Arithmetic

namespace TextTemplate

namespace Integer

/-! ### The terms before the end -/

/-- **A number comes before the end** of a progression, in the direction of its step. -/
def ComesBefore (stop step n : Int) : Prop :=
  if 0 < step then n < stop else stop < n

instance (stop step n : Int) : Decidable (ComesBefore stop step n) :=
  inferInstanceAs (Decidable (if 0 < step then n < stop else stop < n))

/-- **A list is a progression**: in place `k` is `start + k * step`, as long as that comes before the
end. -/
def IsProgression (start stop step : Int) (terms : List Int) : Prop :=
  ∀ (k : Nat) (n : Int), terms[k]? = some n ↔ n = start + k * step ∧ ComesBefore stop step n

section Steps

variable {start stop step : Int}

/-- Behind a number that does not come before the end, none does. -/
theorem not_comesBefore_add (reached : ¬ ComesBefore stop step start) (k : Nat) :
    ¬ ComesBefore stop step (start + k * step) := by
  unfold ComesBefore at *
  by_cases upward : 0 < step
  · have further : 0 ≤ k * step := Int.mul_nonneg (Int.natCast_nonneg k) (Int.le_of_lt upward)
    rw [if_pos upward] at *
    omega
  · have further : k * step ≤ 0 := Int.mul_nonpos_of_nonneg_of_nonpos (Int.natCast_nonneg k) (by omega)
    rw [if_neg upward] at *
    omega

/-- No terms, where the start does not come before the end. -/
theorem IsProgression.nil (reached : ¬ ComesBefore stop step start) :
    IsProgression start stop step [] := by
  intro k n
  refine ⟨fun member => by simp at member, ?_⟩
  rintro ⟨rfl, before⟩
  exact absurd before (not_comesBefore_add reached k)

/-- One more term in front. -/
theorem IsProgression.cons {terms : List Int} (before : ComesBefore stop step start)
    (progression : IsProgression (start + step) stop step terms) :
    IsProgression start stop step (start :: terms) := by
  intro k n
  cases k with
  | zero =>
    rw [List.getElem?_cons_zero, Option.some_inj, Int.natCast_zero, Int.zero_mul, Int.add_zero]
    refine ⟨?_, fun place => place.1.symm⟩
    rintro rfl
    exact ⟨rfl, before⟩
  | succ k =>
    have shifted : start + step + k * step = start + (k + 1 : Nat) * step := by
      rw [Int.natCast_add, Int.add_mul, Int.natCast_one, Int.one_mul]
      omega
    rw [List.getElem?_cons_succ, progression k n, shifted]

/-- There is one progression only. -/
theorem IsProgression.unique {terms others : List Int} (progression : IsProgression start stop step terms)
    (progression' : IsProgression start stop step others) : terms = others :=
  List.ext_getElem? fun k => Option.ext fun n => (progression k n).trans (progression' k n).symm

end Steps

/-! ### The terms in turn -/

section Turns

variable {stop step current next : Int64} {passed : List Int64}

theorem rangeFrom_of_next (ahead : isAhead stop step current = true)
    (stepped : add? current step = some next) :
    rangeFrom stop step current passed = rangeFrom stop step next (current :: passed) := by
  rw [rangeFrom, dif_pos ahead]
  split
  · rename_i other stepped'
    rw [Option.some.inj (stepped.symm.trans stepped')]
  · rename_i missing
    rw [stepped] at missing
    cases missing

theorem rangeFrom_of_last (ahead : isAhead stop step current = true)
    (missing : add? current step = none) :
    rangeFrom stop step current passed = passed.reverse ++ [current] := by
  rw [rangeFrom, dif_pos ahead]
  split
  · rename_i stepped
    rw [missing] at stepped
    cases stepped
  · exact List.reverse_cons

theorem isAhead_iff (nonzero : step ≠ 0) :
    isAhead stop step current = true ↔ ComesBefore stop.toInt step.toInt current.toInt := by
  have sign : step.toInt ≠ 0 := fun zero => nonzero (toInt_eq_zero_iff.mp zero)
  unfold ComesBefore
  simp only [isAhead, Bool.or_eq_true, Bool.and_eq_true, decide_eq_true_eq,
    Int64.lt_iff_toInt_lt, Int64.toInt_zero]
  split <;> omega

/-- **A term that is no word lies beyond the end.** -/
theorem not_comesBefore_of_add? (stop : Int64) (missing : add? current step = none) :
    ¬ ComesBefore stop.toInt step.toInt (current.toInt + step.toInt) := by
  have large : ¬ Fits (current.toInt + step.toInt) := checked?_eq_none_iff.mp missing
  have word := fits_toInt stop
  have word' := fits_toInt current
  unfold ComesBefore Fits least greatest at *
  split <;> omega

/-- **The terms from a place on**, behind those passed before. -/
theorem rangeFrom_eq_append (nonzero : step ≠ 0) (current : Int64) (passed : List Int64) :
    ∃ terms, rangeFrom stop step current passed = passed.reverse ++ terms ∧
      IsProgression current.toInt stop.toInt step.toInt (terms.map Int64.toInt) := by
  induction current, passed using rangeFrom.induct stop step with
  | case1 current passed ahead next stepped ih =>
    obtain ⟨terms, rest, progression⟩ := ih
    have moved : next.toInt = current.toInt + step.toInt := toInt_of_checked? stepped
    rw [moved] at progression
    refine ⟨current :: terms, ?_, progression.cons ((isAhead_iff nonzero).mp ahead)⟩
    rw [rangeFrom_of_next ahead stepped, rest, List.reverse_cons, List.append_assoc,
      List.singleton_append]
  | case2 current passed ahead missing =>
    have last := IsProgression.nil (not_comesBefore_of_add? stop missing)
    exact ⟨[current], rangeFrom_of_last ahead missing, last.cons ((isAhead_iff nonzero).mp ahead)⟩
  | case3 current passed reached =>
    refine ⟨[], ?_, .nil fun before => reached ((isAhead_iff nonzero).mpr before)⟩
    rw [rangeFrom, dif_neg reached, List.append_nil]

/-- **The words of a range are the progression.** -/
theorem isProgression_range (nonzero : step ≠ 0) (start stop : Int64) :
    IsProgression start.toInt stop.toInt step.toInt ((range start stop step).map Int64.toInt) := by
  obtain ⟨terms, made, progression⟩ := @rangeFrom_eq_append stop step nonzero start []
  rw [range, made]
  exact progression

end Turns

end Integer

/-! ### Expressions -/

section Expressions

open Integer

variable {extensions : Extensions} {scope : Scope}

theorem evalAll_cons {first : Expr} {rest : List Expr} {value : Value} {values : List Value}
    (head : evalExpr extensions scope first = .ok value)
    (tail : evalAll extensions scope rest = .ok values) :
    evalAll extensions scope (first :: rest) = .ok (value :: values) := by
  rw [evalAll, head, tail]
  rfl

theorem evalExpr_range {args : List Expr} {values : List Value}
    (builtin : Bindings.find? "range" extensions.functions = none)
    (evaluated : evalAll extensions scope args = .ok values) :
    evalExpr extensions scope (.call (.name "range") args) =
      (Filter.range values).mapError (.refused "range") := by
  rw [evalExpr, evaluated]
  show applyCall extensions (.name "range") values = _
  simp only [applyCall, builtin, if_true]

/-- The function `range` of three integers. -/
theorem evalExpr_range_three {start stop step : Int64} {args : List Expr} {values : List Value}
    (builtin : Bindings.find? "range" extensions.functions = none)
    (evaluated : evalAll extensions scope args = .ok values) (nonzero : step ≠ 0)
    (given : Filter.range values = Filter.range [.int start, .int stop, .int step]) :
    ∃ terms : List Int64,
      IsProgression start.toInt stop.toInt step.toInt (terms.map Int64.toInt) ∧
      evalExpr extensions scope (.call (.name "range") args) = .ok (.array (terms.map .int)) := by
  refine ⟨range start stop step, isProgression_range nonzero start stop, ?_⟩
  have words : Filter.range [.int start, .int stop, .int step] =
      .ok (.array ((range start stop step).map .int)) := if_neg nonzero
  rw [evalExpr_range builtin evaluated, given, words]
  rfl

/-- **What the function `range` gives for integers**: the progression from the start by the step, of the
terms that come before the end; without a step it goes up by one, and without a start from zero. -/
theorem eval_range {start stop step : Int64} {first second third : Expr}
    (builtin : Bindings.find? "range" extensions.functions = none)
    (starts : evalExpr extensions scope first = .ok (.int start))
    (stops : evalExpr extensions scope second = .ok (.int stop))
    (steps : evalExpr extensions scope third = .ok (.int step)) :
    (step ≠ 0 → ∃ terms : List Int64,
      IsProgression start.toInt stop.toInt step.toInt (terms.map Int64.toInt) ∧
      evalExpr extensions scope (.call (.name "range") [first, second, third]) =
        .ok (.array (terms.map .int))) ∧
    (∃ terms : List Int64, IsProgression start.toInt stop.toInt 1 (terms.map Int64.toInt) ∧
      evalExpr extensions scope (.call (.name "range") [first, second]) =
        .ok (.array (terms.map .int))) ∧
    ∃ terms : List Int64, IsProgression 0 stop.toInt 1 (terms.map Int64.toInt) ∧
      evalExpr extensions scope (.call (.name "range") [second]) = .ok (.array (terms.map .int)) := by
  have one : (1 : Int64) ≠ 0 := by decide
  have last : evalAll extensions scope [second] = .ok [.int stop] := evalAll_cons stops rfl
  have both : evalAll extensions scope [first, second] = .ok [.int start, .int stop] :=
    evalAll_cons starts last
  have all : evalAll extensions scope [first, second, third] =
      .ok [.int start, .int stop, .int step] :=
    evalAll_cons starts (evalAll_cons stops (evalAll_cons steps rfl))
  refine ⟨fun nonzero => ?_, ?_, ?_⟩
  · exact evalExpr_range_three builtin all nonzero rfl
  · exact evalExpr_range_three builtin both one rfl
  · exact evalExpr_range_three builtin last one rfl

/-- Shortly before the greatest word in steps of five: the third term would be no word. -/
theorem eval_range_near_greatest :
    evalExpr .none ⟨[]⟩ (.call (.name "range") [.literal (.int 9223372036854775800),
        .literal (.int 9223372036854775807), .literal (.int 5)]) =
      .ok (.array [.int 9223372036854775800, .int 9223372036854775805]) := by
  have literal (n : Int64) : evalExpr .none ⟨[]⟩ (.literal (.int n)) = .ok (.int n) := rfl
  obtain ⟨terms, progression, evaluated⟩ := (eval_range rfl (literal 9223372036854775800)
    (literal 9223372036854775807) (literal 5)).1 (by decide)
  have two : IsProgression 9223372036854775800 9223372036854775807 5
      (List.map Int64.toInt [9223372036854775800, 9223372036854775805]) :=
    .cons (by decide +kernel) (.cons (by decide +kernel) (.nil (by decide +kernel)))
  have same : terms = [9223372036854775800, 9223372036854775805] :=
    (List.map_inj_right fun _ _ => Int64.toInt_inj.mp).mp (progression.unique two)
  rw [evaluated, same]
  rfl

end Expressions

end TextTemplate
