/-
**The order of integers.**

Whether two integers are equal is decided on the integers, but which one is less is decided on their
floats, by the comparisons as well as by sorting. Beyond the fifty-third power of two neighbours may
have the same float; then neither is less.

* `Integer.ToldApart`: two words are the same or have different floats;
* `Integer.order`, `Integer.order_eq`: the order of words by their floats, which **is that of the
  integers for words that are told apart**;
* `eval_order_of_integers`: **what comparisons and sorting give for integers**.
-/

import TextTemplate.Expr.Eval
import TextTemplate.Proofs.Numbers.Floats

namespace TextTemplate

/-! ### The order of words by their floats -/

namespace Integer

/-- **Two words are told apart**: they have different floats, unless they are the same. -/
def ToldApart (a b : Int64) : Prop :=
  toFloat a = toFloat b → a = b

instance (a b : Int64) : Decidable (ToldApart a b) :=
  inferInstanceAs (Decidable (toFloat a = toFloat b → a = b))

/-- The order of words by their floats. -/
def order (a b : Int64) : Ordering :=
  compare (roundedBits a.toInt) (roundedBits b.toInt)

variable {a b c : Int64}

theorem natAbs_toInt_lt (a : Int64) : a.toInt.natAbs < 2 ^ 64 := by
  have low := Int64.le_toInt a
  have high := Int64.toInt_lt a
  omega

theorem compareFloats?_toFloat (a b : Int64) :
    compareFloats? (toFloat a) (toFloat b) = some (order a b) :=
  compareFloats?_floatOfInt (natAbs_toInt_lt a) (natAbs_toInt_lt b)

theorem toFloat_eq_iff : toFloat a = toFloat b ↔ order a b = .eq :=
  (floatOfInt_eq_iff (natAbs_toInt_lt a) (natAbs_toInt_lt b)).trans Int.compare_eq_eq.symm

/-- **The order by floats is that of the integers**, for words that are told apart. -/
theorem order_eq (apart : ToldApart a b) : order a b = compare a.toInt b.toInt := by
  cases ordered : order a b with
  | lt =>
    have less := lt_of_roundedBits_lt (Int.compare_eq_lt.mp ordered)
    exact (Int.compare_eq_lt.mpr less).symm
  | gt =>
    have greater := lt_of_roundedBits_lt (Int.compare_eq_gt.mp ordered)
    exact (Int.compare_eq_gt.mpr greater).symm
  | eq =>
    have same := apart (toFloat_eq_iff.mpr ordered)
    exact (Int.compare_eq_eq.mpr (congrArg _ same)).symm

/-- Words that are not told apart count as equal. -/
theorem order_eq_eq (confused : ¬ ToldApart a b) : order a b = .eq := by
  by_cases same : toFloat a = toFloat b
  · exact toFloat_eq_iff.mp same
  · exact absurd (fun equal => absurd equal same) confused

/-- **Words of up to fifty-three digits are told apart.** -/
theorem toldApart_of_small (small : a.toInt.natAbs ≤ 2 ^ 53) (small' : b.toInt.natAbs ≤ 2 ^ 53) :
    ToldApart a b := by
  intro same
  have bits : roundedBits a.toInt = roundedBits b.toInt := Int.compare_eq_eq.mp (toFloat_eq_iff.mp same)
  exact Int64.toInt_inj.mp (eq_of_roundedBits_eq bits small small')

theorem isLE_order : (order a b).isLE = true ↔ roundedBits a.toInt ≤ roundedBits b.toInt :=
  Int.isLE_compare

end Integer

open Integer

/-! ### Comparisons -/

/-- **What a comparison says** about integers. -/
def CompareOp.holds (m n : Int) : CompareOp → Bool
  | .eq => m = n
  | .ne => m ≠ n
  | .lt => m < n
  | .le => m ≤ n
  | .gt => n < m
  | .ge => n ≤ m

variable {a b : Int64} {m n : Int} {op : CompareOp}

/-- Whether two words are equal is decided on the integers. -/
theorem looseEq_int (a b : Int64) : (Value.int a).looseEq (.int b) = decide (a.toInt = b.toInt) := by
  show (a == b) = decide (a.toInt = b.toInt)
  rw [Bool.eq_iff_iff, beq_iff_eq, decide_eq_true_iff, Int64.toInt_inj]

/-- A comparison of words other than for equality says of the integers what the order says. -/
theorem compareValues_of_order (noEq : op ≠ .eq) (noNe : op ≠ .ne)
    (ordered : order a b = compare m n) : compareValues op (.int a) (.int b) = op.holds m n := by
  have operands : operandOrder? (.int a) (.int b) = some (compare m n) :=
    (compareFloats?_toFloat a b).trans (congrArg some ordered)
  unfold compareValues
  rw [operands]
  cases op with
  | eq => exact absurd rfl noEq
  | ne => exact absurd rfl noNe
  | lt =>
    have less := Ordering.isLT_iff_eq_lt.trans (Int.compare_eq_lt (a := m) (b := n))
    exact Bool.eq_iff_iff.mpr (less.trans decide_eq_true_iff.symm)
  | le => exact Bool.eq_iff_iff.mpr (Int.isLE_compare.trans decide_eq_true_iff.symm)
  | gt =>
    have greater := Ordering.isGT_iff_eq_gt.trans (Int.compare_eq_gt (a := m) (b := n))
    exact Bool.eq_iff_iff.mpr (greater.trans decide_eq_true_iff.symm)
  | ge => exact Bool.eq_iff_iff.mpr (Int.isGE_compare.trans decide_eq_true_iff.symm)

/-- A comparison of words that are told apart is one of the integers, and so is each for equality. -/
theorem compareValues_int (plain : op = .eq ∨ op = .ne ∨ ToldApart a b) :
    compareValues op (.int a) (.int b) = op.holds a.toInt b.toInt := by
  by_cases equality : op = .eq
  · subst equality
    exact looseEq_int a b
  · by_cases inequality : op = .ne
    · subst inequality
      show (!(Value.int a).looseEq (.int b)) = decide (a.toInt ≠ b.toInt)
      rw [looseEq_int, decide_not]
    · have apart := (plain.resolve_left equality).resolve_left inequality
      exact compareValues_of_order equality inequality (order_eq apart)

/-- Words that are not told apart are compared as if they were the same. -/
theorem compareValues_of_confused (noEq : op ≠ .eq) (noNe : op ≠ .ne) (confused : ¬ ToldApart a b) :
    compareValues op (.int a) (.int b) = op.holds a.toInt a.toInt :=
  compareValues_of_order noEq noNe ((order_eq_eq confused).trans (Int.compare_eq_eq.mpr rfl).symm)

/-! ### Sorting -/

/-- Words are sorted by their floats. -/
theorem sortItems_int (words : List Int64) :
    Filter.sortItems false false none (words.map .int) =
      (words.mergeSort fun a b => (order a b).isLE).map .int := by
  refine (List.map_mergeSort fun a _ b _ => ?_).symm
  show (order a b).isLE = ((compareFloats? (toFloat a) (toFloat b)).getD .eq).isLE
  rw [compareFloats?_toFloat, Option.getD_some]

/-- **In sorted words, those that are told apart stand in order.** -/
theorem pairwise_mergeSort_order (words : List Int64) :
    (words.mergeSort fun a b => (order a b).isLE).Pairwise
      fun a b => ToldApart a b → a.toInt ≤ b.toInt := by
  have trans (a b c : Int64) (first : (order a b).isLE) (second : (order b c).isLE) :
      (order a c).isLE :=
    isLE_order.mpr (Int.le_trans (isLE_order.mp first) (isLE_order.mp second))
  have total (a b : Int64) : (order a b).isLE || (order b a).isLE := by
    rw [Bool.or_eq_true, isLE_order, isLE_order]
    exact Int.le_total _ _
  have sorted := List.pairwise_mergeSort trans total words
  refine sorted.imp fun {a b} ordered apart => ?_
  rw [order_eq apart] at ordered
  exact Int.isLE_compare.mp ordered

/-! ### Expressions -/

section Expressions

variable {extensions : Extensions} {scope : Scope}

theorem evalExpr_compare {left right : Expr} {a b : Value}
    (first : evalExpr extensions scope left = .ok a)
    (second : evalExpr extensions scope right = .ok b) (op : CompareOp) :
    evalExpr extensions scope (.compare op left right) = .ok (.bool (compareValues op a b)) := by
  rw [evalExpr, first, second]
  rfl

theorem evalExpr_sort {target : Expr} {words : List Int64}
    (list : evalExpr extensions scope target = .ok (.array (words.map .int)))
    (builtin : Bindings.find? "sort" extensions.filters = none) :
    evalExpr extensions scope (.filter target "sort" []) =
      .ok (.array ((words.mergeSort fun a b => (order a b).isLE).map .int)) := by
  rw [evalExpr, evalAll, list]
  show applyFilter extensions "sort" (.array (words.map .int)) [] = _
  unfold applyFilter
  rw [builtin, ← sortItems_int]
  rfl

/-- **What comparisons and sorting give for integers.** A comparison for equality is that of the
integers. So is every other one, of two words that are told apart by their floats, as all words of up to
fifty-three digits are; else the two are compared as if they were the same. Sorting gives the same
words, and those of them that are told apart in order. -/
theorem eval_order_of_integers {a b : Int64} {left right : Expr}
    (first : evalExpr extensions scope left = .ok (.int a))
    (second : evalExpr extensions scope right = .ok (.int b)) {target : Expr} {words : List Int64}
    (list : evalExpr extensions scope target = .ok (.array (words.map .int)))
    (builtin : Bindings.find? "sort" extensions.filters = none) :
    (∀ op : CompareOp, op = .eq ∨ op = .ne ∨ ToldApart a b →
      evalExpr extensions scope (.compare op left right) = .ok (.bool (op.holds a.toInt b.toInt))) ∧
    (∀ op : CompareOp, op ≠ .eq → op ≠ .ne → ¬ ToldApart a b →
      evalExpr extensions scope (.compare op left right) = .ok (.bool (op.holds a.toInt a.toInt))) ∧
    (a.toInt.natAbs ≤ 2 ^ 53 → b.toInt.natAbs ≤ 2 ^ 53 → ToldApart a b) ∧
    ∃ sorted : List Int64, sorted.Perm words ∧
      (sorted.Pairwise fun m n => ToldApart m n → m.toInt ≤ n.toInt) ∧
      evalExpr extensions scope (.filter target "sort" []) = .ok (.array (sorted.map .int)) := by
  have compared := evalExpr_compare first second
  refine ⟨fun op plain => ?_, fun op noEq noNe confused => ?_, toldApart_of_small,
    _, List.mergeSort_perm _ _, pairwise_mergeSort_order words, evalExpr_sort list builtin⟩
  · rw [compared op, compareValues_int plain]
  · rw [compared op, compareValues_of_confused noEq noNe confused]

end Expressions

/-- Five and the greatest word are told apart. -/
theorem eval_order_of_five_and_greatest :
    let five := Expr.literal (.int 5)
    let greatest := Expr.literal (.int 9223372036854775807)
    evalExpr .none ⟨[]⟩ (.compare .lt five greatest) = .ok (.bool true) ∧
      evalExpr .none ⟨[]⟩ (.compare .ge five greatest) = .ok (.bool false) ∧
      ∃ sorted : List Int64, sorted.Perm [9223372036854775807, 5] ∧
        (sorted.Pairwise fun m n => ToldApart m n → m.toInt ≤ n.toInt) ∧
        evalExpr .none ⟨[]⟩ (.filter (.array [greatest, five]) "sort" []) =
          .ok (.array (sorted.map .int)) := by
  intro five greatest
  have first : evalExpr .none ⟨[]⟩ five = .ok (.int 5) := rfl
  have second : evalExpr .none ⟨[]⟩ greatest = .ok (.int 9223372036854775807) := rfl
  have list : evalExpr .none ⟨[]⟩ (.array [greatest, five]) =
      .ok (.array (List.map Value.int [9223372036854775807, 5])) := rfl
  have apart : ToldApart 5 9223372036854775807 := by decide +kernel
  have less : CompareOp.holds (5 : Int64).toInt (9223372036854775807 : Int64).toInt .lt = true := by
    decide +kernel
  have notGreater : CompareOp.holds (5 : Int64).toInt (9223372036854775807 : Int64).toInt .ge = false := by
    decide +kernel
  obtain ⟨compared, -, -, sorted⟩ := eval_order_of_integers first second list rfl
  refine ⟨?_, ?_, sorted⟩
  · rw [compared .lt (.inr (.inr apart)), less]
  · rw [compared .ge (.inr (.inr apart)), notGreater]

/-- **The fifty-third power of two and its successor are in no order**: neither is less than the other,
nor are they equal, and sorting leaves them as they are. -/
theorem no_order_of_neighbours :
    let scope := Scope.ofContext (Context.ofList [("a", .int 9007199254740992),
      ("b", .int 9007199254740993), ("xs", .array [.int 9007199254740993, .int 9007199254740992])])
    (9007199254740992 : Int64).toInt < (9007199254740993 : Int64).toInt ∧
      evalExpr .none scope (.compare .lt (.name "a") (.name "b")) = .ok (.bool false) ∧
      evalExpr .none scope (.compare .eq (.name "a") (.name "b")) = .ok (.bool false) ∧
      evalExpr .none scope (.compare .gt (.name "a") (.name "b")) = .ok (.bool false) ∧
      evalExpr .none scope (.filter (.name "xs") "sort" []) =
        .ok (.array [.int 9007199254740993, .int 9007199254740992]) := by
  intro scope
  have known : evalExpr .none scope (.name "a") = .ok (.int 9007199254740992) := rfl
  have known' : evalExpr .none scope (.name "b") = .ok (.int 9007199254740993) := rfl
  have list : evalExpr .none scope (.name "xs") =
      .ok (.array (List.map Value.int [9007199254740993, 9007199254740992])) := rfl
  have confused : ¬ ToldApart 9007199254740992 9007199254740993 := by decide +kernel
  have different : CompareOp.holds (9007199254740992 : Int64).toInt
      (9007199254740993 : Int64).toInt .eq = false := by decide +kernel
  have kept : List.Pairwise (fun a b : Int64 => (order a b).isLE)
      [9007199254740993, 9007199254740992] := by decide +kernel
  have strict {op : CompareOp} (noEq : op ≠ .eq) (noNe : op ≠ .ne)
      (irreflexive : ∀ n : Int, op.holds n n = false) :
      evalExpr .none scope (.compare op (.name "a") (.name "b")) = .ok (.bool false) := by
    rw [evalExpr_compare known known', compareValues_of_confused noEq noNe confused, irreflexive]
  refine ⟨by decide +kernel, ?_, ?_, ?_, ?_⟩
  · exact strict (by decide) (by decide) fun n => decide_eq_false (Int.lt_irrefl n)
  · rw [evalExpr_compare known known', compareValues_int (.inl rfl), different]
  · exact strict (by decide) (by decide) fun n => decide_eq_false (Int.lt_irrefl n)
  · rw [evalExpr_sort list rfl, List.mergeSort_of_pairwise kept]
    rfl

end TextTemplate
