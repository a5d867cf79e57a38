/-
**The order of texts.**

Texts are ordered by their first characters that differ, as lists of code points are.

* `Text.order_eq_compare`: the order of texts is the one of lists of code points, **a linear order**.
-/

import Mathlib.Data.List.Basic
import TextTemplate.Value.Order

namespace TextTemplate

theorem Text.order_eq_compare (a b : Text) :
    Text.order a b = compare (a.map Char.toNat) (b.map Char.toNat) := by
  induction a generalizing b with
  | nil => cases b <;> rfl
  | cons c a ih =>
    cases b with
    | nil => rfl
    | cons d b =>
      rw [Text.order, ih b]
      exact (List.compareLex_cons_cons ..).symm

instance : Std.TransCmp Text.order where
  eq_swap {a b} := by
    rw [Text.order_eq_compare, Text.order_eq_compare]
    exact Std.OrientedCmp.eq_swap
  isLE_trans {a b c} first second := by
    rw [Text.order_eq_compare] at first second ⊢
    exact Std.TransCmp.isLE_trans first second

theorem Text.order_self (a : Text) : Text.order a a = .eq :=
  Std.ReflCmp.compare_self

/-- The order of texts the other way round is the reverse one. -/
theorem Text.order_swap (a b : Text) : Text.order b a = (Text.order a b).swap :=
  Std.OrientedCmp.eq_swap

theorem Text.order_trans {a b c : Text} {relation : Ordering} (first : Text.order a b = relation)
    (second : Text.order b c = relation) : Text.order a c = relation := by
  cases relation with
  | lt => exact Std.TransCmp.lt_trans first second
  | eq => exact Std.TransCmp.eq_trans first second
  | gt => exact Std.TransCmp.gt_trans first second

instance : Std.LawfulEqCmp Text.order where
  compare_self {a} := by
    rw [Text.order_eq_compare]
    exact Std.ReflCmp.compare_self
  eq_of_compare {a b} same := by
    rw [Text.order_eq_compare] at same
    exact List.map_injective_iff.mpr (fun _ _ => Char.toNat_inj.mp) (Std.LawfulEqCmp.eq_of_compare same)

end TextTemplate
