/-
**The order of places.**

Names are ordered by their characters, and places by the first name in which they differ.

* `pairwise_mergeSort_of_nodup`: sorting puts what is distinct in strict order;
* `Place.Before`: a place comes before another one;
* `eq_of_pairwise_before`: **two lists in this order with the same members are equal**.
-/

import Mathlib.Data.List.Perm.Basic
import TextTemplate.Files.Tree
import TextTemplate.Proofs.Values.TextOrder

namespace TextTemplate

/-! ### Sorting -/

/-- Sorting puts what is distinct in strict order. -/
theorem pairwise_mergeSort_of_nodup {α : Type} {order : α → α → Ordering} [Std.TransCmp order]
    [Std.LawfulEqCmp order] {items : List α} (distinct : items.Nodup) :
    (items.mergeSort fun a b => (order a b).isLE).Pairwise (order · · = .lt) := by
  have transitive (a b c : α) (first : (order a b).isLE = true) (second : (order b c).isLE = true) :
      (order a c).isLE = true := Std.TransCmp.isLE_trans first second
  have total (a b : α) : ((order a b).isLE || (order b a).isLE) = true := by
    have swapped : order a b = (order b a).swap := Std.OrientedCmp.eq_swap
    rw [swapped]
    cases order b a <;> rfl
  have sorted : (items.mergeSort fun a b => (order a b).isLE).Pairwise
      fun a b => (order a b).isLE = true :=
    List.pairwise_mergeSort transitive total items
  have apart : (items.mergeSort fun a b => (order a b).isLE).Nodup :=
    (List.mergeSort_perm items _).nodup_iff.mpr distinct
  refine (sorted.and apart).imp ?_
  rintro a b ⟨le, ne⟩
  rcases compared : order a b with _ | _ | _
  · rfl
  · exact absurd (Std.LawfulEqCmp.eq_of_compare compared) ne
  · rw [compared] at le
    cases le

namespace Place

/-- The order of places: that of the first names that differ, and a place before all places in it. -/
def order : Place → Place → Ordering :=
  List.compareLex Text.order

instance : Std.TransCmp order :=
  inferInstanceAs (Std.TransCmp (List.compareLex Text.order))

instance : Std.LawfulEqCmp order :=
  inferInstanceAs (Std.LawfulEqCmp (List.compareLex Text.order))

/-- **A place comes before another one.** -/
def Before (a b : Place) : Prop :=
  order a b = .lt

theorem Before.ne {a b : Place} (before : Before a b) : a ≠ b := by
  rintro rfl
  have same : order a a = .eq := Std.ReflCmp.compare_self
  rw [Before, same] at before
  cases before

theorem Before.asymm {a b : Place} (before : Before a b) : ¬Before b a := fun after => by
  have swapped : order a b = (order b a).swap := Std.OrientedCmp.eq_swap
  rw [before, after] at swapped
  cases swapped

/-- Below one place, the order is that of what comes behind. -/
theorem order_append (place a b : Place) : order (place ++ a) (place ++ b) = order a b := by
  induction place with
  | nil => rfl
  | cons name place ih =>
    rw [List.cons_append, List.cons_append, order, List.compareLex_cons_cons, Text.order_self]
    exact ih

/-- What is in a directory comes in the order of the names there. -/
theorem before_of_order {place : Place} {a b : Text} (earlier : Text.order a b = .lt) (rest rest' : Place) :
    Before (place ++ [a] ++ rest) (place ++ [b] ++ rest') := by
  rw [Before, List.append_assoc, List.append_assoc, order_append, List.singleton_append,
    List.singleton_append, order, List.compareLex_cons_cons, earlier]
  rfl

/-- **Two lists of places in order with the same members are equal.** -/
theorem eq_of_pairwise_before {places places' : List Place} (sorted : places.Pairwise Before)
    (sorted' : places'.Pairwise Before) (same : ∀ place, place ∈ places ↔ place ∈ places') :
    places = places' := by
  have distinct : places.Nodup := sorted.imp Before.ne
  have distinct' : places'.Nodup := sorted'.imp Before.ne
  have perm : places.Perm places' := (List.perm_ext_iff_of_nodup distinct distinct').mpr same
  exact perm.eq_of_pairwise (fun a b _ _ before after => absurd after before.asymm) sorted sorted'

end Place

end TextTemplate
