/-
**Cutting lists into parts.**

The filters `batch` and `slice` cut a list into consecutive parts: `batch` is told the size of a part,
`slice` how many parts there may be.

* `IsCut`: the parts of a size, of which only the last one may be shorter;
* `chunksOf_isCut`: a list is cut into parts of any positive size;
* `IsCut.length_le`: **there are no more parts than their size asks for**;
* `batch_and_slice_cut`: **what the two filters give**: no element is lost and none changes its place.
-/

import Mathlib.Algebra.Order.Floor.Div
import Mathlib.Data.List.Basic
import TextTemplate.Filter.Builtin

namespace TextTemplate

open TextTemplate.Filter

section Cuts

variable {α : Type} {size : Nat} {part items : List α} {parts : List (List α)}

/-- **A list is cut into parts of a size**: one behind the other they are the list, all but the last one
have this size, and the last one is not empty and no longer than the others. -/
structure IsCut (size : Nat) (items : List α) (parts : List (List α)) : Prop where
  joined : parts.flatten = items
  full : ∀ part ∈ parts.dropLast, part.length = size
  last : ∀ part ∈ parts.getLast?, 0 < part.length ∧ part.length ≤ size

namespace IsCut

theorem nil : IsCut size ([] : List α) [] :=
  ⟨rfl, by simp, by simp⟩

/-- A list that is no longer than a part is the only part. -/
theorem single (filled : 0 < part.length) (fits : part.length ≤ size) : IsCut size part [part] :=
  ⟨by simp, by simp, by simp [filled, fits]⟩

/-- A full part in front of others. -/
theorem cons (positive : 0 < size) (full : part.length = size) (cut : IsCut size items parts) :
    IsCut size (part ++ items) (part :: parts) := by
  cases parts with
  | nil =>
    have empty : items = [] := cut.joined.symm
    rw [empty, List.append_nil]
    exact single (by omega) (Nat.le_of_eq full)
  | cons next parts =>
    refine ⟨by rw [List.flatten_cons, cut.joined], fun other member => ?_, ?_⟩
    · rw [List.dropLast_cons_of_ne_nil (List.cons_ne_nil _ _)] at member
      rcases List.mem_cons.mp member with rfl | member
      · exact full
      · exact cut.full other member
    · rw [List.getLast?_cons_cons]
      exact cut.last

/-- Each part but the last one has the size, and the last one has at least one element. -/
theorem lt_length (cut : IsCut size items parts) (filled : parts ≠ []) :
    (parts.length - 1) * size < items.length := by
  have last := cut.last _ (List.getLast?_eq_some_getLast filled)
  have others : (parts.dropLast.map List.length).sum = parts.dropLast.length * size := by
    rw [List.map_eq_replicate_iff.mpr cut.full, List.sum_replicate_nat]
  have whole := congrArg List.length cut.joined
  rw [← List.dropLast_append_getLast filled, List.flatten_append, List.flatten_singleton,
    List.length_append, List.length_flatten, others, List.length_dropLast] at whole
  omega

/-- **A list that fits into a number of parts is cut into no more than that.** -/
theorem length_le {count : Nat} (cut : IsCut size items parts) (fits : items.length ≤ count * size) :
    parts.length ≤ count := by
  by_cases filled : parts = []
  · simp [filled]
  · have more := Nat.lt_of_lt_of_le (cut.lt_length filled) fits
    have fewer := Nat.lt_of_mul_lt_mul_right more
    omega

/-- No part is empty, and none is longer than the size. -/
theorem length_bounds (cut : IsCut size items parts) :
    ∀ part ∈ parts, 0 < part.length ∧ part.length ≤ size := by
  intro part member
  have filled : parts ≠ [] := List.ne_nil_of_mem member
  have last := cut.last _ (List.getLast?_eq_some_getLast filled)
  rw [← List.dropLast_append_getLast filled] at member
  rcases List.mem_append.mp member with before | atEnd
  · rw [cut.full part before]
    exact ⟨Nat.lt_of_lt_of_le last.1 last.2, Nat.le_refl _⟩
  · rw [List.mem_singleton.mp atEnd]
    exact last

end IsCut

/-- Enough steps cut a list: each of them takes at least one element. -/
theorem chunkLoop_isCut (positive : 0 < size) {steps : Nat} (enough : items.length ≤ steps) :
    IsCut size items (chunkLoop size steps items) := by
  induction steps generalizing items with
  | zero =>
    rw [List.eq_nil_of_length_eq_zero (Nat.le_zero.mp enough)]
    exact IsCut.nil
  | succ steps ih =>
    cases items with
    | nil => exact IsCut.nil
    | cons item items =>
      rw [chunkLoop]
      by_cases longer : size < (item :: items).length
      · have full : ((item :: items).take size).length = size :=
          List.length_take_of_le (Nat.le_of_lt longer)
        have fewer : ((item :: items).drop size).length ≤ steps := by
          rw [List.length_drop]
          omega
        have cut := (ih fewer).cons positive full
        rwa [List.take_append_drop] at cut
      · have short : (item :: items).length ≤ size := Nat.not_lt.mp longer
        rw [List.take_of_length_le short, List.drop_eq_nil_of_le short]
        have none : chunkLoop size steps ([] : List α) = [] := by cases steps <;> rfl
        rw [none]
        exact IsCut.single (Nat.succ_pos _) short

/-- **A list is cut into parts of any positive size.** -/
theorem chunksOf_isCut (positive : 0 < size) (items : List α) : IsCut size items (chunksOf size items) :=
  chunkLoop_isCut positive (Nat.le_refl _)

/-- A share rounded up leaves nothing over. -/
theorem length_le_mul_share {count : Nat} (positive : 0 < count) (items : List α) :
    items.length ≤ count * (items.length ⌈/⌉ count) :=
  (ceilDiv_le_iff_le_mul positive).mp (Nat.le_refl _)

/-- **A list is cut into equal shares**, of which the last one may be smaller. -/
theorem chunksOf_share_isCut {count : Nat} (positive : 0 < count) (items : List α) :
    IsCut (items.length ⌈/⌉ count) items (chunksOf (items.length ⌈/⌉ count) items) := by
  by_cases filled : items = []
  · subst filled
    exact IsCut.nil
  · refine chunksOf_isCut (Nat.pos_of_ne_zero fun zero => ?_) items
    have whole := length_le_mul_share positive items
    rw [zero, Nat.mul_zero] at whole
    exact filled (List.eq_nil_of_length_eq_zero (Nat.le_zero.mp whole))

-- there may be fewer parts than asked for
example : chunksOf (5 ⌈/⌉ 4) [1, 2, 3, 4, 5] = [[1, 2], [3, 4], [5]] := by decide

end Cuts

/-- **Rows are filled up**: the last one is followed by copies of a value until it has the size, so that
all of them have it, and the others stay as they are. -/
structure IsFilledUp (size : Nat) (filler : Value) (rows filled : List (List Value)) : Prop where
  others : filled.dropLast = rows.dropLast
  last : filled.getLast? =
    rows.getLast?.map fun row => row ++ List.replicate (size - row.length) filler
  exact : ∀ row ∈ filled, row.length = size

theorem length_padTo {size : Nat} {row : List Value} (fits : row.length ≤ size) (filler : Value) :
    (padTo size filler row).length = size := by
  rw [padTo, List.length_append, List.length_replicate]
  omega

/-- Filling up every row changes the last one only. -/
theorem IsCut.isFilledUp {size : Nat} {items : List Value} {rows : List (List Value)}
    (cut : IsCut size items rows) (filler : Value) :
    IsFilledUp size filler rows (rows.map (padTo size filler)) where
  others := by
    rw [← List.map_dropLast]
    refine (List.map_congr_left fun row member => ?_).trans (List.map_id _)
    rw [padTo, cut.full row member, Nat.sub_self, List.replicate_zero, List.append_nil, id]
  last := List.getLast?_map
  exact := by
    intro row member
    obtain ⟨short, inside, rfl⟩ := List.mem_map.mp member
    exact length_padTo (cut.length_bounds short inside).2 filler

theorem batch_none (size : Nat) (items : List Value) :
    batch size none items = .array ((chunksOf (max size 1) items).map .array) := rfl

theorem batch_some (size : Nat) (filler : Value) (items : List Value) :
    batch size (some filler) items =
      .array (((chunksOf (max size 1) items).map (padTo (max size 1) filler)).map .array) := by
  rw [List.map_map]
  rfl

theorem slice_eq (count : Nat) (items : List Value) :
    slice count items =
      .array ((chunksOf (items.length ⌈/⌉ max count 1) items).map .array) := rfl

/-- **What `batch` and `slice` give**, for every value and every integer, those below one counting as one:
rows of that size, the last one filled up if there is a value to do it with, and at most that many parts,
each with its share of the elements rounded up. -/
theorem batch_and_slice_cut (value : Value) (n : Int64) (more : List Value) :
    let count := (max n.toInt 1).toNat
    let items := value.items
    ∃ rows parts : List (List Value),
      applyBuiltin? "batch" value [.int n] = some (.ok (.array (rows.map .array))) ∧
      IsCut count items rows ∧
      (∀ filler : Value, ∃ filled : List (List Value),
        applyBuiltin? "batch" value (.int n :: filler :: more) =
          some (.ok (.array (filled.map .array))) ∧
        IsFilledUp count filler rows filled) ∧
      applyBuiltin? "slice" value (.int n :: more) = some (.ok (.array (parts.map .array))) ∧
      IsCut (items.length ⌈/⌉ count) items parts ∧
      (∀ part ∈ parts, part ≠ []) ∧ parts.length ≤ count := by
  intro count items
  have same (others : List Value) : max (countArg (.int n :: others) 0 1) 1 = count := by
    show max n.toInt.toNat 1 = (max n.toInt 1).toNat
    omega
  have positive : 0 < count := by omega
  have rows := chunksOf_isCut positive items
  have parts := chunksOf_share_isCut positive items
  refine ⟨chunksOf count items, chunksOf (items.length ⌈/⌉ count) items, ?_, rows, fun filler =>
    ⟨(chunksOf count items).map (padTo count filler), ?_, rows.isFilledUp filler⟩, ?_, parts, ?_,
    parts.length_le (length_le_mul_share positive items)⟩
  · show some (Except.ok (batch (countArg [.int n] 0 1) none items)) = _
    rw [batch_none, same []]
  · show some (Except.ok (batch (countArg (.int n :: filler :: more) 0 1) (some filler) items)) = _
    rw [batch_some, same]
  · show some (Except.ok (slice (countArg (.int n :: more) 0 1) items)) = _
    rw [slice_eq, same]
  · intro part member
    exact List.ne_nil_of_length_pos (parts.length_bounds part member).1

end TextTemplate
