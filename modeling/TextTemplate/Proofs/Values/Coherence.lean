/-
**Comparisons and equality.**

Values are equal by what they hold, but ordered by their numeric views or else by their texts. So
equal values are in no other order than that of equality as long as they have the same text. The text
of a map lists its entries one after the other, while equality does not look at their order.

* `operandOrder?_swap`: the order of two operands the other way round is the reverse one;
* `Value.sameOrder`: maps at the same places of two values list their names in the same order;
* `text_eq_of_same`: **equal values have the same text**, if their maps are in the same order;
* `eval_comparisons`: **what the comparisons say of each other**.
-/

import TextTemplate.Proofs.Numbers.Ordering
import TextTemplate.Proofs.Values.TextOrder

namespace TextTemplate

/-! ### Operands the other way round -/

theorem operandOrder?_swap (a b : Value) : operandOrder? b a = (operandOrder? a b).map Ordering.swap := by
  have texts := Text.order_swap a.text b.text
  unfold operandOrder?
  cases a.asFloat? with
  | none => cases b.asFloat? <;> exact congrArg some texts
  | some x =>
    cases b.asFloat? with
    | none => exact congrArg some texts
    | some y => exact compareFloats?_swap x y

theorem compareValues_gt (a b : Value) : compareValues .gt b a = compareValues .lt a b := by
  unfold compareValues
  rw [operandOrder?_swap]
  rcases operandOrder? a b with _ | _ | _ | _ <;> rfl

theorem compareValues_ge (a b : Value) : compareValues .ge b a = compareValues .le a b := by
  unfold compareValues
  rw [operandOrder?_swap]
  rcases operandOrder? a b with _ | _ | _ | _ <;> rfl

/-! ### Maps in the same order -/

namespace Value

mutual

/-- **The maps at the same places of two values list their names in the same order.** -/
def sameOrder : Value → Value → Bool
  | .array as, .array bs => sameOrderItems as bs
  | .map as, .map bs => sameOrderEntries as bs
  | _, _ => true

/-- The same for lists, element by element. -/
def sameOrderItems : List Value → List Value → Bool
  | a :: as, b :: bs => sameOrder a b && sameOrderItems as bs
  | _, _ => true

/-- The same for the entries of maps, name by name. -/
def sameOrderEntries : List (String × Value) → List (String × Value) → Bool
  | (name, a) :: as, (name', b) :: bs => name == name' && sameOrder a b && sameOrderEntries as bs
  | _, _ => true

end

/-- **No map in a value binds a name twice.** -/
inductive Distinct : Value → Prop
  | null : Distinct .null
  | bool (b : Bool) : Distinct (.bool b)
  | int (n : Int64) : Distinct (.int n)
  | float (x : Float) : Distinct (.float x)
  | string (s : String) : Distinct (.string s)
  | array {items : List Value} (each : ∀ item ∈ items, Distinct item) : Distinct (.array items)
  | map {entries : Bindings Value} (names : (entries.map Prod.fst).Nodup)
      (each : ∀ entry ∈ entries, Distinct entry.2) : Distinct (.map entries)

/-- Whether a value is a text that is read as what is not a number. -/
def spellsNaN : Value → Bool
  | .string s => (Value.string s).asFloat?.any Float.isNaN
  | _ => false

/-! ### Equal values have the same text -/

/-- A value has the same text as every value that it equals and whose maps are in the same order. -/
def ReadsAlike (a : Value) : Prop :=
  ∀ b : Value, a.same b = true → a.sameOrder b = true → a.text = b.text

theorem itemTexts_eq {as bs : List Value} (each : ∀ a ∈ as, ReadsAlike a)
    (equal : sameItems as bs = true) (order : sameOrderItems as bs = true) :
    itemTexts as = itemTexts bs := by
  induction as generalizing bs with
  | nil =>
    cases bs with
    | nil => rfl
    | cons b bs => cases equal
  | cons a as ih =>
    cases bs with
    | nil => cases equal
    | cons b bs =>
      obtain ⟨first, rest⟩ := Bool.and_eq_true_iff.mp equal
      obtain ⟨first', rest'⟩ := Bool.and_eq_true_iff.mp order
      have head := each a List.mem_cons_self b first first'
      have tail := ih (fun a member => each a (List.mem_cons_of_mem _ member)) rest rest'
      rw [itemTexts, itemTexts, head, tail]

theorem names_eq_of_sameOrderEntries {as bs : Bindings Value} (length : as.length = bs.length)
    (order : sameOrderEntries as bs = true) : as.map Prod.fst = bs.map Prod.fst := by
  induction as generalizing bs with
  | nil =>
    cases bs with
    | nil => rfl
    | cons b bs => cases length
  | cons a as ih =>
    cases bs with
    | nil => cases length
    | cons b bs =>
      obtain ⟨first, rest⟩ := Bool.and_eq_true_iff.mp order
      obtain ⟨name, -⟩ := Bool.and_eq_true_iff.mp first
      rw [List.map_cons, List.map_cons, ih (Nat.succ.inj length) rest, beq_iff_eq.mp name]

/-- The entries of two maps from any place on: equality looks for a name in the whole of the second
map, but as no name is bound twice, it finds the entry in the same place. -/
theorem entryTexts_eq {as bs whole : Bindings Value} (each : ∀ entry ∈ as, ReadsAlike entry.2)
    (distinct : (whole.map Prod.fst).Nodup) (listed : ∀ entry ∈ bs, entry ∈ whole)
    (length : as.length = bs.length) (equal : sameEntries as whole = true)
    (order : sameOrderEntries as bs = true) : entryTexts as = entryTexts bs := by
  induction as generalizing bs with
  | nil =>
    cases bs with
    | nil => rfl
    | cons b bs => cases length
  | cons entry as ih =>
    cases bs with
    | nil => cases length
    | cons entry' bs =>
      obtain ⟨name, a⟩ := entry
      obtain ⟨name', b⟩ := entry'
      obtain ⟨first, rest⟩ := Bool.and_eq_true_iff.mp equal
      obtain ⟨first', rest'⟩ := Bool.and_eq_true_iff.mp order
      obtain ⟨named, aligned⟩ := Bool.and_eq_true_iff.mp first'
      obtain rfl := beq_iff_eq.mp named
      rw [Bindings.find?_eq_some_of_mem distinct (listed _ List.mem_cons_self)] at first
      have head := each _ List.mem_cons_self b first aligned
      have tail := ih (fun entry member => each entry (List.mem_cons_of_mem _ member))
        (fun entry member => listed entry (List.mem_cons_of_mem _ member)) (Nat.succ.inj length) rest rest'
      rw [entryTexts, entryTexts, head, tail]

/-- **Equal values have the same text**, if their maps are in the same order. -/
theorem readsAlike_of_distinct {a : Value} (distinct : a.Distinct) : a.ReadsAlike := by
  induction distinct with
  | null =>
    intro b equal _
    cases b with
    | null => rfl
    | _ => cases equal
  | bool c =>
    intro b equal _
    cases b with
    | bool d => rw [beq_iff_eq.mp (show (c == d) = true from equal)]
    | _ => cases equal
  | int n =>
    intro b equal _
    cases b with
    | int m => rw [beq_iff_eq.mp (show (n == m) = true from equal)]
    | _ => cases equal
  | float x =>
    intro b equal _
    cases b with
    | float y => exact floatText_eq_of_beq equal
    | _ => cases equal
  | string s =>
    intro b equal _
    cases b with
    | string t => rw [beq_iff_eq.mp (show (s == t) = true from equal)]
    | _ => cases equal
  | array _ ih =>
    intro b equal order
    cases b with
    | array bs => rw [text, text, itemTexts_eq ih equal order]
    | _ => cases equal
  | map names _ ih =>
    intro b equal order
    cases b with
    | map bs =>
      obtain ⟨count, entries⟩ := Bool.and_eq_true_iff.mp equal
      have length := beq_iff_eq.mp count
      rw [names_eq_of_sameOrderEntries length order] at names
      rw [text, text, entryTexts_eq ih names (fun _ member => member) length entries order]
    | _ => cases equal

end Value

open Value

/-! ### Comparisons of equal values -/

theorem asFloat?_of_number? {a : Value} {x : Float} (number : a.number? = some x) :
    a.asFloat? = some x := by
  cases a with
  | int n => exact number
  | float y => exact number
  | _ => cases number

/-- **What equality means**: the same integer, equal floats, or values of the same kind that are no
numbers. -/
theorem looseEq_cases {a b : Value} (equal : a.looseEq b = true) :
    (∃ n, a = .int n ∧ b = .int n) ∨
      (∃ x y, a.number? = some x ∧ b.number? = some y ∧ (x == y) = true) ∨
      a.number? = none ∧ a.same b = true := by
  cases a with
  | int n =>
    cases b with
    | int m =>
      obtain rfl : n = m := beq_iff_eq.mp equal
      exact .inl ⟨n, rfl, rfl⟩
    | float y => exact .inr (.inl ⟨_, _, rfl, rfl, equal⟩)
    | _ => cases equal
  | float x =>
    cases b with
    | int m => exact .inr (.inl ⟨_, _, rfl, rfl, equal⟩)
    | float y => exact .inr (.inl ⟨_, _, rfl, rfl, equal⟩)
    | _ => cases equal
  | _ => exact .inr (.inr ⟨rfl, by simpa [looseEq, number?] using equal⟩)

/-- Equal values that are no numbers have the same numeric view. -/
theorem asFloat?_eq_of_same {a b : Value} (noNumber : a.number? = none) (equal : a.same b = true) :
    b.asFloat? = a.asFloat? := by
  cases a with
  | int n => cases noNumber
  | float x => cases noNumber
  | bool c =>
    cases b with
    | bool d => rw [beq_iff_eq.mp (show (c == d) = true from equal)]
    | _ => cases equal
  | string s =>
    cases b with
    | string t => rw [beq_iff_eq.mp (show (s == t) = true from equal)]
    | _ => cases equal
  | _ =>
    cases b with
    | null => rfl
    | array bs => rfl
    | map bs => rfl
    | _ => cases equal

/-- The numeric view of what is no number itself is a number, unless a text spells that it is none. -/
theorem isNaN_of_asFloat? {a : Value} {x : Float} (noNumber : a.number? = none)
    (number : a.spellsNaN = false) (view : a.asFloat? = some x) : x.isNaN = false := by
  cases a with
  | bool c =>
    obtain rfl := Option.some.inj view
    cases c <;> decide +kernel
  | string s =>
    have any : (Value.string s).asFloat?.any Float.isNaN = false := number
    rwa [view] at any
  | int n => cases noNumber
  | float y => cases noNumber
  | _ => cases view

/-- **The order of equal values is that of equality**: by their numeric views if they have any, which are
equal then, and otherwise by their texts. -/
theorem operandOrder?_of_looseEq {a b : Value} (equal : a.looseEq b = true)
    (number : a.spellsNaN = false) (texts : a.same b = true → a.text = b.text) :
    operandOrder? a b = some .eq := by
  rcases looseEq_cases equal with ⟨n, rfl, rfl⟩ | ⟨x, y, view, view', same⟩ | ⟨noNumber, same⟩
  · exact (Integer.compareFloats?_toFloat n n).trans (congrArg some (Int.compare_eq_eq.mpr rfl))
  · unfold operandOrder?
    rw [asFloat?_of_number? view, asFloat?_of_number? view']
    exact (compareFloats?_eq_eq_iff x y).mpr same
  · unfold operandOrder?
    rw [asFloat?_eq_of_same noNumber same]
    cases view : a.asFloat? with
    | none =>
      rw [texts same]
      exact congrArg some Std.ReflCmp.compare_self
    | some x => exact compareFloats?_self (isNaN_of_asFloat? noNumber number view)

/-! ### Expressions -/

section Expressions

variable {extensions : Extensions} {scope : Scope}

/-- **What the comparisons say of each other.** A value is less than another one if that is greater, and the
same with equality. Equal values are neither less nor greater, if their maps are in the same order or their
texts are the same anyway, unless they spell what is not a number. -/
theorem eval_comparisons {a b : Value} {left right : Expr}
    (first : evalExpr extensions scope left = .ok a)
    (second : evalExpr extensions scope right = .ok b) :
    (∃ less, evalExpr extensions scope (.compare .lt left right) = .ok (.bool less) ∧
      evalExpr extensions scope (.compare .gt right left) = .ok (.bool less)) ∧
    (∃ lessEq, evalExpr extensions scope (.compare .le left right) = .ok (.bool lessEq) ∧
      evalExpr extensions scope (.compare .ge right left) = .ok (.bool lessEq)) ∧
    (a.Distinct → evalExpr extensions scope (.compare .eq left right) = .ok (.bool true) →
      a.spellsNaN = false → a.sameOrder b = true ∨ a.text = b.text →
      evalExpr extensions scope (.compare .lt left right) = .ok (.bool false) ∧
      evalExpr extensions scope (.compare .gt left right) = .ok (.bool false) ∧
      evalExpr extensions scope (.compare .le left right) = .ok (.bool true) ∧
      evalExpr extensions scope (.compare .ge left right) = .ok (.bool true)) := by
  simp only [evalExpr_compare first second, evalExpr_compare second first]
  refine ⟨⟨_, rfl, ?_⟩, ⟨_, rfl, ?_⟩, fun distinct equal number alike => ?_⟩
  · rw [compareValues_gt]
  · rw [compareValues_ge]
  · have same : a.looseEq b = true := Value.bool.inj (Except.ok.inj equal)
    have order := operandOrder?_of_looseEq same number fun same =>
      alike.elim (readsAlike_of_distinct distinct b same) id
    unfold compareValues
    rw [order]
    exact ⟨rfl, rfl, rfl, rfl⟩

end Expressions

/-- Lists that are equal although they hold different zeros, with maps in the same order and a text that
spells what is not a number inside. -/
theorem eval_comparisons_of_zeros :
    let zero := Expr.literal (.array [.map [("x", .float 0.0), ("y", .string "nan")]])
    let minusZero := Expr.literal (.array [.map [("x", .float (-0.0)), ("y", .string "nan")]])
    evalExpr .none ⟨[]⟩ (.compare .eq zero minusZero) = .ok (.bool true) ∧
      evalExpr .none ⟨[]⟩ (.compare .lt zero minusZero) = .ok (.bool false) ∧
      evalExpr .none ⟨[]⟩ (.compare .gt zero minusZero) = .ok (.bool false) ∧
      evalExpr .none ⟨[]⟩ (.compare .le zero minusZero) = .ok (.bool true) ∧
      evalExpr .none ⟨[]⟩ (.compare .ge zero minusZero) = .ok (.bool true) := by
  intro zero minusZero
  have first : evalExpr .none ⟨[]⟩ zero =
      .ok (.array [.map [("x", .float 0.0), ("y", .string "nan")]]) := rfl
  have second : evalExpr .none ⟨[]⟩ minusZero =
      .ok (.array [.map [("x", .float (-0.0)), ("y", .string "nan")]]) := rfl
  have distinct : (Value.array [.map [("x", .float 0.0), ("y", .string "nan")]]).Distinct := by
    refine .array fun item member => ?_
    obtain rfl := List.mem_singleton.mp member
    refine .map (by decide) ?_
    simp only [List.mem_cons, List.not_mem_nil, or_false, forall_eq_or_imp, forall_eq]
    exact ⟨.float 0.0, .string "nan"⟩
  have equal : evalExpr .none ⟨[]⟩ (.compare .eq zero minusZero) = .ok (.bool true) := by
    have same : compareValues .eq (.array [.map [("x", .float 0.0), ("y", .string "nan")]])
        (.array [.map [("x", .float (-0.0)), ("y", .string "nan")]]) = true := by decide +kernel
    rw [evalExpr_compare first second, same]
  exact ⟨equal, (eval_comparisons first second).2.2 distinct equal rfl (.inl rfl)⟩

/-- **Equal maps in different orders are in the order of their texts, and a text that spells what is not a
number is in no order with itself**, although it equals itself. -/
theorem ordered_although_equal :
    let scope := Scope.ofContext (Context.ofList [("a", .map [("x", .int 1), ("y", .int 2)]),
      ("b", .map [("y", .int 2), ("x", .int 1)]), ("s", .string "nan")])
    evalExpr .none scope (.compare .eq (.name "a") (.name "b")) = .ok (.bool true) ∧
      evalExpr .none scope (.compare .lt (.name "a") (.name "b")) = .ok (.bool true) ∧
      evalExpr .none scope (.compare .eq (.name "s") (.name "s")) = .ok (.bool true) ∧
      evalExpr .none scope (.compare .le (.name "s") (.name "s")) = .ok (.bool false) := by
  have unordered : compareValues .le (.string "nan") (.string "nan") = false := by decide +kernel
  exact ⟨rfl, rfl, rfl, congrArg (Except.ok ∘ Value.bool) unordered⟩

end TextTemplate
