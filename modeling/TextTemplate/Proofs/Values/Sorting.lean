/-
**Sorting values.**

Values are sorted by keys: themselves, members of them, or the names or values of the entries of a map.
An order in which the other way round is the reverse one makes a merge sort stable, also in descending
order, as soon as it is transitive on the keys that occur.

* `SortedStably`: a list holds the elements of another one in order, those with equal keys in the order
  that they had;
* `sortBy_sortedStably`: **sorting by keys is stable**;
* `Value.compare_swap`, `transitiveOn_of_texts`: the order of values, which is transitive on texts;
* `sortKey_dotted`, `EntrySorting.ofArgs_either_order`: what arguments say of the keys;
* `sorts_stably`: **what the filters that sort give**.
-/

import TextTemplate.Filter.Builtin
import TextTemplate.Proofs.Expressions.Paths
import TextTemplate.Proofs.Numbers.FloatOrder
import TextTemplate.Proofs.Values.TextOrder

namespace TextTemplate

open TextTemplate.Filter

/-! ### Sorted lists -/

section Lists

variable {α β : Type} {order : α → α → Ordering} {items sorted : List α}

/-- **An order is transitive on some keys**: two that are in one relation to a third one from the left and
from the right are in that relation themselves. -/
def TransitiveOn (order : α → α → Ordering) (keys : List α) : Prop :=
  ∀ a ∈ keys, ∀ b ∈ keys, ∀ c ∈ keys, ∀ relation : Ordering,
    order a b = relation → order b c = relation → order a c = relation

/-- The relation that no element may have to a later one. -/
def outOfOrder (descending : Bool) : Ordering :=
  if descending then .lt else .gt

/-- **A list is sorted stably**: it holds the elements of another list, none of them before a smaller one, or a
greater one if it is descending, and those that are equal to any of them are in the order that they had. -/
structure SortedStably (order : α → α → Ordering) (descending : Bool) (items sorted : List α) :
    Prop where
  perm : sorted.Perm items
  inOrder : sorted.Pairwise fun a b => order a b ≠ outOfOrder descending
  stable : ∀ a ∈ items, sorted.filter (order a · = .eq) = items.filter (order a · = .eq)

/-- The elements of sorted lists may be replaced by what they are made from. -/
theorem SortedStably.map {f : β → α} {descending : Bool} {items sorted : List β}
    (stably : SortedStably (fun a b => order (f a) (f b)) descending items sorted) :
    SortedStably order descending (items.map f) (sorted.map f) where
  perm := stably.perm.map f
  inOrder := List.pairwise_map.mpr stably.inOrder
  stable := by
    intro a member
    obtain ⟨b, inside, rfl⟩ := List.mem_map.mp member
    rw [List.filter_map, List.filter_map]
    exact congrArg (List.map f) (stably.stable b inside)

/-- Whether an element may stand before another one. -/
def mayPrecede (order : α → α → Ordering) (descending : Bool) (a b : α) : Bool :=
  (if descending then (order a b).swap else order a b).isLE

theorem mayPrecede_iff {descending : Bool} {a b : α} :
    mayPrecede order descending a b = true ↔ order a b ≠ outOfOrder descending := by
  unfold mayPrecede outOfOrder
  cases descending <;> cases order a b <;> decide

section Oriented

variable (oriented : ∀ a b, order b a = (order a b).swap)

include oriented

theorem mayPrecede_total (descending : Bool) (a b : α) :
    (mayPrecede order descending a b || mayPrecede order descending b a) = true := by
  unfold mayPrecede
  rw [oriented a b]
  cases descending <;> cases order a b <;> rfl

/-- **In a transitive order, what may precede is transitive too**: an element out of order with the third one
would be out of order with the second one, or the second one with the third one. -/
theorem TransitiveOn.not_outOfOrder {keys : List α} (transitive : TransitiveOn order keys)
    {descending : Bool} {a b c : α} (inside : a ∈ keys) (inside' : b ∈ keys) (inside'' : c ∈ keys)
    (first : order a b ≠ outOfOrder descending) (second : order b c ≠ outOfOrder descending) :
    order a c ≠ outOfOrder descending := by
  intro wrong
  have back : order c a = (outOfOrder descending).swap := by rw [oriented, wrong]
  have either (relation : Ordering) (other : relation ≠ outOfOrder descending) :
      relation = (outOfOrder descending).swap ∨ relation = .eq := by
    revert other
    cases descending <;> cases relation <;> decide
  rcases either _ first with before | equal
  · have further := transitive c inside'' a inside b inside' _ back before
    exact second (by rw [oriented, further, Ordering.swap_swap])
  · rcases either _ second with before' | equal'
    · have further := transitive b inside' c inside'' a inside _ before' back
      exact first (by rw [oriented, further, Ordering.swap_swap])
    · rw [transitive a inside b inside' c inside'' _ equal equal'] at wrong
      cases descending <;> cases wrong

/-- A merge sort of all the elements that there are is stable. -/
theorem mergeSort_sortedStably_of_all (all : ∀ a, a ∈ items) (transitive : TransitiveOn order items)
    (descending : Bool) :
    SortedStably order descending items (items.mergeSort (mayPrecede order descending)) := by
  have trans (a b c : α) (first : mayPrecede order descending a b = true)
      (second : mayPrecede order descending b c = true) : mayPrecede order descending a c = true :=
    mayPrecede_iff.mpr (transitive.not_outOfOrder oriented (all a) (all b) (all c)
      (mayPrecede_iff.mp first) (mayPrecede_iff.mp second))
  have total := mayPrecede_total oriented descending
  refine ⟨List.mergeSort_perm _ _, (List.pairwise_mergeSort trans total items).imp mayPrecede_iff.mp,
    fun a _ => ?_⟩
  -- what is equal to one element is in order as it stands, so that the sort leaves it in this order
  have inOrder : (items.filter (order a · = .eq)).Pairwise (mayPrecede order descending · ·) := by
    refine List.pairwise_of_forall_mem_list fun b inside c inside' => mayPrecede_iff.mpr ?_
    have equal : order a b = .eq := of_decide_eq_true (List.mem_filter.mp inside).2
    have equal' : order a c = .eq := of_decide_eq_true (List.mem_filter.mp inside').2
    have back : order b a = .eq := by rw [oriented, equal]; rfl
    rw [transitive b (all b) a (all a) c (all c) _ back equal']
    cases descending <;> decide
  have kept := (List.sublist_mergeSort trans total inOrder List.filter_sublist).filter (order a · = .eq)
  rw [List.filter_filter] at kept
  simp only [Bool.and_self] at kept
  exact (kept.eq_of_length ((List.mergeSort_perm _ _).filter _).length_eq.symm).symm

/-- **A merge sort is stable.** -/
theorem mergeSort_sortedStably (transitive : TransitiveOn order items) (descending : Bool) :
    SortedStably order descending items (items.mergeSort (mayPrecede order descending)) := by
  -- the library's sort is about orders that are transitive everywhere, so only the elements are sorted
  let among (a b : { item // item ∈ items }) : Ordering := order a.1 b.1
  have attached : SortedStably among descending items.attach
      (items.attach.mergeSort (mayPrecede among descending)) :=
    mergeSort_sortedStably_of_all (fun a b => oriented a.1 b.1) (List.mem_attach items)
      (fun a _ b _ c _ => transitive a.1 a.2 b.1 b.2 c.1 c.2) descending
  have values := attached.map (f := Subtype.val)
  have forgotten := List.map_mergeSort (r := mayPrecede among descending)
    (s := mayPrecede order descending) (f := Subtype.val) (l := items.attach) fun _ _ _ _ => rfl
  rw [List.attach_map_subtype_val] at forgotten
  rwa [forgotten, List.attach_map_subtype_val] at values

end Oriented

/-- **Sorting by keys is stable**, if the order is transitive on the keys. -/
theorem sortBy_sortedStably {key : β → α} {items : List β} (oriented : ∀ a b, order b a = (order a b).swap)
    (transitive : TransitiveOn order (items.map key)) (descending : Bool) :
    SortedStably (fun a b => order (key a) (key b)) descending items
      (sortBy order descending key items) :=
  mergeSort_sortedStably (fun a b => oriented (key a) (key b))
    (fun _ inside _ inside' _ inside'' => transitive _ (List.mem_map_of_mem inside) _
      (List.mem_map_of_mem inside') _ (List.mem_map_of_mem inside'')) descending

end Lists

/-! ### The order of values -/

theorem compareTexts_swap (caseSensitive : Bool) (a b : Value) :
    Value.compareTexts caseSensitive b a = (Value.compareTexts caseSensitive a b).swap := by
  cases caseSensitive
  · exact Text.order_swap _ _
  · exact Text.order_swap _ _

/-- **The order of values the other way round is the reverse one.** -/
theorem Value.compare_swap (caseSensitive : Bool) (a b : Value) :
    Value.compare caseSensitive b a = (Value.compare caseSensitive a b).swap := by
  have texts := compareTexts_swap caseSensitive a b
  unfold Value.compare
  cases a.number? with
  | none => cases b.number? <;> exact texts
  | some x =>
    cases b.number? with
    | none => exact texts
    | some y =>
      show (compareFloats? y x).getD .eq = ((compareFloats? x y).getD .eq).swap
      rw [compareFloats?_swap]
      cases compareFloats? x y <;> rfl

/-- **The order of values is transitive where there are no numbers**: it is the one of their texts. -/
theorem transitiveOn_of_texts {keys : List Value} (texts : ∀ key ∈ keys, key.number? = none)
    (caseSensitive : Bool) : TransitiveOn (Value.compare caseSensitive) keys := by
  have byText (a : Value) (inside : a ∈ keys) (b : Value) :
      Value.compare caseSensitive a b = Value.compareTexts caseSensitive a b := by
    unfold Value.compare
    rw [texts a inside]
  intro a inside b inside' c _ relation first second
  rw [byText a inside] at first ⊢
  rw [byText b inside'] at second
  cases caseSensitive
  · exact Text.order_trans first second
  · exact Text.order_trans first second

/-! ### The filters -/

/-- What values are sorted by: themselves, or the member at the end of a path. -/
def sortKey (path : Option Text) (item : Value) : Value :=
  match path with
  | some path => lookupPath path item
  | none => item

/-- **A path of names leads from member to member**, and to null where there is none of a name. -/
theorem sortKey_dotted {parts : List Text} (components : AreComponents parts) (item : Value) :
    sortKey (some (['.'].intercalate parts)) item = parts.foldl Value.memberAt item :=
  (lookupPath_intercalate components item).trans (followPath_eq_foldl item parts)

/-- How the entries of a map are sorted. -/
structure EntrySorting where
  caseSensitive : Bool
  byValue : Bool
  descending : Bool

namespace EntrySorting

/-- Whether a text asks for the values of the entries rather than for their names. -/
def asksForValues (what : Text) : Bool :=
  what.map Char.toLower == ['v', 'a', 'l', 'u', 'e']

/-- **What arguments ask for**: whether case matters comes first if it is said by a truth value, and after
what to sort by if not. -/
def ofArgs : List Value → EntrySorting
  | [] => ⟨false, false, false⟩
  | .bool caseSensitive :: rest =>
    ⟨caseSensitive, asksForValues (textArg rest 0 ['k', 'e', 'y']), flagArg rest 1⟩
  | what :: rest => ⟨flagArg rest 0, asksForValues what.text, flagArg rest 1⟩

/-- What an entry is sorted by. -/
def key (sorting : EntrySorting) (entry : String × Value) : Value :=
  if sorting.byValue then entry.2 else .string entry.1

/-- **The first two arguments may come in either order**, as what to sort by is not said by a truth value. -/
theorem ofArgs_either_order {args : List Value} {caseSensitive : Bool} {what reverse : Value}
    (said : ∀ truth, what ≠ .bool truth)
    (order : args = [.bool caseSensitive, what, reverse] ∨ args = [what, .bool caseSensitive, reverse]) :
    ofArgs args = ⟨caseSensitive, asksForValues what.text, reverse.truthy⟩ := by
  rcases order with rfl | rfl
  · rfl
  · cases what with
    | bool truth => exact absurd rfl (said truth)
    | _ => rfl

end EntrySorting

theorem sortedPairs_map (args : List Value) (entries : Bindings Value) :
    let sorting := EntrySorting.ofArgs args
    sortedPairs args (.map entries) =
      .array ((sortBy (Value.compare sorting.caseSensitive) sorting.descending sorting.key entries).map
        fun (name, entry) => .array [.string name, entry]) := by
  cases args with
  | nil => rfl
  | cons what rest => cases what <;> rfl

/-- **What the filters that sort give**, for all values and arguments: what there is to sort, sorted stably, as
long as the order is transitive on what it is sorted by. On names it always is. What entries are sorted by, and
how, is said by three arguments, of which the first two may change places. -/
theorem sorts_stably (value : Value) (entries : Bindings Value) (args : List Value) :
    let path := args[2]?.map Value.text
    let order := Value.compare (flagArg args 1)
    let sorting := EntrySorting.ofArgs args
    let entryOrder := Value.compare sorting.caseSensitive
    (TransitiveOn order (value.items.map (sortKey path)) →
      ∃ sorted, applyBuiltin? "sort" value args = some (.ok (.array sorted)) ∧
        SortedStably (fun a b => order (sortKey path a) (sortKey path b)) (flagArg args 0) value.items
          sorted) ∧
    ((sorting.byValue = true → TransitiveOn entryOrder (entries.map Prod.snd)) →
      ∃ sorted : Bindings Value,
        applyBuiltin? "dictsort" (.map entries) args =
          some (.ok (.array (sorted.map fun (name, entry) => .array [.string name, entry]))) ∧
        SortedStably (fun a b => entryOrder (sorting.key a) (sorting.key b)) sorting.descending entries
          sorted) ∧
    ∀ (caseSensitive : Bool) (what reverse : Value), (∀ truth, what ≠ .bool truth) →
      args = [.bool caseSensitive, what, reverse] ∨ args = [what, .bool caseSensitive, reverse] →
      sorting = ⟨caseSensitive, EntrySorting.asksForValues what.text, reverse.truthy⟩ := by
  intro path order sorting entryOrder
  refine ⟨fun transitive => ⟨sortBy order (flagArg args 0) (sortKey path) value.items, rfl, ?_⟩,
    fun transitive => ⟨sortBy entryOrder sorting.descending sorting.key entries, ?_, ?_⟩,
    fun _ _ _ said either => EntrySorting.ofArgs_either_order said either⟩
  · exact sortBy_sortedStably (Value.compare_swap _) transitive _
  · exact congrArg (some ∘ Except.ok) (sortedPairs_map args entries)
  · refine sortBy_sortedStably (Value.compare_swap _) ?_ _
    cases by_ : sorting.byValue with
    | true =>
      have values : sorting.key = Prod.snd := funext fun entry => if_pos by_
      rw [values]
      exact transitive by_
    | false =>
      refine transitiveOn_of_texts (fun name inside => ?_) _
      obtain ⟨entry, -, rfl⟩ := List.mem_map.mp inside
      rw [EntrySorting.key, by_]
      rfl

/-- Maps sorted backwards by a member, without regard to case, and the entries of a map sorted backwards by
value, asked for in both orders of the arguments. The values `b` and `B` keep their places. -/
theorem sorts_stably_by_letters :
    let item (letter : String) : Value := .map [("n", .string letter)]
    let items := [item "A", item "b", item "a", item "B"]
    let sortedItems := [item "b", item "B", item "A", item "a"]
    let entries : Bindings Value := [("x", .string "A"), ("y", .string "b"), ("z", .string "B")]
    let sortedEntries : Bindings Value := [("y", .string "b"), ("z", .string "B"), ("x", .string "A")]
    (applyBuiltin? "sort" (.array items) [.bool true, .bool false, .string "n"] =
        some (.ok (.array sortedItems)) ∧
      SortedStably (fun a b => Value.compare false (a.memberAt ['n']) (b.memberAt ['n'])) true items
        sortedItems) ∧
    ∀ args ∈ [[.string "Value", .bool false, .bool true], [.bool false, .string "Value", .bool true]],
      applyBuiltin? "dictsort" (.map entries) args =
        some (.ok (.array (sortedEntries.map fun (name, entry) => .array [.string name, entry]))) ∧
      SortedStably (fun a b => Value.compare false a.2 b.2) true entries sortedEntries := by
  intro item items sortedItems entries sortedEntries
  have members : ∀ key ∈ items.map (sortKey (some ['n'])), key.number? = none := by decide +kernel
  have values : ∀ value ∈ entries.map Prod.snd, value.number? = none := by decide +kernel
  constructor
  · have ran : applyBuiltin? "sort" (.array items) [.bool true, .bool false, .string "n"] =
        some (.ok (.array sortedItems)) := by
      show some (Except.ok (Value.array (sortItems true false (some ['n']) items))) = _
      cbv
    have named : AreComponents [['n']] := by
      unfold AreComponents
      decide
    have key (a : Value) : sortKey (some ['n']) a = a.memberAt ['n'] := sortKey_dotted named a
    obtain ⟨sorted, ran', stably⟩ := (sorts_stably (.array items) []
      [.bool true, .bool false, .string "n"]).1 (transitiveOn_of_texts members false)
    obtain rfl : sorted = sortedItems := by simpa using ran'.symm.trans ran
    simp only [← key]
    exact ⟨ran, stably⟩
  · intro args inside
    have ran : applyBuiltin? "dictsort" (.map entries) args =
        some (.ok (.array (sortedEntries.map fun (name, entry) => .array [.string name, entry]))) := by
      show some (Except.ok (sortedPairs args (.map entries))) = _
      rcases List.mem_pair.mp inside with rfl | rfl <;> cbv
    have said : EntrySorting.ofArgs args = ⟨false, true, true⟩ :=
      (sorts_stably .null entries args).2.2 false (.string "Value") (.bool true)
        (fun _ same => Value.noConfusion same) (List.mem_pair.mp inside).symm
    have sorts := (sorts_stably .null entries args).2.1
    rw [said] at sorts
    obtain ⟨sorted, ran', stably⟩ := sorts fun _ => transitiveOn_of_texts values false
    obtain rfl : sorted = sortedEntries := by
      have same := ran'.symm.trans ran
      simp only [Option.some.injEq, Except.ok.injEq, Value.array.injEq] at same
      refine List.map_injective_iff.mpr (fun a b equal => ?_) same
      simpa [Prod.ext_iff] using equal
    exact ⟨ran, stably⟩

end TextTemplate
