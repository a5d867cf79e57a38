/-
**What a document says about a value.**

A document that is read into a tree has the members of every object sorted by name, and one of each
name. Whichever of them a value is made of, it has the same kinds, the same numbers and the same names.

* `Value.Denotes`: **what a document says about a value**: words are integers, all other numbers are
  floats, and of a repeated name the last member counts;
* `Json.find?_canonicalMembers`: a sorted object has the last member of each name;
* `denotes_ofJson`: a document denotes its value;
* `denotes_ofTree`: **a document denotes the value of its sorted form.**
-/

import TextTemplate.Proofs.Bindings
import TextTemplate.Proofs.Numbers.Arithmetic
import TextTemplate.Proofs.Values.TextOrder
import TextTemplate.Value.Json

namespace TextTemplate

/-! ### Induction over documents -/

/-- What holds of an array or an object wherever it holds of its parts, and of all other documents,
holds of every document. -/
theorem Json.induct {motive : Json → Prop} (null : motive .null) (bool : ∀ b, motive (.bool b))
    (int : ∀ n, motive (.int n)) (float : ∀ x, motive (.float x)) (string : ∀ s, motive (.string s))
    (array : ∀ items, (∀ item ∈ items, motive item) → motive (.array items))
    (object : ∀ members, (∀ member ∈ members, motive member.2) → motive (.object members)) :
    ∀ document, motive document
  | .null => null
  | .bool b => bool b
  | .int n => int n
  | .float x => float x
  | .string s => string s
  | .array items =>
    array items fun item _ => induct null bool int float string array object item
  | .object members =>
    object members fun member _ => induct null bool int float string array object member.2
termination_by document => sizeOf document
decreasing_by
  · rename_i member
    have smaller := List.sizeOf_lt_of_mem member
    simp only [Json.array.sizeOf_spec]
    omega
  · rename_i within
    have smaller := List.sizeOf_lt_of_mem within
    obtain ⟨name, value⟩ := member
    simp only [Json.object.sizeOf_spec, Prod.mk.sizeOf_spec] at smaller ⊢
    omega

/-! ### The members of an object -/

namespace Json

variable {name : String} {members : List (String × Json)}

/-- Of the members of a name the last one counts, and so the first only if no other follows. -/
theorem member?_cons (name first : String) (member : Json) (members : List (String × Json)) :
    member? name (.object ((first, member) :: members)) =
      (member? name (.object members)).or (if first = name then some member else none) := by
  simp only [member?, List.reverse_cons, List.find?_append, Option.map_or]
  congr 1
  by_cases same : first = name
  · simp [same]
  · simp [same]

theorem member?_mem {member : Json} (found : member? name (.object members) = some member) :
    (name, member) ∈ members := by
  obtain ⟨⟨other, value⟩, last, rfl⟩ := Option.map_eq_some_iff.mp found
  obtain rfl : other = name := by simpa using List.find?_some last
  exact List.mem_reverse.mp (List.mem_of_find?_eq_some last)

/-- An inserted member takes the place of the one of its name. -/
theorem find?_insertSorted (name other : String) (value : Json) (sorted : List (String × Json)) :
    Bindings.find? other (insertSorted name value sorted) =
      if name = other then some value else Bindings.find? other sorted := by
  induction sorted with
  | nil => rfl
  | cons entry rest ih =>
    obtain ⟨first, old⟩ := entry
    rw [insertSorted]
    split
    · rfl
    · rename_i same
      obtain rfl : name = first := String.toList_inj.mp (Std.LawfulEqCmp.eq_of_compare same)
      rw [Bindings.find?, Bindings.find?]
      split
      · rfl
      · rfl
    · rename_i greater
      rw [Bindings.find?, Bindings.find?, ih]
      by_cases asked : first = other
      · have different : name ≠ other := by
          rintro rfl
          rw [asked, Text.order_self] at greater
          cases greater
        rw [if_pos asked, if_neg different]
        exact (if_pos asked).symm
      · rw [if_neg asked, if_neg asked]

/-- **A sorted object has the last member of each name**, with its own objects sorted. -/
theorem find?_canonicalMembers (name : String) (members sorted : List (String × Json)) :
    Bindings.find? name (canonicalMembers members sorted) =
      ((member? name (.object members)).map canonical).or (Bindings.find? name sorted) := by
  induction members generalizing sorted with
  | nil => rfl
  | cons entry members ih =>
    obtain ⟨first, member⟩ := entry
    rw [canonicalMembers, ih, find?_insertSorted, member?_cons]
    cases member? name (.object members) with
    | some later => rfl
    | none =>
      by_cases same : first = name
      · rw [if_pos same, if_pos same]
        rfl
      · rw [if_neg same, if_neg same]
        rfl

/-- **Members in the order of their names**, all of which are different. -/
def Sorted (members : List (String × Json)) : Prop :=
  members.Pairwise fun a b => Text.order a.1.toList b.1.toList = .lt

theorem Sorted.nodup (sorted : Sorted members) : (members.map Prod.fst).Nodup := by
  refine List.pairwise_map.mpr (sorted.imp fun {a b} less same => ?_)
  rw [same, Text.order_self] at less
  cases less

/-- The members after an insertion are those before it and the inserted one. -/
theorem mem_insertSorted {value : Json} {entry : String × Json}
    (member : entry ∈ insertSorted name value members) : entry = (name, value) ∨ entry ∈ members := by
  induction members with
  | nil => exact Or.inl (List.mem_singleton.mp member)
  | cons first rest ih =>
    obtain ⟨other, old⟩ := first
    rw [insertSorted] at member
    split at member
    · exact List.mem_cons.mp member
    · exact (List.mem_cons.mp member).imp_right (List.mem_cons_of_mem _)
    · rcases List.mem_cons.mp member with isFirst | later
      · exact Or.inr (isFirst ▸ List.mem_cons_self)
      · exact (ih later).imp_right (List.mem_cons_of_mem _)

/-- An insertion keeps the order. -/
theorem Sorted.insertSorted (sorted : Sorted members) (name : String) (value : Json) :
    Sorted (insertSorted name value members) := by
  induction members with
  | nil => exact List.pairwise_singleton _ _
  | cons entry rest ih =>
    obtain ⟨other, old⟩ := entry
    obtain ⟨least, sorted'⟩ := List.pairwise_cons.mp sorted
    rw [Json.insertSorted]
    split
    · rename_i less
      refine List.pairwise_cons.mpr ⟨fun entry member => ?_, sorted⟩
      rcases List.mem_cons.mp member with isFirst | later
      · rw [isFirst]
        exact less
      · exact Text.order_trans less (least entry later)
    · rename_i same
      obtain rfl : name = other := String.toList_inj.mp (Std.LawfulEqCmp.eq_of_compare same)
      exact List.pairwise_cons.mpr ⟨least, sorted'⟩
    · rename_i greater
      refine List.pairwise_cons.mpr ⟨fun entry member => ?_, ih sorted'⟩
      rcases mem_insertSorted member with inserted | later
      · rw [inserted, Text.order_swap, greater]
        rfl
      · exact least entry later

theorem sorted_canonicalMembers (members : List (String × Json)) {sorted : List (String × Json)}
    (before : Sorted sorted) : Sorted (canonicalMembers members sorted) := by
  induction members generalizing sorted with
  | nil => exact before
  | cons entry members ih => exact ih (before.insertSorted entry.1 (canonical entry.2))

end Json

/-! ### What a document denotes -/

namespace Value

/-- **What a document says about a value.** An integer that is a word stays one, and every other number
is a float. A map has the names of the members of an object, each once and with the last member of the
name. -/
inductive Denotes : Json → Value → Prop
  | null : Denotes .null .null
  | bool (b : Bool) : Denotes (.bool b) (.bool b)
  | word (n : Int64) : Denotes (.int n.toInt) (.int n)
  | large {n : Int} (large : ¬ Integer.Fits n) : Denotes (.int n) (.float (floatOfInt n))
  | float (x : Float) : Denotes (.float x) (.float x)
  | string (s : String) : Denotes (.string s) (.string s)
  | array {items : List Json} {values : List Value} (length : items.length = values.length)
      (each : ∀ (i : Nat) item value, items[i]? = some item → values[i]? = some value →
        Denotes item value) :
    Denotes (.array items) (.array values)
  | object {members : List (String × Json)} {entries : Bindings Value}
      (distinct : (entries.map Prod.fst).Nodup)
      (names : ∀ name, (Bindings.find? name entries).isSome =
        (Json.member? name (.object members)).isSome)
      (last : ∀ name member value, Json.member? name (.object members) = some member →
        Bindings.find? name entries = some value → Denotes member value) :
    Denotes (.object members) (.map entries)

theorem denotes_ofJsonInteger (n : Int) : Denotes (.int n) (ofJsonInteger n) := by
  unfold ofJsonInteger
  split
  · rename_i word given
    obtain rfl := Integer.toInt_of_checked? given
    exact .word word
  · rename_i missing
    exact .large (Integer.checked?_eq_none_iff.mp missing)

variable {f : Json → Value} {items : List Json} {members : List (String × Json)}

/-- Values of the elements, one after the other. -/
theorem denotes_map (each : ∀ item ∈ items, Denotes item (f item)) :
    Denotes (.array items) (.array (items.map f)) := by
  refine .array (List.length_map f).symm fun i item value found found' => ?_
  rw [List.getElem?_map, found] at found'
  cases found'
  exact each item (List.mem_of_getElem? found)

/-- Values that are found where the last members are. -/
theorem denotes_of_find? {entries : Bindings Value} (distinct : (entries.map Prod.fst).Nodup)
    (found : ∀ name, Bindings.find? name entries = (Json.member? name (.object members)).map f)
    (each : ∀ member ∈ members, Denotes member.2 (f member.2)) :
    Denotes (.object members) (.map entries) := by
  refine .object distinct (fun name => ?_) fun name member value last found' => ?_
  · rw [found, Option.isSome_map]
  · rw [found, last] at found'
    cases found'
    exact each (name, member) (Json.member?_mem last)

theorem ofJsonItems_eq_map (items : List Json) : ofJsonItems items = items.map ofJson := by
  induction items with
  | nil => rfl
  | cons item items ih => rw [ofJsonItems, ih, List.map_cons]

theorem ofJsonMembers_eq_map (members : List (String × Json)) :
    ofJsonMembers members = members.map fun member => (member.1, ofJson member.2) := by
  induction members with
  | nil => rfl
  | cons member members ih =>
    obtain ⟨name, member⟩ := member
    rw [ofJsonMembers, ih, List.map_cons]

theorem ofTreeItems_canonicalItems (items : List Json) :
    ofTreeItems (Json.canonicalItems items) = items.map fun item => ofTree item.canonical := by
  induction items with
  | nil => rfl
  | cons item items ih => rw [Json.canonicalItems, ofTreeItems, ih, List.map_cons]

theorem ofTreeMembers_eq_map (members : List (String × Json)) :
    ofTreeMembers members = members.map fun member => (member.1, ofTree member.2) := by
  induction members with
  | nil => rfl
  | cons member members ih =>
    obtain ⟨name, member⟩ := member
    rw [ofTreeMembers, ih, List.map_cons]

/-- **A document denotes its value.** -/
theorem denotes_ofJson (document : Json) : Denotes document (ofJson document) := by
  induction document using Json.induct with
  | null => exact .null
  | bool b => exact .bool b
  | int n => exact denotes_ofJsonInteger n
  | float x => exact .float x
  | string s => exact .string s
  | array items each =>
    rw [ofJson, ofJsonItems_eq_map]
    exact denotes_map each
  | object members each =>
    rw [ofJson, ofJsonMembers_eq_map]
    refine denotes_of_find? (Bindings.nodup_ofList _) (fun name => ?_) each
    rw [Bindings.find?_ofList, ← List.map_reverse, List.find?_map, Json.member?, Option.map_map,
      Option.map_map]
    rfl

/-- **A document denotes the value of its sorted form.** -/
theorem denotes_ofTree (document : Json) : Denotes document (ofTree document.canonical) := by
  induction document using Json.induct with
  | null => exact .null
  | bool b => exact .bool b
  | int n => exact denotes_ofJsonInteger n
  | float x => exact .float x
  | string s => exact .string s
  | array items each =>
    rw [Json.canonical, ofTree, ofTreeItems_canonicalItems]
    exact denotes_map each
  | object members each =>
    have sorted : Json.Sorted (Json.canonicalMembers members []) :=
      Json.sorted_canonicalMembers members List.Pairwise.nil
    rw [Json.canonical, ofTree, ofTreeMembers_eq_map]
    refine denotes_of_find? (f := fun member => ofTree member.canonical) ?_ (fun name => ?_) each
    · rw [List.map_map]
      exact sorted.nodup
    · rw [Bindings.find?_map (fun _ => ofTree), Json.find?_canonicalMembers, Bindings.find?_nil,
        Option.or_none, Option.map_map]
      rfl

end Value
end TextTemplate
