/-
**Names that are bound one after the other.**

* `find?_ofList`: of the bindings of a name the last one counts;
* `nodup_ofList`: no name is bound twice;
* `exists_firsts`: the names stand in the order in which each of them was bound first;
* `values_ofList`: binding names keeps some of the values, each once.
-/

import Mathlib.Data.List.Induction
import Mathlib.Data.List.Nodup
import Mathlib.Data.List.Perm.Subperm
import TextTemplate.Bindings

namespace TextTemplate.Bindings

variable {α : Type}

/-! ### Lookups -/

theorem entry_mem_of_find? {name : String} {value : α} {bindings : Bindings α}
    (found : find? name bindings = some value) : (name, value) ∈ bindings := by
  induction bindings with
  | nil => cases found
  | cons entry rest ih =>
    obtain ⟨other, old⟩ := entry
    rw [find?] at found
    split at found
    · rename_i same
      cases found
      exact same ▸ List.mem_cons_self
    · exact List.mem_cons_of_mem _ (ih found)

/-- The names that are listed are those that are found. -/
theorem isSome_find?_iff {name : String} {bindings : Bindings α} :
    (find? name bindings).isSome = true ↔ name ∈ bindings.map Prod.fst := by
  induction bindings with
  | nil => simp
  | cons entry rest ih =>
    obtain ⟨other, old⟩ := entry
    rw [find?, List.map_cons, List.mem_cons]
    by_cases same : other = name
    · simp [same]
    · rw [if_neg same, ih]
      exact (or_iff_right (Ne.symm same)).symm

/-- What a name is bound to in changed bindings. -/
theorem find?_map {β : Type} (change : String → α → β) (name : String) (bindings : Bindings α) :
    find? name (bindings.map fun entry => (entry.1, change entry.1 entry.2)) =
      (find? name bindings).map (change name) := by
  induction bindings with
  | nil => rfl
  | cons entry rest ih =>
    obtain ⟨other, value⟩ := entry
    rw [List.map_cons, find?, find?, ih]
    split
    · rename_i same
      rw [same]
      rfl
    · rfl

theorem ofList_append_singleton (pairs : List (String × α)) (name : String) (value : α) :
    ofList (pairs ++ [(name, value)]) = insert name value (ofList pairs) := by
  rw [ofList, List.foldl_append]
  rfl

/-- Of the bindings of a name the last one counts. -/
theorem find?_ofList (name : String) (pairs : List (String × α)) :
    find? name (ofList pairs) = (pairs.reverse.find? fun pair => pair.1 == name).map Prod.snd := by
  induction pairs using List.reverseRecOn with
  | nil => rfl
  | append_singleton pairs pair ih =>
    obtain ⟨other, value⟩ := pair
    rw [ofList_append_singleton, find?_insert, List.reverse_append, List.reverse_singleton,
      List.singleton_append, List.find?_cons]
    by_cases same : other = name
    · simp [same]
    · rw [if_neg same, ih, beq_eq_false_iff_ne.mpr same]

/-- The bindings of a list have each name with the last value that it is listed with. -/
theorem find?_ofList_eq_some_iff {name : String} {value : α} {pairs : List (String × α)} :
    find? name (ofList pairs) = some value ↔
      ∃ before after, pairs = before ++ (name, value) :: after ∧ ∀ pair ∈ after, pair.1 ≠ name := by
  rw [find?_ofList, Option.map_eq_some_iff]
  constructor
  · rintro ⟨⟨name', _⟩, found, rfl⟩
    obtain ⟨same, behind, ahead, joined, different⟩ := List.find?_eq_some_iff_append.mp found
    obtain rfl : name' = name := by simpa using same
    refine ⟨ahead.reverse, behind.reverse, ?_, fun pair member => ?_⟩
    · rw [← pairs.reverse_reverse, joined]
      simp
    · simpa using different pair (List.mem_reverse.mp member)
  · rintro ⟨before, after, rfl, different⟩
    refine ⟨(name, value), List.find?_eq_some_iff_append.mpr ⟨by simp, after.reverse,
      before.reverse, by simp, fun pair member => ?_⟩, rfl⟩
    simpa using different pair (List.mem_reverse.mp member)

/-! ### Names -/

/-- A new name is bound at the end. -/
theorem insert_of_notMem {name : String} {bindings : Bindings α}
    (new : name ∉ bindings.map Prod.fst) (value : α) :
    insert name value bindings = bindings ++ [(name, value)] := by
  induction bindings with
  | nil => rfl
  | cons entry rest ih =>
    obtain ⟨first, others⟩ := not_or.mp (mt List.mem_cons.mpr new)
    rw [insert, if_neg (Ne.symm first), ih others, List.cons_append]

/-- Names that are all different are bound in their order. -/
theorem ofList_of_nodup {pairs : List (String × α)} (distinct : (pairs.map Prod.fst).Nodup) :
    ofList pairs = pairs := by
  suffices ∀ bindings : Bindings α, (bindings.map Prod.fst ++ pairs.map Prod.fst).Nodup →
      pairs.foldl (fun bindings (name, value) => insert name value bindings) bindings =
        bindings ++ pairs from this [] distinct
  clear distinct
  induction pairs with
  | nil => exact fun bindings _ => (List.append_nil bindings).symm
  | cons pair pairs ih =>
    intro bindings distinct
    obtain ⟨name, value⟩ := pair
    have new : name ∉ bindings.map Prod.fst :=
      fun known => (List.nodup_append.mp distinct).2.2 name known name List.mem_cons_self rfl
    have distinct' : ((bindings ++ [(name, value)]).map Prod.fst ++ pairs.map Prod.fst).Nodup := by
      simpa using distinct
    show pairs.foldl _ (insert name value bindings) = _
    rw [insert_of_notMem new, ih _ distinct', List.append_assoc, List.singleton_append]

/-- A name that is bound again stands among the names once. -/
theorem names_insert (name : String) (value : α) (bindings : Bindings α) :
    (insert name value bindings).map Prod.fst =
      if name ∈ bindings.map Prod.fst then bindings.map Prod.fst
      else bindings.map Prod.fst ++ [name] := by
  split
  · rename_i known
    induction bindings with
    | nil => exact absurd known List.not_mem_nil
    | cons entry rest ih =>
      obtain ⟨other, old⟩ := entry
      rw [insert]
      split
      · rename_i same
        rw [List.map_cons, List.map_cons, same]
      · rename_i different
        have later : name ∈ rest.map Prod.fst :=
          (List.mem_cons.mp known).resolve_left (Ne.symm different)
        rw [List.map_cons, List.map_cons, ih later]
  · rename_i new
    rw [insert_of_notMem new, List.map_append]
    rfl

/-- The names of bindings made one after the other are all different. -/
theorem nodup_ofList (pairs : List (String × α)) : ((ofList pairs).map Prod.fst).Nodup := by
  induction pairs using List.reverseRecOn with
  | nil => exact List.nodup_nil
  | append_singleton pairs pair ih =>
    rw [ofList_append_singleton, names_insert]
    split
    · exact ih
    · rename_i new
      exact ih.append (List.nodup_singleton _) (List.disjoint_singleton.mpr new)

/-- **Names that are bound one after the other stand in the order in which each of them was bound
first.** -/
theorem exists_firsts (pairs : List (String × α)) :
    ∃ firsts : List (String × α), firsts.Sublist pairs ∧
      (ofList pairs).map Prod.fst = firsts.map Prod.fst ∧
      (∀ pair ∈ pairs, pair.1 ∈ firsts.map Prod.fst) ∧
      ∀ first ∈ firsts, ∃ before after, pairs = before ++ first :: after ∧
        ∀ other ∈ before, other.1 ≠ first.1 := by
  -- the last pair makes a difference only if its name is new
  induction pairs using List.reverseRecOn with
  | nil =>
    exact ⟨[], List.Sublist.refl _, rfl, fun pair member => absurd member List.not_mem_nil,
      fun first member => absurd member List.not_mem_nil⟩
  | append_singleton pairs last ih =>
    obtain ⟨firsts, among, names, complete, each⟩ := ih
    have earlier : ∀ first ∈ firsts, ∃ before after, pairs ++ [last] = before ++ first :: after ∧
        ∀ other ∈ before, other.1 ≠ first.1 := by
      intro first member
      obtain ⟨before, after, joined, different⟩ := each first member
      exact ⟨before, after ++ [last], by rw [joined, List.append_assoc, List.cons_append], different⟩
    rw [ofList_append_singleton, names_insert, names]
    split
    · rename_i known
      refine ⟨firsts, among.trans (List.sublist_append_left _ _), rfl, fun pair member => ?_, earlier⟩
      rcases List.mem_append.mp member with before | isLast
      · exact complete pair before
      · rw [List.mem_singleton.mp isLast]
        exact known
    · rename_i new
      refine ⟨firsts ++ [last], among.append (List.Sublist.refl _), ?_, fun pair member => ?_,
        fun first member => ?_⟩
      · rw [List.map_append, List.map_singleton]
      · rw [List.map_append, List.mem_append]
        exact (List.mem_append.mp member).imp (complete pair) List.mem_map_of_mem
      · rcases List.mem_append.mp member with before | isLast
        · exact earlier first before
        · cases List.mem_singleton.mp isLast
          exact ⟨pairs, [], rfl, fun other member' same => new (same ▸ complete other member')⟩

/-! ### Values -/

/-- A binding takes the place of another one of the name, or comes in addition. -/
theorem values_insert (name : String) (value : α) (bindings : Bindings α) :
    ((insert name value bindings).map Prod.snd).Subperm (bindings.map Prod.snd ++ [value]) := by
  induction bindings with
  | nil => exact List.Subperm.refl _
  | cons entry rest ih =>
    obtain ⟨other, old⟩ := entry
    rw [insert]
    split
    · have moved : (value :: rest.map Prod.snd).Perm (rest.map Prod.snd ++ [value]) :=
        (List.perm_append_singleton _ _).symm
      exact moved.subperm.trans (List.sublist_cons_self _ _).subperm
    · exact (List.subperm_cons old).mpr ih

/-- **Binding names one after the other keeps some of the values, each once.** -/
theorem values_ofList (pairs : List (String × α)) :
    ((ofList pairs).map Prod.snd).Subperm (pairs.map Prod.snd) := by
  suffices ∀ bindings : Bindings α,
      ((pairs.foldl (fun bindings (name, value) => insert name value bindings) bindings).map
        Prod.snd).Subperm (bindings.map Prod.snd ++ pairs.map Prod.snd) from this []
  induction pairs with
  | nil =>
    intro bindings
    rw [List.map_nil, List.append_nil]
    exact List.Subperm.refl _
  | cons pair pairs ih =>
    intro bindings
    obtain ⟨name, value⟩ := pair
    refine (ih (insert name value bindings)).trans ?_
    have longer := (List.subperm_append_right (pairs.map Prod.snd)).mpr
      (values_insert name value bindings)
    simpa using longer

/-- What holds between any two values of a list holds between those of its bindings. -/
theorem pairwise_ofList {pairs : List (String × α)} (related : α → α → Prop)
    (symmetric : ∀ {a b}, related a b → related b a)
    (pairwise : pairs.Pairwise fun a b => related a.2 b.2) :
    (ofList pairs).Pairwise fun a b => related a.2 b.2 := by
  obtain ⟨values, same, among⟩ := values_ofList pairs
  have kept : values.Pairwise related := (List.pairwise_map.mpr pairwise).sublist among
  exact List.pairwise_map.mp ((same.pairwise_iff symmetric).mp kept)

theorem mem_of_mem_ofList {pairs : List (String × α)} {entry : String × α}
    (member : entry ∈ ofList pairs) : ∃ name, (name, entry.2) ∈ pairs := by
  have inside := (values_ofList pairs).subset (List.mem_map_of_mem (f := Prod.snd) member)
  obtain ⟨⟨name, value⟩, found, same⟩ := List.mem_map.mp inside
  exact ⟨name, same ▸ found⟩

end TextTemplate.Bindings
