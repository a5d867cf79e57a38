/-
**The parents of a template.**

A template is merged into its parent, the result into the parent that it names in turn, and so on,
until a text names no parent or names one that has been met before.

* `ResolutionEnds`: how the resolution of a template ends, without the bounds of `resolve`, but
  counting how deep includes are nested and how many rounds the parents take;
* `Ascends` and `Reaches`: the names met on the way up, which may repeat;
* `resolve_ends_and_detects_cycles`: **the resolution of a template always ends**, with the error of
  a cycle just where the names met on the way up repeat.
-/

import Mathlib.Data.List.Dedup
import TextTemplate.Inheritance.Extends
import TextTemplate.Proofs.Inheritance.Rounds

namespace TextTemplate

/-! ### The procedure -/

/-- How reading a parent ends: its source may be missing, else its includes are resolved. -/
inductive ParentEnds (loader : Loader) (depth : Nat) (name : String) :
    Except TemplateError Text → Prop
  | unread {error : LoadError} :
    loader.read name = .error error → ParentEnds loader depth name (.error (.load error))
  | read {source : String} {outcome : Except ScanError Text} :
    loader.read name = .ok source → IncludesEnd loader depth [name] source.toList outcome →
      ParentEnds loader depth name (scanned outcome)

/-- **How the way up from a text ends**, with the names in `chain` met so far. It takes at most
`rounds` rounds, one for each text that is looked at. -/
inductive ParentsEnd (loader : Loader) (depth : Nat) :
    (rounds : Nat) → (chain : List String) → Text → Except TemplateError Text → Prop
  | fault {rounds : Nat} {chain : List String} {text : Text} {error : ScanError} :
    firstReference? "extends" text = .error error →
      ParentsEnd loader depth (rounds + 1) chain text (.error (.malformed error))
  | done {rounds : Nat} {chain : List String} {text : Text} :
    firstReference? "extends" text = .ok none →
      ParentsEnd loader depth (rounds + 1) chain text (.ok text)
  /-- The parent has been met before. -/
  | cycle {rounds : Nat} {chain : List String} {text : Text} {tag : Tag} {name : String} :
    firstReference? "extends" text = .ok (some (tag, name)) → name ∈ chain →
      ParentsEnd loader depth (rounds + 1) chain text (.error (.extendsCycle (chain ++ [name])))
  | parentFault {rounds : Nat} {chain : List String} {text : Text} {tag : Tag} {name : String}
      {error : TemplateError} :
    firstReference? "extends" text = .ok (some (tag, name)) → name ∉ chain →
      ParentEnds loader depth name (.error error) →
        ParentsEnd loader depth (rounds + 1) chain text (.error error)
  | mergeFault {rounds : Nat} {chain : List String} {text parent : Text} {tag : Tag} {name : String}
      {error : ScanError} :
    firstReference? "extends" text = .ok (some (tag, name)) → name ∉ chain →
      ParentEnds loader depth name (.ok parent) → mergeBlocks parent text = .error error →
        ParentsEnd loader depth (rounds + 1) chain text (.error (.malformed error))
  | merge {rounds : Nat} {chain : List String} {text parent merged : Text} {tag : Tag} {name : String}
      {outcome : Except TemplateError Text} :
    firstReference? "extends" text = .ok (some (tag, name)) → name ∉ chain →
      ParentEnds loader depth name (.ok parent) → mergeBlocks parent text = .ok merged →
        ParentsEnd loader depth rounds (chain ++ [name]) merged outcome →
          ParentsEnd loader depth (rounds + 1) chain text outcome

/-- **How the resolution of a template ends**: its own includes come first, then its parents. -/
inductive ResolutionEnds (loader : Loader) (depth rounds : Nat) (entry : String) (source : Text) :
    Except TemplateError Text → Prop
  | fault {error : ScanError} :
    IncludesEnd loader depth [entry] source (.error error) →
      ResolutionEnds loader depth rounds entry source (.error (.malformed error))
  | parents {text : Text} {outcome : Except TemplateError Text} :
    IncludesEnd loader depth [entry] source (.ok text) →
      ParentsEnd loader depth rounds [entry] text outcome →
        ResolutionEnds loader depth rounds entry source outcome

/-! ### One round -/

section Round

variable {loader : Loader} {rounds : Nat} {chain : List String} {text : Text}

theorem resolveParents_of_fault {error : ScanError}
    (fault : firstReference? "extends" text = .error error) :
    resolveParents loader (rounds + 1) chain text = .error (.malformed error) := by
  rw [resolveParents, fault]
  rfl

theorem resolveParents_of_none (found : firstReference? "extends" text = .ok none) :
    resolveParents loader (rounds + 1) chain text = .ok text := by
  rw [resolveParents, found]
  rfl

variable {tag : Tag} {name : String}
  (found : firstReference? "extends" text = .ok (some (tag, name)))
include found

theorem resolveParents_of_mem (known : name ∈ chain) :
    resolveParents loader (rounds + 1) chain text = .error (.extendsCycle (chain ++ [name])) := by
  rw [resolveParents, found]
  exact if_pos (List.contains_iff_mem.mpr known)

/-- A round with a parent that is not known yet. -/
theorem resolveParents_of_notMem (unknown : name ∉ chain) :
    resolveParents loader (rounds + 1) chain text = (do
      let parent ← readParent loader name
      let merged ← scanned (mergeBlocks parent text)
      resolveParents loader rounds (chain ++ [name]) merged) := by
  rw [resolveParents, found]
  exact if_neg fun known => unknown (List.contains_iff_mem.mp known)

theorem resolveParents_of_parentFault (unknown : name ∉ chain) {error : TemplateError}
    (fault : readParent loader name = .error error) :
    resolveParents loader (rounds + 1) chain text = .error error := by
  rw [resolveParents_of_notMem found unknown, fault]
  rfl

theorem resolveParents_of_mergeFault (unknown : name ∉ chain) {parent : Text} {error : ScanError}
    (read : readParent loader name = .ok parent) (fault : mergeBlocks parent text = .error error) :
    resolveParents loader (rounds + 1) chain text = .error (.malformed error) := by
  rw [resolveParents_of_notMem found unknown, read]
  show (scanned (mergeBlocks parent text) >>= _) = _
  rw [fault]
  rfl

theorem resolveParents_of_merge (unknown : name ∉ chain) {parent merged : Text}
    (read : readParent loader name = .ok parent) (merges : mergeBlocks parent text = .ok merged) :
    resolveParents loader (rounds + 1) chain text =
      resolveParents loader rounds (chain ++ [name]) merged := by
  rw [resolveParents_of_notMem found unknown, read]
  show (scanned (mergeBlocks parent text) >>= _) = _
  rw [merges]
  rfl

end Round

/-! ### The procedure ends as the bounded one says, and in no other way -/

section Unique

variable {loader : Loader} (finite : loader.Finite)
include finite

theorem ParentEnds.eq_readParent {depth : Nat} {name : String}
    {outcome : Except TemplateError Text} (ends : ParentEnds loader depth name outcome) :
    readParent loader name = outcome := by
  cases ends with
  | unread read =>
    rw [readParent, read]
    rfl
  | read read inner =>
    rw [inner.eq_resolveIncludes finite, readParent, read]
    rfl

theorem ParentsEnd.eq_resolveParents {depth rounds bound : Nat} {chain : List String} {text : Text}
    {outcome : Except TemplateError Text} (ends : ParentsEnd loader depth rounds chain text outcome)
    (enough : rounds ≤ bound) : resolveParents loader bound chain text = outcome := by
  induction ends generalizing bound with
  | fault fault =>
    obtain ⟨bound, rfl⟩ := Nat.exists_eq_add_of_lt enough
    exact resolveParents_of_fault fault
  | done found =>
    obtain ⟨bound, rfl⟩ := Nat.exists_eq_add_of_lt enough
    exact resolveParents_of_none found
  | cycle found known =>
    obtain ⟨bound, rfl⟩ := Nat.exists_eq_add_of_lt enough
    exact resolveParents_of_mem found known
  | parentFault found unknown fault =>
    obtain ⟨bound, rfl⟩ := Nat.exists_eq_add_of_lt enough
    exact resolveParents_of_parentFault found unknown (fault.eq_readParent finite)
  | mergeFault found unknown read fault =>
    obtain ⟨bound, rfl⟩ := Nat.exists_eq_add_of_lt enough
    exact resolveParents_of_mergeFault found unknown (read.eq_readParent finite) fault
  | merge found unknown read merges _ ih =>
    obtain ⟨bound, rfl⟩ := Nat.exists_eq_add_of_lt enough
    rw [resolveParents_of_merge found unknown (read.eq_readParent finite) merges]
    exact ih (by omega)

/-- **The resolution of a template ends in one way at most.** -/
theorem ResolutionEnds.eq_resolve {depth rounds : Nat} {entry : String} {source : Text}
    {outcome : Except TemplateError Text}
    (ends : ResolutionEnds loader depth rounds entry source outcome)
    (enough : rounds ≤ loader.bound + 1) : resolve loader entry source = outcome := by
  cases ends with
  | fault fault =>
    rw [resolve, ← fault.eq_resolveIncludes finite]
    rfl
  | parents inner ends =>
    rw [resolve, ← inner.eq_resolveIncludes finite]
    exact ends.eq_resolveParents finite enough

end Unique

theorem nodup_snoc {names : List String} {name : String} (nodup : names.Nodup)
    (unknown : name ∉ names) : (names ++ [name]).Nodup := by
  rw [← List.concat_eq_append]
  exact nodup.concat unknown

/-- A new parent that can be read continues a chain of parents. -/
theorem Loader.IsChain.snoc {loader : Loader} {entry : String} {parents : List String}
    (chained : loader.IsChain (entry :: parents) parents) {name source : String}
    (unknown : name ∉ entry :: parents) (read : loader.read name = .ok source) :
    loader.IsChain (entry :: (parents ++ [name])) (parents ++ [name]) where
  nodup := nodup_snoc chained.nodup fun member => unknown (List.mem_cons_of_mem _ member)
  seen := fun _ member => List.mem_cons_of_mem _ member
  readable := by
    intro other member
    rcases List.mem_append.mp member with inside | last
    · exact chained.readable other inside
    · rw [List.mem_singleton.mp last]
      exact ⟨source, read⟩

/-- A parent that has been read is one that can be read. -/
theorem exists_source_of_readParent {loader : Loader} {name : String} {parent : Text}
    (ok : readParent loader name = .ok parent) : ∃ source, loader.read name = .ok source := by
  rcases read : loader.read name with error | source
  · rw [readParent, read] at ok
    cases ok
  · exact ⟨source, rfl⟩

section Ends

variable {loader : Loader} {names : List String}
  (complete : ∀ name source, loader.read name = .ok source → name ∈ names)
  (fewer : names.length < loader.bound)
include complete fewer

theorem parentEnds_readParent (name : String) :
    ParentEnds loader (names.length + 1) name (readParent loader name) := by
  rcases read : loader.read name with error | source
  · rw [readParent, read]
    exact ParentEnds.unread read
  · have value : readParent loader name = scanned (resolveIncludes loader [name] source.toList) := by
      rw [readParent, read]
      rfl
    rw [value]
    exact ParentEnds.read read (includesEnd_resolveIncludes complete fewer [name] source.toList)

/-- **The rounds are never used up**: the parents met are all different and can be read, so there are
no more of them than names that can be read. -/
theorem parentsEnd_resolveParents {entry : String} {parents : List String}
    (chained : loader.IsChain (entry :: parents) parents) {bound : Nat}
    (enough : names.length < parents.length + bound) (text : Text) :
    ParentsEnd loader (names.length + 1) (names.length + 1 - parents.length) (entry :: parents) text
      (resolveParents loader bound (entry :: parents) text) := by
  induction bound generalizing parents text with
  | zero => exact absurd (chained.length_le complete) (Nat.not_le.mpr enough)
  | succ bound ih =>
    have short := chained.length_le complete
    rw [show names.length + 1 - parents.length = names.length - parents.length + 1 by omega]
    rcases found : firstReference? "extends" text with error | _ | ⟨tag, name⟩
    · rw [resolveParents_of_fault found]
      exact ParentsEnd.fault found
    · rw [resolveParents_of_none found]
      exact ParentsEnd.done found
    · by_cases known : name ∈ entry :: parents
      · rw [resolveParents_of_mem found known]
        exact ParentsEnd.cycle found known
      · have inner := parentEnds_readParent complete fewer name
        rcases read : readParent loader name with error | parent
        · rw [resolveParents_of_parentFault found known read]
          rw [read] at inner
          exact ParentsEnd.parentFault found known inner
        · rw [read] at inner
          rcases merges : mergeBlocks parent text with error | merged
          · rw [resolveParents_of_mergeFault found known read merges]
            exact ParentsEnd.mergeFault found known inner merges
          · obtain ⟨source, loaded⟩ := exists_source_of_readParent read
            have longer := chained.snoc known loaded
            have later := ih longer (by rw [List.length_append, List.length_singleton]; omega) merged
            rw [List.length_append, List.length_singleton,
              show names.length + 1 - (parents.length + 1) = names.length - parents.length by omega]
              at later
            rw [resolveParents_of_merge found known read merges]
            exact ParentsEnd.merge found known inner merges later

/-- **The resolution of a template ends**, with includes nested no deeper than there are names that
can be read and once more, and in as many rounds at most. -/
theorem resolutionEnds_resolve (entry : String) (source : Text) :
    ResolutionEnds loader (names.length + 1) (names.length + 1) entry source
      (resolve loader entry source) := by
  have inner := includesEnd_resolveIncludes complete fewer [entry] source
  rcases resolved : resolveIncludes loader [entry] source with error | text
  · rw [resolved] at inner
    rw [resolve, resolved]
    exact ResolutionEnds.fault inner
  · rw [resolved] at inner
    have start : loader.IsChain [entry] [] :=
      ⟨List.nodup_nil, fun name member => absurd member List.not_mem_nil,
        fun name member => absurd member List.not_mem_nil⟩
    have value : resolve loader entry source =
        resolveParents loader (loader.bound + 1) [entry] text := by
      rw [resolve, resolved]
      rfl
    rw [value]
    exact ResolutionEnds.parents inner
      (parentsEnd_resolveParents complete fewer start (by rw [List.length_nil]; omega) text)

end Ends

/-! ### The way up -/

/-- **The way up from a template**: the names met, from the template on, and the text that the
template has become by then. Names may repeat. -/
inductive Ascends (loader : Loader) (entry : String) (source : Text) : List String → Text → Prop
  | entry {text : Text} :
    resolveIncludes loader [entry] source = .ok text → Ascends loader entry source [entry] text
  | parent {names : List String} {text parent merged : Text} {tag : Tag} {name : String} :
    Ascends loader entry source names text →
      firstReference? "extends" text = .ok (some (tag, name)) →
        readParent loader name = .ok parent → mergeBlocks parent text = .ok merged →
          Ascends loader entry source (names ++ [name]) merged

/-- The text reached by way of some names extends the template of a further name. -/
def Reaches (loader : Loader) (entry : String) (source : Text) (names : List String)
    (name : String) : Prop :=
  ∃ text tag, Ascends loader entry source names text ∧
    firstReference? "extends" text = .ok (some (tag, name))

/-- **What an error of the resolution means**: tags that do not match, a name that is met again on
the way up, or the name of a parent that cannot be read. -/
inductive Explains (loader : Loader) (entry : String) (source : Text) : TemplateError → Prop
  | malformed (error : ScanError) : Explains loader entry source (.malformed error)
  | cycle {names : List String} {name : String} :
    Reaches loader entry source names name → names.Nodup → name ∈ names →
      Explains loader entry source (.extendsCycle (names ++ [name]))
  | missing {names : List String} {name : String} {error : LoadError} :
    Reaches loader entry source names name → name ∉ names → loader.read name = .error error →
      Explains loader entry source (.load error)

section Ascent

variable {loader : Loader} {entry : String} {source : Text} {names : List String} {text : Text}

/-- The way up begins with the template, and the names after it can be read. -/
theorem Ascends.exists_parents (ascends : Ascends loader entry source names text) :
    ∃ parents, names = entry :: parents ∧
      ∀ name ∈ parents, ∃ source, loader.read name = .ok source := by
  induction ascends with
  | entry => exact ⟨[], rfl, fun name member => absurd member List.not_mem_nil⟩
  | @parent names text parent merged tag name _ _ read _ ih =>
    obtain ⟨parents, rfl, readable⟩ := ih
    refine ⟨parents ++ [name], rfl, fun other member => ?_⟩
    rcases List.mem_append.mp member with inside | last
    · exact readable other inside
    · rw [List.mem_singleton.mp last]
      exact exists_source_of_readParent read

/-- Names that repeat do so for a first time. -/
theorem Ascends.nodup_or_repeats (ascends : Ascends loader entry source names text) :
    names.Nodup ∨
      ∃ names name, names.Nodup ∧ name ∈ names ∧ Reaches loader entry source names name := by
  induction ascends with
  | entry => exact Or.inl (List.nodup_singleton entry)
  | @parent names text parent merged tag name ascends found _ _ ih =>
    rcases ih with nodup | repeats
    · by_cases known : name ∈ names
      · exact Or.inr ⟨names, name, nodup, known, text, tag, ascends, found⟩
      · exact Or.inl (nodup_snoc nodup known)
    · exact Or.inr repeats

/-- **The resolution passes through every text on the way up**, as long as no name repeats. -/
theorem Ascends.resolve_eq (ascends : Ascends loader entry source names text) (nodup : names.Nodup)
    (finite : loader.Finite) :
    ∃ rounds, resolve loader entry source = resolveParents loader (rounds + 1) names text := by
  -- a round is left after each one, since the parents are all different
  have fewer : ∀ {names text}, Ascends loader entry source names text → names.Nodup →
      names.length ≤ loader.bound := by
    intro names text ascends nodup
    obtain ⟨parents, rfl, readable⟩ := ascends.exists_parents
    have chained : loader.IsChain parents parents :=
      ⟨nodup.of_cons, fun _ member => member, readable⟩
    exact chained.length_lt finite
  have passes : ∃ rounds, rounds + names.length = loader.bound + 2 ∧
      resolve loader entry source = resolveParents loader rounds names text := by
    induction ascends with
    | entry resolved =>
      refine ⟨loader.bound + 1, rfl, ?_⟩
      rw [resolve, resolved]
      rfl
    | @parent names text parent merged tag name ascends found read merges ih =>
      obtain ⟨before, -, apart⟩ := List.nodup_append.mp nodup
      have unknown : name ∉ names := fun known => apart name known name List.mem_cons_self rfl
      obtain ⟨rounds, count, same⟩ := ih before
      have short := fewer ascends before
      obtain ⟨rounds, rfl⟩ : ∃ less, rounds = less + 1 := ⟨rounds - 1, by omega⟩
      refine ⟨rounds, ?_, ?_⟩
      · rw [List.length_append, List.length_singleton]
        omega
      · rw [same, resolveParents_of_merge found unknown read merges]
  obtain ⟨rounds, count, same⟩ := passes
  have short := fewer ascends nodup
  obtain ⟨rounds, rfl⟩ : ∃ less, rounds = less + 1 := ⟨rounds - 1, by omega⟩
  exact ⟨rounds, same⟩

/-- A name that is met again is the error of a cycle. -/
theorem resolve_of_repeats {name : String} (reaches : Reaches loader entry source names name)
    (nodup : names.Nodup) (known : name ∈ names) (finite : loader.Finite) :
    resolve loader entry source = .error (.extendsCycle (names ++ [name])) := by
  obtain ⟨text, tag, ascends, found⟩ := reaches
  obtain ⟨rounds, same⟩ := ascends.resolve_eq nodup finite
  rw [same, resolveParents_of_mem found known]

/-- An error of reading a parent is no cycle; where the source is missing, it says so. -/
theorem readParent_eq_error {name : String} {error : TemplateError}
    (fault : readParent loader name = .error error) :
    (∃ missing, error = .load missing ∧ loader.read name = .error missing) ∨
      ∃ malformed, error = .malformed malformed := by
  rcases read : loader.read name with missing | source
  · rw [readParent, read] at fault
    cases fault
    exact Or.inl ⟨missing, rfl, rfl⟩
  · rw [readParent, read] at fault
    rcases resolved : resolveIncludes loader [name] source.toList with malformed | text
    · have same : scanned (resolveIncludes loader [name] source.toList) = .error error := fault
      rw [resolved] at same
      cases same
      exact Or.inr ⟨malformed, rfl⟩
    · have same : scanned (resolveIncludes loader [name] source.toList) = .error error := fault
      rw [resolved] at same
      cases same

theorem Ascends.explains (ascends : Ascends loader entry source names text)
    (nodup : names.Nodup) {rounds : Nat} {error : TemplateError}
    (fault : resolveParents loader rounds names text = .error error) :
    Explains loader entry source error := by
  induction rounds generalizing names text with
  | zero => cases fault
  | succ rounds ih =>
    rcases found : firstReference? "extends" text with malformed | _ | ⟨tag, name⟩
    · rw [resolveParents_of_fault found] at fault
      cases fault
      exact Explains.malformed malformed
    · rw [resolveParents_of_none found] at fault
      cases fault
    · have reaches : Reaches loader entry source names name := ⟨text, tag, ascends, found⟩
      by_cases known : name ∈ names
      · rw [resolveParents_of_mem found known] at fault
        cases fault
        exact Explains.cycle reaches nodup known
      · rcases read : readParent loader name with error' | parent
        · rw [resolveParents_of_parentFault found known read] at fault
          cases fault
          rcases readParent_eq_error read with ⟨missing, rfl, unread⟩ | ⟨malformed, rfl⟩
          · exact Explains.missing reaches known unread
          · exact Explains.malformed malformed
        · rcases merges : mergeBlocks parent text with malformed | merged
          · rw [resolveParents_of_mergeFault found known read merges] at fault
            cases fault
            exact Explains.malformed malformed
          · rw [resolveParents_of_merge found known read merges] at fault
            exact ih (ascends.parent found read merges)
              (nodup_snoc nodup known) fault

/-- **Every error of the resolution has its explanation.** -/
theorem explains_of_resolve_eq_error {error : TemplateError}
    (fault : resolve loader entry source = .error error) :
    Explains loader entry source error := by
  rcases resolved : resolveIncludes loader [entry] source with malformed | text
  · rw [resolve, resolved] at fault
    cases fault
    exact Explains.malformed malformed
  · rw [resolve, resolved] at fault
    exact (Ascends.entry resolved).explains (List.nodup_singleton entry) fault

end Ascent

/-! ### Loaders of a list of templates -/

theorem Loader.length_dedup_lt (templates : Bindings String) :
    (templates.map Prod.fst).dedup.length < (Loader.ofTemplates templates).bound := by
  have fewer := (List.dedup_sublist (templates.map Prod.fst)).length_le
  rw [List.length_map] at fewer
  exact Nat.lt_succ_of_le fewer

/-- **The resolution of a template always ends, and detects cycles exactly.** With any templates in
the loader, the procedure ends in one way, which is what `resolve` gives; includes are nested no
deeper than there are names of templates and once more, and there are no more rounds either. It ends
with the error of a cycle just where the names met on the way up repeat, and the error lists them up to
the first one that has been met before. No other error comes of a cycle, and none comes of an include
that is missing or cyclic: it might as well be deleted, and errors of includes are those of texts that
cannot be scanned. -/
theorem resolve_ends_and_detects_cycles (templates : Bindings String) (entry : String)
    (source : Text) :
    let loader := Loader.ofTemplates templates
    let entries := (templates.map Prod.fst).dedup.length
    (∀ outcome, ResolutionEnds loader (entries + 1) (entries + 1) entry source outcome ↔
      outcome = resolve loader entry source) ∧
    (∀ chain, resolve loader entry source = .error (.extendsCycle chain) ↔
      ∃ names name, chain = names ++ [name] ∧ names.head? = some entry ∧ names.Nodup ∧
        name ∈ names ∧ Reaches loader entry source names name) ∧
    ((∃ chain, resolve loader entry source = .error (.extendsCycle chain)) ↔
      ∃ names name, Reaches loader entry source names name ∧ name ∈ names) ∧
    (∀ error, resolve loader entry source = .error error → Explains loader entry source error) ∧
    (∀ seen text tag name, firstReference? "include" text = .ok (some (tag, name)) →
      (name ∈ seen ∨ ∃ error, loader.read name = .error error) →
        resolveIncludes loader seen text =
          resolveIncludes loader seen (applyEdits text [⟨tag.span, []⟩])) ∧
    ∀ seen text error, resolveIncludes loader seen text = .error error →
      ∃ scanned, IncludesScan loader seen text scanned ∧ scan scanned = .error error := by
  intro loader entries
  have finite : loader.Finite := Loader.finite_ofTemplates templates
  have complete : ∀ name source, loader.read name = .ok source →
      name ∈ (templates.map Prod.fst).dedup := 
    fun _ _ read => List.mem_dedup.mpr (Loader.mem_of_read read)
  have fewer : entries < loader.bound := Loader.length_dedup_lt templates
  refine ⟨fun outcome => ⟨fun ends => ?_, ?_⟩, fun chain => ⟨fun cycle => ?_, ?_⟩,
    ⟨?_, ?_⟩, fun error => explains_of_resolve_eq_error, fun seen text tag name found =>
      resolveIncludes_of_dropped finite found, fun seen text error fault => ?_⟩
  · exact (ends.eq_resolve finite (by omega)).symm
  · rintro rfl
    exact resolutionEnds_resolve complete fewer entry source
  · cases explains_of_resolve_eq_error cycle with
    | @cycle names name reaches nodup known =>
      obtain ⟨text, tag, ascends, found⟩ := reaches
      obtain ⟨parents, begins, -⟩ := ascends.exists_parents
      exact ⟨names, name, rfl, by rw [begins]; rfl, nodup, known, text, tag, ascends, found⟩
  · rintro ⟨names, name, rfl, -, nodup, known, reaches⟩
    exact resolve_of_repeats reaches nodup known finite
  · rintro ⟨chain, cycle⟩
    cases explains_of_resolve_eq_error cycle with
    | cycle reaches nodup known => exact ⟨_, _, reaches, known⟩
  · rintro ⟨names, name, reaches, known⟩
    have ⟨text, tag, ascends, found⟩ := reaches
    rcases ascends.nodup_or_repeats with nodup | ⟨names', name', nodup, known', reaches'⟩
    · exact ⟨_, resolve_of_repeats reaches nodup known finite⟩
    · exact ⟨_, resolve_of_repeats reaches' nodup known' finite⟩
  · exact (includesEnd_resolveIncludes complete fewer seen text).exists_scan_of_error finite error
      fault

/-- Two templates that extend each other: the names met on the way up repeat, and nothing else is an
error. -/
theorem resolve_of_mutual_parents :
    let loader := Loader.ofTemplates [("b", "\x7b% extends 'a' %\x7d"), ("a", "")]
    let source := "\x7b% extends 'b' %\x7d\x7b% include 'c' %\x7d".toList
    resolve loader "a" source = .error (.extendsCycle ["a", "b", "a"]) ∧
      (∃ names name, Reaches loader "a" source names name ∧ name ∈ names) ∧
        resolveIncludes loader ["a"] source =
          resolveIncludes loader ["a"] "\x7b% extends 'b' %\x7d".toList := by
  intro loader source
  have cycle : resolve loader "a" source = .error (.extendsCycle ["a", "b", "a"]) := by
    decide +kernel
  have facts := resolve_ends_and_detects_cycles [("b", "\x7b% extends 'a' %\x7d"), ("a", "")] "a" source
  refine ⟨cycle, facts.2.2.1.mp ⟨_, cycle⟩, ?_⟩
  obtain ⟨tag, found⟩ : ∃ tag, firstReference? "include" source = .ok (some (tag, "c")) ∧
      applyEdits source [⟨tag.span, []⟩] = "\x7b% extends 'b' %\x7d".toList := by
    refine ⟨⟨.statement, ⟨17, 0, 17⟩, ⟨34, 0, 34⟩, " include 'c' ".toList⟩, ?_⟩
    decide +kernel
  have dropped := facts.2.2.2.2.1 ["a"] source tag "c" found.1
    (Or.inr ⟨LoadError.notFound "c" "c", by decide +kernel⟩)
  rw [dropped, found.2]

end TextTemplate
