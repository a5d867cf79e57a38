/-
**What a text becomes when its includes are resolved.**

The expansion of a text is told without any order of replacements: the text is passed once, each
include tag of it gives way to the expansion of the template that it names, and nothing else changes.
A name that is being included already, or that cannot be read, expands to nothing.

* `Loader.Finite`: the names that a loader can read are fewer than its bound;
* `Expands`: a text and its expansion;
* `resolveIncludes_expands`: **whatever resolving the includes of a text gives is its expansion**,
  the only one there is, and it can be scanned and includes nothing.
-/

import Mathlib.Data.List.Perm.Subperm
import TextTemplate.Proofs.Bindings
import TextTemplate.Proofs.Inheritance.Weaving
import TextTemplate.Proofs.Tags.Slices

namespace TextTemplate

/-! ### Finite loaders -/

/-- **A finite loader**: all names that it can read are in a list shorter than its bound. -/
def Loader.Finite (loader : Loader) : Prop :=
  ∃ names : List String, names.length < loader.bound ∧
    ∀ name source, loader.read name = .ok source → name ∈ names

/-- Only the names in a list of templates can be read. -/
theorem Loader.mem_of_read {templates : Bindings String} {name source : String}
    (read : (Loader.ofTemplates templates).read name = .ok source) :
    name ∈ templates.map Prod.fst := by
  simp only [Loader.ofTemplates] at read
  split at read
  · rename_i found
    exact List.mem_map_of_mem (Bindings.entry_mem_of_find? found)
  · cases read

/-- A loader of a list of templates is finite. -/
theorem Loader.finite_ofTemplates (templates : Bindings String) :
    (Loader.ofTemplates templates).Finite := by
  refine ⟨templates.map Prod.fst, ?_, fun name source => Loader.mem_of_read⟩
  rw [List.length_map]
  exact Nat.lt_succ_self _

/-- **A chain of names** that are being included: they are all different, and each one could be
read. -/
structure Loader.IsChain (loader : Loader) (seen chain : List String) : Prop where
  nodup : chain.Nodup
  seen : ∀ name ∈ chain, name ∈ seen
  readable : ∀ name ∈ chain, ∃ source, loader.read name = .ok source

namespace Loader.IsChain

variable {loader : Loader} {seen chain : List String}

/-- A chain is no longer than the list of all names that can be read. -/
theorem length_le (chained : loader.IsChain seen chain) {names : List String}
    (complete : ∀ name source, loader.read name = .ok source → name ∈ names) :
    chain.length ≤ names.length := by
  have inside : chain ⊆ names := by
    intro name member
    obtain ⟨source, read⟩ := chained.readable name member
    exact complete name source read
  exact (List.subperm_of_subset chained.nodup inside).length_le

/-- No chain reaches the bound of a finite loader. -/
theorem length_lt (chained : loader.IsChain seen chain) (finite : loader.Finite) :
    chain.length < loader.bound := by
  obtain ⟨names, fewer, complete⟩ := finite
  exact Nat.lt_of_le_of_lt (chained.length_le complete) fewer

/-- A new name that can be read continues a chain. -/
theorem cons (chained : loader.IsChain seen chain) {name source : String} (new : name ∉ seen)
    (read : loader.read name = .ok source) : loader.IsChain (name :: seen) (name :: chain) where
  nodup := List.nodup_cons.mpr ⟨fun member => new (chained.seen name member), chained.nodup⟩
  seen := by
    intro other member
    rcases List.mem_cons.mp member with rfl | inside
    · exact List.mem_cons_self
    · exact List.mem_cons_of_mem _ (chained.seen other inside)
  readable := by
    intro other member
    rcases List.mem_cons.mp member with rfl | inside
    · exact ⟨source, read⟩
    · exact chained.readable other inside

end Loader.IsChain

/-! ### Expansions -/

/-- The edits that replace the include tags among some tags. -/
def includeEdits (replacement : String → Text) (tags : List Tag) : List Edit :=
  tags.filterMap fun tag =>
    (tag.reference? "include").map fun name => ⟨tag.span, replacement name⟩

/-- **A text and its expansion**, with the names in `seen` being included already. In one pass over
the text all its include tags are replaced: by nothing where the name is in `seen` or cannot be read,
else by the expansion of what the name stands for. -/
inductive Expands (loader : Loader) : (seen : List String) → (source out : Text) → Prop
  | intro {seen : List String} {source out : Text} {tags : List Tag} (replacement : String → Text) :
      scan source = .ok tags →
      (∀ tag ∈ tags, ∀ name, tag.reference? "include" = some name →
        (name ∈ seen ∨ ∃ error, loader.read name = .error error) → replacement name = []) →
      (∀ tag ∈ tags, ∀ name loaded, tag.reference? "include" = some name → name ∉ seen →
        loader.read name = .ok loaded →
          Expands loader (name :: seen) loaded.toList (replacement name)) →
      Splices 0 source (includeEdits replacement tags) out → Expands loader seen source out

/-- Edits with replacements that agree on the names in use are the same. -/
theorem includeEdits_congr {replacement replacement' : String → Text} {tags : List Tag}
    (agree : ∀ tag ∈ tags, ∀ name, tag.reference? "include" = some name →
      replacement name = replacement' name) :
    includeEdits replacement tags = includeEdits replacement' tags := by
  refine List.filterMap_congr fun tag member => ?_
  rcases names : tag.reference? "include" with _ | name
  · rfl
  · rw [Option.map_some, Option.map_some, agree tag member name names]

/-- **A text has one expansion at most.** -/
theorem Expands.unique {loader : Loader} {seen : List String} {source out out' : Text}
    (first : Expands loader seen source out) (second : Expands loader seen source out') :
    out = out' := by
  induction first generalizing out' with
  | @intro seen source out tags replacement scanned dropped expanded splices ih =>
    obtain ⟨replacement', scanned', dropped', expanded', splices'⟩ := second
    obtain rfl := Except.ok.inj (scanned.symm.trans scanned')
    have same : includeEdits replacement tags = includeEdits replacement' tags := by
      refine includeEdits_congr fun tag member name names => ?_
      by_cases known : name ∈ seen
      · rw [dropped tag member name names (Or.inl known),
          dropped' tag member name names (Or.inl known)]
      · rcases read : loader.read name with error | loaded
        · rw [dropped tag member name names (Or.inr ⟨error, read⟩),
            dropped' tag member name names (Or.inr ⟨error, read⟩)]
        · exact ih tag member name loaded names known read
            (expanded' tag member name loaded names known read)
    rw [← applyEdits_eq_of_splices splices (List.Perm.refl _), same]
    exact applyEdits_eq_of_splices splices' (List.Perm.refl _)

/-- A text that is woven has its include tags replaced in one pass. -/
theorem splices_woven (replacement : String → Text) (here : Position) (pieces : List Piece)
    (last : Text) :
    Splices here.offset (textOf pieces ++ last) (includeEdits replacement (tagsFrom here pieces))
      (woven replacement pieces ++ last) := by
  let replace (tag : Tag) : Option Text := (tag.reference? "include").map replacement
  have edits : includeEdits replacement (tagsFrom here pieces) =
      (tagsFrom here pieces).filterMap fun tag => (replace tag).map (Edit.mk tag.span) := by
    unfold includeEdits
    refine List.filterMap_congr fun tag _ => ?_
    rw [Option.map_map]
    rfl
  have text : woven replacement pieces = replacedFrom replace here pieces := by
    clear edits
    induction pieces generalizing here with
    | nil => rfl
    | cons piece pieces ih =>
      rw [woven_cons, replacedFrom, ih (here.after piece.text), Piece.wovenTag]
      show _ = piece.gap ++ ((piece.included?.map replacement).getD piece.tagText) ++ _
      cases piece.included? <;> rfl
  rw [edits, text]
  exact splices_replaced replace here pieces last

/-! ### Resolving the includes -/

section Names

variable {loader : Loader} {seen : List String} {name : String}
  {nested : List String → Text → Except ScanError Text}

theorem expandName_dropped (dropped : name ∈ seen ∨ ∃ error, loader.read name = .error error) :
    expandName loader nested seen name = .ok [] := by
  rw [expandName]
  split
  · rfl
  · rename_i unknown
    obtain ⟨error, read⟩ :=
      dropped.resolve_left fun known => unknown (List.contains_iff_mem.mpr known)
    rw [read]

theorem expandName_read (unknown : name ∉ seen) {source : String}
    (read : loader.read name = .ok source) :
    expandName loader nested seen name = nested (name :: seen) source.toList := by
  rw [expandName, if_neg fun known => unknown (List.contains_iff_mem.mp known), read]

/-- What takes the place of a name includes nothing, if that holds for what is nested. -/
theorem includeFree_expandName
    (free : ∀ source out, name ∉ seen → loader.read name = .ok source →
      nested (name :: seen) source.toList = .ok out → IncludeFree out)
    {new : Text} (expanded : expandName loader nested seen name = .ok new) : IncludeFree new := by
  by_cases dropped : name ∈ seen ∨ ∃ error, loader.read name = .error error
  · rw [expandName_dropped dropped] at expanded
    cases expanded
    exact includeFree_nil
  · obtain ⟨unknown, readable⟩ := not_or.mp dropped
    rcases read : loader.read name with error | source
    · exact absurd ⟨error, read⟩ readable
    · rw [expandName_read unknown read] at expanded
      exact free source new unknown read expanded

end Names

/-- Each include takes a character of the text at least. -/
theorem length_included_le {text last : Text} {pieces : List Piece} (cut : Cut text pieces last) :
    (included pieces).length ≤ text.length := by
  have some : (included pieces).length ≤ pieces.length := List.length_filterMap_le _ _
  have each : pieces.length ≤ (textOf pieces).length := by
    clear cut some
    induction pieces with
    | nil => exact Nat.le_refl _
    | cons piece pieces ih =>
      have brace : 1 ≤ piece.text.length := by
        simp only [Piece.text, Piece.tagText, TagKind.opener_eq, List.length_append,
          List.length_cons]
        omega
      rw [List.length_cons, textOf_cons, List.length_append]
      omega
  rw [cut.joined, List.length_append]
  omega

/-- **Within the depth that is left to a chain of names, the includes of a text are replaced by
their expansions.** -/
theorem expands_of_includesWithin {loader : Loader} (finite : loader.Finite) {depth : Nat}
    {seen chain : List String} (chained : loader.IsChain seen chain)
    (enough : loader.bound ≤ chain.length + depth) {text out : Text}
    (ok : includesWithin loader depth seen text = .ok out) :
    Expands loader seen text out ∧ IncludeFree out := by
  induction depth generalizing seen chain text out with
  | zero => exact absurd (chained.length_lt finite) (Nat.not_lt.mpr enough)
  | succ depth ih =>
    rw [includesWithin] at ok
    obtain ⟨pieces, last, cut⟩ := scan_of_replaceIncludes ok
    have nested : ∀ name source new, name ∉ seen → loader.read name = .ok source →
        includesWithin loader depth (name :: seen) source.toList = .ok new →
          Expands loader (name :: seen) source.toList new ∧ IncludeFree new :=
      fun name source new unknown read ok =>
        ih (chained.cons unknown read) (by rw [List.length_cons]; omega) ok
    let expansion := expandName loader (includesWithin loader depth) seen
    let replacement (name : String) : Text := (expansion name).toOption.getD []
    have replaced : ∀ name new, expansion name = .ok new → replacement name = new := by
      intro name new expanded
      show (expansion name).toOption.getD [] = new
      rw [expanded]
      rfl
    have expands : ∀ name new, expansion name = .ok new → replacement name = new ∧ IncludeFree new :=
      fun name new expanded => ⟨replaced name new expanded, includeFree_expandName
        (fun source out unknown read ok => (nested name source out unknown read ok).2) expanded⟩
    have few : (included pieces).length < text.length + 1 :=
      Nat.lt_succ_of_le (length_included_le cut)
    obtain ⟨result, free, expanded⟩ := replaceIncludes_eq_woven expands cut few ok
    refine ⟨Expands.intro replacement (cut.scanFrom_eq Position.start) ?_ ?_ ?_, free⟩
    · intro tag member name names dropped
      exact replaced name [] (expandName_dropped dropped)
    · intro tag member name loaded names unknown read
      have listed : name ∈ included pieces := by
        rw [← filterMap_reference?_tagsFrom Position.start]
        exact List.mem_filterMap.mpr ⟨tag, member, names⟩
      have value : expansion name = .ok (replacement name) := expanded name listed
      have value' : expansion name = includesWithin loader depth (name :: seen) loaded.toList :=
        expandName_read unknown read
      exact (nested name loaded _ unknown read (value'.symm.trans value)).1
    · rw [result, cut.joined]
      exact splices_woven replacement Position.start pieces last

/-- **Whatever resolving the includes of a text gives is its expansion**: the only text in which all
includes are replaced at once by the expansions of what they name. It can be scanned and includes
nothing. -/
theorem resolveIncludes_expands (loader : Loader) (finite : loader.Finite) (seen : List String)
    (source out : Text) (ok : resolveIncludes loader seen source = .ok out) :
    (∀ out', Expands loader seen source out' ↔ out' = out) ∧
      ∃ tags, scan out = .ok tags ∧ ∀ tag ∈ tags, tag.reference? "include" = none := by
  have start : loader.IsChain seen [] :=
    ⟨List.nodup_nil, fun name member => absurd member List.not_mem_nil,
      fun name member => absurd member List.not_mem_nil⟩
  obtain ⟨expands, free⟩ := expands_of_includesWithin finite start (by simp) ok
  refine ⟨fun out' => ⟨fun other => other.unique expands, fun same => same ▸ expands⟩, free.scan⟩

/-- Two templates that include each other: the second occurrence of the first one is dropped. -/
theorem expands_of_cycle :
    Expands
      (Loader.ofTemplates [("a", "x\x7b% include \"b\" %\x7d"), ("b", "y\x7b% include 'a' %\x7d")])
      [] "\x7b% include \"a\" %\x7d.".toList "xy.".toList :=
  ((resolveIncludes_expands _ (Loader.finite_ofTemplates _) [] _ _ (by decide +kernel)).1 _).mpr rfl

end TextTemplate
