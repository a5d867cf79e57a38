/-
**Templates stay below their root.**

A name is checked by its components, but joined to the root as it is written, with all its slashes and
points. Both ways of looking at it are the same: behind the components of the root come those of the name,
less a point at its beginning, and nothing else.

* `Component`, `Path.components`: the parts of a path as the checks see them;
* `components_join`: the components of a joined path;
* `resolveName?_eq_none_iff`: the names that have no path;
* `exists_below_of_read?`: a file that is read lies below the place of the root;
* `loader_stays_below`: **the loader never leaves its root**, and what could leave it is missing, whatever
  files there are.
-/

import TextTemplate.Proofs.Files.Reading

namespace TextTemplate

/-! ### Components -/

/-- A part of a path. -/
inductive Component where
  /-- The slash that a path from the root begins with. -/
  | root
  /-- The point that a path begins with. -/
  | here
  /-- Two points. -/
  | up
  | name (text : Text)
deriving DecidableEq, Repr

/-- The part that a step is. -/
def Component.ofStep (segment : Text) : Component :=
  if segment = Path.up then .up else .name segment

namespace Path

/-- **The components of a path.** Empty segments are none, and a point is one only where the path begins
with it. -/
def components (path : Text) : List Component :=
  (if isAbsolute path then [.root] else if (segments path).head? = some here then [.here] else []) ++
    (names path).map Component.ofStep

variable {base path : Text}

theorem ofStep_ne_here (segment : Text) : Component.ofStep segment ≠ .here := by
  unfold Component.ofStep
  split <;> exact Component.noConfusion

theorem ofStep_ne_root (segment : Text) : Component.ofStep segment ≠ .root := by
  unfold Component.ofStep
  split <;> exact Component.noConfusion

theorem ofStep_eq_up_iff {segment : Text} : Component.ofStep segment = .up ↔ segment = up := by
  unfold Component.ofStep
  split
  · rename_i same
    simp [same]
  · rename_i different
    simp [different]

theorem root_mem_components_iff : Component.root ∈ components path ↔ isAbsolute path = true := by
  have none : Component.root ∉ (names path).map Component.ofStep := by
    intro member
    obtain ⟨segment, -, same⟩ := List.mem_map.mp member
    exact ofStep_ne_root segment same
  unfold components
  rw [List.mem_append, or_iff_left none]
  split
  · simp_all
  · split <;> simp_all

theorem up_mem_components_iff : Component.up ∈ components path ↔ up ∈ names path := by
  have first : Component.up ∉ (if isAbsolute path then [Component.root]
      else if (segments path).head? = some here then [.here] else []) := by
    split
    · simp
    · split <;> simp
  unfold components
  rw [List.mem_append, or_iff_right first, List.mem_map]
  constructor
  · rintro ⟨segment, member, same⟩
    exact ofStep_eq_up_iff.mp same ▸ member
  · exact fun member => ⟨up, member, ofStep_eq_up_iff.mpr rfl⟩

/-- The components of a path that does not begin at the root, less a point at its beginning, are its
steps. -/
theorem filter_components (relative : isAbsolute path = false) :
    (components path).filter (· ≠ .here) = (names path).map Component.ofStep := by
  have steps : ((names path).map Component.ofStep).filter (· ≠ .here) =
      (names path).map Component.ofStep := by
    refine List.filter_eq_self.mpr fun component member => ?_
    obtain ⟨segment, -, rfl⟩ := List.mem_map.mp member
    exact decide_eq_true (ofStep_ne_here segment)
  rw [components, relative, if_neg Bool.false_ne_true, List.filter_append, steps]
  split <;> rfl

/-- A path behind another one and a slash begins as the first one does. -/
theorem head?_segments_append (front rest : Text) :
    (segments (front ++ '/' :: rest)).head? = (segments front).head? := by
  rw [segments_append]
  exact List.head?_append_of_ne_nil _ segments_ne_nil

theorem head?_segments_join (filled : base ≠ []) (relative : isAbsolute path = false) :
    (segments (join base path)).head? = (segments base).head? := by
  have noRoot : base.isEmpty = false := by simpa using filled
  rw [join, if_neg (by simp [relative]), noRoot, Bool.false_or]
  split
  · rename_i ends
    rw [endsWithSlash, beq_iff_eq] at ends
    rw [← List.dropLast_append_getLast? '/' ends, List.append_assoc]
    exact (head?_segments_append _ _).trans (head?_segments_append _ _).symm
  · exact head?_segments_append base path

/-- **The components of a joined path**: those of the first path and the steps of the second one. -/
theorem components_join (filled : base ≠ []) (relative : isAbsolute path = false) :
    components (join base path) = components base ++ (names path).map Component.ofStep := by
  rw [components, components, isAbsolute_join filled relative, head?_segments_join filled relative,
    names_join filled relative, List.map_append, List.append_assoc]

example : components (join ['/', 's', '/'] ['.', '/', 'a', '/', '/', 'b']) =
    [.root, .name ['s'], .name ['a'], .name ['b']] := by decide

/-- Steps none of which leads up are names. -/
theorem map_ofStep {steps : List Text} (down : up ∉ steps) :
    steps.map Component.ofStep = steps.map Component.name := by
  refine List.map_congr_left fun segment member => if_neg ?_
  rintro rfl
  exact down member

end Path

/-! ### Names and files -/

section Names

variable {root name path : Text}

/-- **A name has no path** just if it is blank, begins at the root of all files or has a step up in it. -/
theorem resolveName?_eq_none_iff :
    resolveName? root name = none ↔
      name.allBlank = true ∨ Component.root ∈ Path.components name ∨
        Component.up ∈ Path.components name := by
  rw [Path.root_mem_components_iff, Path.up_mem_components_iff, resolveName?]
  split
  · rename_i outside
    simpa [or_assoc] using outside
  · rename_i inside
    simpa [or_assoc] using inside

/-- The path of a name has the components of the root and, behind them, those of the name. -/
theorem components_of_resolveName? (filled : root ≠ []) (resolved : resolveName? root name = some path) :
    Path.components path = Path.components root ++ (Path.components name).filter (· ≠ .here) ∧
      Component.up ∉ (Path.components name).filter (· ≠ .here) := by
  obtain ⟨rfl, relative, down⟩ := FileTree.resolveName?_eq_some resolved
  refine ⟨?_, fun member => down (Path.up_mem_components_iff.mp (List.mem_of_mem_filter member))⟩
  rw [Path.filter_components relative]
  exact Path.components_join filled relative

/-- **A file that is read lies below the root**, by its path and by its place in the tree. A name without
any step leads to the root itself, which is no file where the name is looked up. -/
theorem exists_below_of_read? {tree : FileTree} {bytes : ByteArray} (filled : root ≠ [])
    (resolved : resolveName? root name = some path) (found : tree.read? [] path = some bytes) :
    ∃ added : List Text, added ≠ [] ∧
      Path.components path = Path.components root ++ added.map Component.name ∧
      tree.contents? (Path.place [] root ++ added) = some bytes := by
  obtain ⟨front, between, steps, -, above, below, file⟩ :=
    FileTree.exists_way_of_read? filled resolved found
  obtain ⟨rfl, relative, down⟩ := FileTree.resolveName?_eq_some resolved
  have start : Path.start [] root = [] := ite_self _
  have atRoot : between = Path.place [] root := by
    rw [FileTree.place_of_follow above, steps, Path.place, start]
  subst atRoot
  refine ⟨Path.names name, fun none => ?_, ?_, file⟩
  · rw [none, List.append_nil] at file
    have directory := FileTree.isDirectory_of_follow_segments below
    rw [FileTree.contents?_of_isDirectory directory] at file
    cases file
  · rw [Path.components_join filled relative, Path.map_ofStep down]

end Names

theorem loaderRoot_ne_nil (working given : Text) : loaderRoot working given ≠ [] :=
  Path.absolute_ne_nil _ _

/-- **The loader never leaves its root**, whatever directory it is made for and whatever directory is the
working one. A name has no path just if it is blank, begins at the root of all files or has two points as a
component. Otherwise its path has the components of the root and then those of the name less a point, none of
which leads up. So a template that is read is a file below the root, and a name without a path gives an error
that names the template, whatever files there are. -/
theorem loader_stays_below (working given : Text) (name : String) :
    let root := loaderRoot working given
    let asked := Path.components name.toList
    (resolveName? root name.toList = none ↔
      Text.allBlank name.toList = true ∨ Component.root ∈ asked ∨ Component.up ∈ asked) ∧
    (∀ path, resolveName? root name.toList = some path →
      Path.components path = Path.components root ++ asked.filter (· ≠ .here) ∧
        Component.up ∉ asked.filter (· ≠ .here)) ∧
    (∀ tree source, (Loader.ofFiles tree root).read name = .ok source →
      ∃ path bytes added, resolveName? root name.toList = some path ∧
        tree.read? [] path = some bytes ∧ String.fromUTF8? bytes = some source ∧ added ≠ [] ∧
        Path.components path = Path.components root ++ added.map Component.name ∧
        tree.contents? (Path.place [] root ++ added) = some bytes) ∧
    (resolveName? root name.toList = none → ∀ tree, (Loader.ofFiles tree root).read name =
      .error ⟨name, "No file found: " ++ String.ofList (Path.join root name.toList)⟩) := by
  intro root asked
  have filled : root ≠ [] := loaderRoot_ne_nil working given
  refine ⟨resolveName?_eq_none_iff, fun path => components_of_resolveName? filled, ?_, ?_⟩
  · intro tree source read
    obtain ⟨path, bytes, resolved, found, decoded⟩ := exists_path_of_readTemplate read
    obtain ⟨added, more, below, file⟩ := exists_below_of_read? filled resolved found
    exact ⟨path, bytes, added, resolved, found, decoded, more, below, file⟩
  · intro missing tree
    show readTemplate tree root name = _
    rw [readTemplate, missing]
    rfl

end TextTemplate
