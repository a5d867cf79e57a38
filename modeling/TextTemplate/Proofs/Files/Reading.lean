/-
**Templates and the files they are read from.**

What a loader reads depends on the files below its root only, so that whatever is written elsewhere
leaves its templates as they are.

* `loaderPlace`: the place of the directory that templates are read from;
* `Sound.follow_loaderRoot`: it can be reached wherever the walk over the templates begins;
* `SharesTemplates.readTemplate`: **two trees with the same files there have the same templates**;
* `Publisher.rendered_congr`: and every template gives the same output;
* `Loader.finite_ofFiles`: the names that can be read are fewer than the bound of the loader, as no path
  is longer than the greatest one.
-/

import Mathlib.Data.String.Basic
import TextTemplate.Files.Publish
import TextTemplate.Proofs.Files.Tree
import TextTemplate.Proofs.Inheritance.Expansion

namespace TextTemplate

/-- The place of the directory that templates are read from. -/
def loaderPlace (working root : Text) : Place :=
  Path.place working (if root.allBlank then defaultRoot else root)

/-- **Two trees with the same templates**: both have the files of one place, and a way to it. -/
structure FileTree.SharesTemplates (tree tree' : FileTree) (root : Text) (place : Place) : Prop where
  sound : tree.Sound
  sound' : tree'.Sound
  leads : tree.follow [] (Path.names root) = .ok place
  leads' : tree'.follow [] (Path.names root) = .ok place
  contents : ∀ steps, tree.contents? (place ++ steps) = tree'.contents? (place ++ steps)

namespace FileTree

variable {tree tree' : FileTree} {root working name path : Text} {place destination : Place}
  {bytes : ByteArray}

theorem SharesTemplates.symm (shares : tree.SharesTemplates tree' root place) :
    tree'.SharesTemplates tree root place :=
  ⟨shares.sound', shares.sound, shares.leads', shares.leads, fun steps => (shares.contents steps).symm⟩

/-- A tree with more directories and the same files below the root shares the templates. -/
theorem Sound.sharesTemplates (sound : tree.Sound) (sound' : tree'.Sound)
    (leads : tree.follow [] (Path.names root) = .ok place)
    (more : ∀ other, tree.isDirectory other = true → tree'.isDirectory other = true)
    (same : ∀ steps, tree'.contents? (place ++ steps) = tree.contents? (place ++ steps)) :
    tree.SharesTemplates tree' root place :=
  ⟨sound, sound', leads, follow_mono more leads, fun steps => (same steps).symm⟩

theorem read?_eq_some_iff :
    tree.read? working path = some bytes ↔
      ∃ destination, tree.locate working path = .ok destination ∧
        tree.contents? destination = some bytes := by
  unfold read?
  split
  · rename_i found
    simp [found]
  · rename_i found
    simp [found]

/-- A name is resolved to a path below the root without a step up. -/
theorem resolveName?_eq_some (resolved : resolveName? root name = some path) :
    path = Path.join root name ∧ Path.isAbsolute name = false ∧ Path.up ∉ Path.names name := by
  unfold resolveName? at resolved
  split at resolved
  · cases resolved
  rename_i inside
  cases resolved
  simp only [Bool.or_eq_true, not_or, Bool.not_eq_true] at inside
  obtain ⟨⟨_, relative⟩, down⟩ := inside
  refine ⟨rfl, relative, fun member => ?_⟩
  rw [List.contains_iff_mem.mpr member] at down
  cases down

/-- **The way to a file that is read**: to the place of the root, and from there down the steps of the
name. -/
theorem exists_way_of_read? (filled : root ≠ []) (resolved : resolveName? root name = some path)
    (found : tree.read? [] path = some bytes) :
    ∃ front between, front.filter Path.isStep = Path.names root ∧
      Path.segments path = front ++ Path.segments name ∧ tree.follow [] front = .ok between ∧
      tree.follow between (Path.segments name) = .ok (between ++ Path.names name) ∧
      tree.contents? (between ++ Path.names name) = some bytes := by
  obtain ⟨rfl, relative, down⟩ := resolveName?_eq_some resolved
  obtain ⟨front, steps, segments⟩ := Path.exists_segments_join filled relative
  obtain ⟨destination, located, file⟩ := read?_eq_some_iff.mp found
  have leads := follow_of_locate located
  have start : Path.start [] (Path.join root name) = [] := ite_self _
  rw [start, segments] at leads
  obtain ⟨between, above, below⟩ := follow_append_eq_ok_iff.mp leads
  have joined : destination = between ++ Path.names name := by
    rw [place_of_follow below]
    exact Path.foldl_step_of_noUp (fun step member same => down (same ▸ member)) between
  subst joined
  exact ⟨front, between, steps, segments, above, below, file⟩

/-- A file below the root is read in both trees. -/
theorem SharesTemplates.read? (shares : tree.SharesTemplates tree' root place) (filled : root ≠ [])
    (resolved : resolveName? root name = some path) (found : tree.read? [] path = some bytes) :
    tree'.read? [] path = some bytes := by
  obtain ⟨-, -, down⟩ := resolveName?_eq_some resolved
  obtain ⟨front, between, steps, segments, above, below, file⟩ :=
    exists_way_of_read? filled resolved found
  have same : between = place := by
    have filtered := follow_filter above
    rw [steps, shares.leads] at filtered
    cases filtered
    rfl
  subst same
  have file' : tree'.contents? (between ++ Path.names name) = some bytes := by
    rw [← shares.contents]
    exact file
  have below' : tree'.follow between (Path.segments name) = .ok (between ++ Path.names name) :=
    shares.sound'.follow_of_contents? down below (by simp [file]) (by simp [file'])
  have above' : tree'.follow [] front = .ok between :=
    follow_of_filter (steps ▸ shares.leads') (isDirectory_of_follow_segments below')
  obtain ⟨destination, located, -⟩ := read?_eq_some_iff.mp found
  refine read?_eq_some_iff.mpr ⟨between ++ Path.names name,
    locate_eq_ok_iff.mpr ⟨(locate_eq_ok_iff.mp located).1, ?_⟩, file'⟩
  have start : Path.start [] path = [] := ite_self _
  rw [start, segments]
  exact follow_append_eq_ok_iff.mpr ⟨between, above', below'⟩

/-- **Two trees with the same files below the root have the same templates.** -/
theorem SharesTemplates.readTemplate (shares : tree.SharesTemplates tree' root place)
    (filled : root ≠ []) (name : String) :
    readTemplate tree root name = readTemplate tree' root name := by
  unfold TextTemplate.readTemplate
  congr 1
  rcases resolved : resolveName? root name.toList with _ | path
  · rfl
  · refine Option.ext fun bytes => ?_
    exact ⟨shares.read? filled resolved, shares.symm.read? filled resolved⟩

/-- The way to the templates, wherever the files below the root are visited. -/
theorem Sound.follow_loaderRoot (sound : tree.Sound) (found : tree.locate working root = .ok destination) :
    tree.follow [] (Path.names (loaderRoot working root)) = .ok (loaderPlace working root) := by
  have begins := isDirectory_of_locate found
  have toStart : tree.follow [] (Path.start working root) = .ok (Path.start working root) :=
    sound.follow_of_node? (node?_ne_none_of_isDirectory begins)
  rw [loaderRoot, Path.names_absolute, loaderPlace]
  refine follow_append_eq_ok_iff.mpr ⟨Path.start working root, ?_⟩
  split
  · rename_i blank
    have same : Path.start working root = Path.names working := by
      rw [Path.start, if_neg]
      cases root with
      | nil => exact Bool.false_ne_true
      | cons c root =>
        have isBlank := List.all_eq_true.mp blank c (List.mem_cons_self ..)
        rintro absolute
        have slash : c = '/' := by simpa [Path.isAbsolute] using absolute
        rw [slash] at isBlank
        exact absurd isBlank (by decide)
    rw [same] at begins toStart ⊢
    exact ⟨toStart, follow_of_step begins (by decide) rfl⟩
  · refine ⟨toStart, ?_⟩
    rw [← place_of_locate found]
    exact follow_filter (follow_of_locate found)

end FileTree

namespace Publisher

variable {publisher : Publisher} {tree tree' : FileTree} {place : Place}

/-- What the template at a relative path gives with the files of a tree. -/
def rendered (publisher : Publisher) (tree : FileTree) (relative : List Text) :
    Except TemplateError Text :=
  (publisher.environment tree).render publisher.context (String.ofList (['/'].intercalate relative))

/-- **Every template gives the same output in two trees with the same templates.** -/
theorem rendered_congr
    (shares : tree.SharesTemplates tree' (loaderRoot publisher.working publisher.root) place) :
    publisher.rendered tree = publisher.rendered tree' := by
  have loaders : Loader.ofFiles tree (loaderRoot publisher.working publisher.root) =
      Loader.ofFiles tree' (loaderRoot publisher.working publisher.root) := by
    have read := funext (shares.readTemplate (Path.absolute_ne_nil _ _))
    rw [Loader.ofFiles, Loader.ofFiles, read]
  have environments : publisher.environment tree = publisher.environment tree' := by
    unfold environment
    dsimp only [Environment.configure, Option.getD]
    rw [loaders]
  funext relative
  rw [rendered, environments, rendered]

end Publisher

/-! ### Names that can be read -/

/-- The lists of at most so many bytes. -/
def bytesUpTo : Nat → List (List UInt8)
  | 0 => [[]]
  | size + 1 => [] :: (List.range 256).flatMap fun code => (bytesUpTo size).map (UInt8.ofNat code :: ·)

theorem mem_bytesUpTo {size : Nat} {bytes : List UInt8} (short : bytes.length ≤ size) :
    bytes ∈ bytesUpTo size := by
  induction size generalizing bytes with
  | zero => simp [bytesUpTo, List.length_eq_zero_iff.mp (Nat.le_zero.mp short)]
  | succ size ih =>
    cases bytes with
    | nil => exact List.mem_cons_self ..
    | cons byte bytes =>
      refine List.mem_cons_of_mem _ (List.mem_flatMap.mpr ⟨byte.toNat, ?_, ?_⟩)
      · exact List.mem_range.mpr byte.toNat_lt
      · rw [UInt8.ofNat_toNat]
        exact List.mem_map_of_mem (ih (Nat.le_of_succ_le_succ short))

theorem length_bytesUpTo_lt (size : Nat) : (bytesUpTo size).length < Nat.pow 256 (size + 1) := by
  induction size with
  | zero => decide
  | succ size ih =>
    have count : (bytesUpTo (size + 1)).length = 256 * (bytesUpTo size).length + 1 := by
      rw [bytesUpTo, List.length_cons, List.length_flatMap]
      simp only [List.length_map]
      rw [List.map_const', List.sum_replicate_nat, List.length_range]
    have grows : Nat.pow 256 (size + 1 + 1) = Nat.pow 256 (size + 1) * 256 := rfl
    omega

theorem utf8ByteSize_eq_byteSize (name : String) : name.utf8ByteSize = Text.byteSize name.toList := by
  have whole := String.utf8ByteSize_ofList name.toList
  rw [String.ofList_toList] at whole
  rw [whole]
  generalize name.toList = text
  induction text with
  | nil => rfl
  | cons c text ih => rw [String.utf8Len_cons, ih, Text.byteSize_cons, Nat.add_comm]

theorem fromUTF8?_toUTF8 (name : String) : String.fromUTF8? name.toUTF8 = some name :=
  dif_pos name.isValidUTF8

/-- A template that is read is a file with a path. -/
theorem exists_path_of_readTemplate {tree : FileTree} {root : Text} {name source : String}
    (read : readTemplate tree root name = .ok source) :
    ∃ path bytes, resolveName? root name.toList = some path ∧ tree.read? [] path = some bytes ∧
      String.fromUTF8? bytes = some source := by
  unfold readTemplate at read
  split at read
  · rename_i bytes found
    obtain ⟨path, resolved, opened⟩ := Option.bind_eq_some_iff.mp found
    refine ⟨path, bytes, resolved, opened, ?_⟩
    unfold decodeFile at read
    split at read
    · rename_i decoded
      cases read
      exact decoded
    · cases read
  · cases read

/-- A template that can be read has a name that is no longer than a path may be. -/
theorem byteSize_of_readTemplate {tree : FileTree} {root : Text} {name source : String}
    (read : readTemplate tree root name = .ok source) :
    Text.byteSize name.toList ≤ FileTree.greatestPath := by
  obtain ⟨path, bytes, resolved, opened, -⟩ := exists_path_of_readTemplate read
  obtain ⟨destination, located, -⟩ := FileTree.read?_eq_some_iff.mp opened
  have short := (FileTree.locate_eq_ok_iff.mp located).1.2.1
  obtain ⟨rfl, -⟩ := FileTree.resolveName?_eq_some resolved
  exact Nat.le_trans (Path.byteSize_le_join root name.toList) short

/-- **The loader of the files below a root is finite.** -/
theorem Loader.finite_ofFiles (tree : FileTree) (root : Text) : (Loader.ofFiles tree root).Finite := by
  refine ⟨(bytesUpTo FileTree.greatestPath).filterMap fun bytes => String.fromUTF8? ⟨bytes.toArray⟩,
    ?_, ?_⟩
  · unfold ofFiles
    -- the bound is too large to be computed
    generalize FileTree.greatestPath = size
    exact Nat.lt_of_le_of_lt (List.length_filterMap_le _ _) (length_bytesUpTo_lt size)
  · intro name source read
    refine List.mem_filterMap.mpr ⟨name.toUTF8.data.toList, mem_bytesUpTo ?_, ?_⟩
    · have short := byteSize_of_readTemplate read
      rw [← utf8ByteSize_eq_byteSize, ← String.size_toByteArray] at short
      exact short
    · exact fromUTF8?_toUTF8 name

end TextTemplate
