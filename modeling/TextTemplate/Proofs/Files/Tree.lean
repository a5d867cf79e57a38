/-
**Sound trees.**

In the trees that files make up, every place is in a directory and its names are names that files may
have.

* `FileTree.Sound`: the trees of this kind; `FileTree.Fits`: the places that they may be extended by
  (`Sound.put`, `Sound.remove`);
* `Sound.isDirectory_of_isPrefix`: **whatever exists is in directories only**;
* `FileTree.mem_entries`, `Sound.pairwise_entries`: the entries of a directory, in the order of their
  names;
* `FileTree.follow_eq_ok_cons_iff`: one step of following a path. From it, where a path leads
  (`place_of_follow`, `Sound.fits_of_follow`) and which paths lead there (`follow_of_filter`,
  `Sound.follow_of_node?`, `Sound.follow_of_contents?`).
-/

import Mathlib.Data.List.Induction
import Mathlib.Data.List.Nodup
import TextTemplate.Proofs.Files.Order
import TextTemplate.Proofs.Files.Path

namespace TextTemplate

/-- A name that a file or a directory may have. -/
structure Path.IsFileName (name : Text) : Prop where
  isStep : Path.isStep name = true
  down : name ≠ Path.up
  whole : '/' ∉ name
  short : name.byteSize ≤ FileTree.greatestName

instance (name : Text) : Decidable (Path.IsFileName name) :=
  decidable_of_iff
    (Path.isStep name = true ∧ name ≠ Path.up ∧ '/' ∉ name ∧ name.byteSize ≤ FileTree.greatestName)
    ⟨fun ⟨isStep, down, whole, short⟩ => ⟨isStep, down, whole, short⟩,
      fun ⟨isStep, down, whole, short⟩ => ⟨isStep, down, whole, short⟩⟩

namespace FileTree

variable {tree tree' : FileTree} {place other ancestor destination : Place} {node : FileNode}
  {bytes : ByteArray} {segment : Text} {segments steps : List Text}

/-! ### What is at a place -/

/-- The places of a tree, but for its root. -/
def places (tree : FileTree) : List Place :=
  tree.nodes.map Prod.fst

@[simp] theorem node?_nil (tree : FileTree) : tree.node? [] = some .directory := rfl

theorem node?_of_ne_nil (inside : place ≠ []) :
    tree.node? place = (tree.nodes.find? fun (other, _) => other == place).map Prod.snd := by
  rw [node?, if_neg (by simpa using inside)]

theorem isDirectory_iff : tree.isDirectory place = true ↔ tree.node? place = some .directory := by
  unfold isDirectory
  split
  · rename_i found
    exact ⟨fun _ => found, fun _ => rfl⟩
  · rename_i other
    exact ⟨fun absurd => Bool.noConfusion absurd, fun found => absurd found other⟩

theorem contents?_eq_some_iff :
    tree.contents? place = some bytes ↔ tree.node? place = some (.file bytes) := by
  unfold contents?
  split
  · rename_i found
    rw [found, Option.some.injEq, Option.some.injEq, FileNode.file.injEq]
  · rename_i other
    exact ⟨fun found => (by cases found), fun found => absurd found (other bytes)⟩

theorem node?_ne_none_of_contents? (file : tree.contents? place ≠ none) : tree.node? place ≠ none := by
  obtain ⟨bytes, found⟩ := Option.ne_none_iff_exists'.mp file
  rw [contents?_eq_some_iff.mp found]
  exact Option.some_ne_none _

theorem node?_ne_none_of_isDirectory (directory : tree.isDirectory place = true) :
    tree.node? place ≠ none := by
  rw [isDirectory_iff.mp directory]
  exact Option.some_ne_none _

theorem contents?_of_isDirectory (directory : tree.isDirectory place = true) :
    tree.contents? place = none := by
  rw [contents?, isDirectory_iff.mp directory]

theorem mem_places_iff (inside : place ≠ []) : place ∈ tree.places ↔ tree.node? place ≠ none := by
  rw [node?_of_ne_nil inside, Ne, Option.map_eq_none_iff, List.find?_eq_none, places, List.mem_map]
  simp

theorem node?_put (inside : place ≠ []) :
    (tree.put place node).node? other = if other = place then some node else tree.node? other := by
  by_cases top : other = []
  · rw [top, if_neg inside.symm, node?_nil, node?_nil]
  · rw [node?_of_ne_nil top, put, List.find?_cons]
    split
    · rename_i same
      rw [if_pos (eq_of_beq same).symm]
      rfl
    · rename_i differs
      have ne : other ≠ place := fun same => by simp [same] at differs
      rw [if_neg ne, node?_of_ne_nil top, remove, List.find?_filter]
      congr 2
      funext ⟨at', _⟩
      by_cases same : at' = other
      · simp [same, ne]
      · simp [same]

theorem node?_remove (inside : place ≠ []) :
    (tree.remove place).node? other = if other = place then none else tree.node? other := by
  by_cases top : other = []
  · rw [top, if_neg inside.symm, node?_nil, node?_nil]
  · rw [node?_of_ne_nil top, remove, List.find?_filter]
    split
    · rename_i same
      rw [same, Option.map_eq_none_iff, List.find?_eq_none]
      intro ⟨at', _⟩ _
      simp
    · rename_i ne
      rw [node?_of_ne_nil top]
      congr 2
      funext ⟨at', _⟩
      by_cases same : at' = other
      · simp [same, ne]
      · simp [same]

/-- A file takes no directory's place. -/
theorem isDirectory_put (inside : place ≠ []) (kept : tree.isDirectory place = true → node = .directory)
    (directory : tree.isDirectory other = true) : (tree.put place node).isDirectory other = true := by
  rw [isDirectory_iff, node?_put inside]
  split
  · rename_i same
    rw [kept (same ▸ directory)]
  · exact isDirectory_iff.mp directory

theorem isDirectory_remove (file : tree.isDirectory place = false)
    (directory : tree.isDirectory other = true) : (tree.remove place).isDirectory other = true := by
  have inside : place ≠ [] := by
    rintro rfl
    cases file
  rw [isDirectory_iff, node?_remove inside, if_neg]
  · exact isDirectory_iff.mp directory
  · rintro rfl
    rw [directory] at file
    cases file

/-! ### Sound trees -/

/-- A place in a directory that exists, of names that files may have. -/
structure Fits (tree : FileTree) (place : Place) : Prop where
  nested : tree.isDirectory place.dropLast = true
  named : ∀ name ∈ place, Path.IsFileName name

instance (tree : FileTree) (place : Place) : Decidable (tree.Fits place) :=
  decidable_of_iff (tree.isDirectory place.dropLast = true ∧ ∀ name ∈ place, Path.IsFileName name)
    ⟨fun ⟨nested, named⟩ => ⟨nested, named⟩, fun ⟨nested, named⟩ => ⟨nested, named⟩⟩

/-- **A tree that files can make up.** -/
structure Sound (tree : FileTree) : Prop where
  distinct : tree.places.Nodup
  rooted : [] ∉ tree.places
  fits : ∀ place ∈ tree.places, tree.Fits place

instance (tree : FileTree) : Decidable tree.Sound :=
  decidable_of_iff (tree.places.Nodup ∧ [] ∉ tree.places ∧ ∀ place ∈ tree.places, tree.Fits place)
    ⟨fun ⟨distinct, rooted, fits⟩ => ⟨distinct, rooted, fits⟩,
      fun ⟨distinct, rooted, fits⟩ => ⟨distinct, rooted, fits⟩⟩

theorem fits_nil (tree : FileTree) : tree.Fits [] :=
  ⟨rfl, fun _ member => absurd member List.not_mem_nil⟩

theorem Sound.fits_of_node? (sound : tree.Sound) (there : tree.node? place ≠ none) :
    tree.Fits place := by
  by_cases top : place = []
  · rw [top]
    exact tree.fits_nil
  · exact sound.fits place ((mem_places_iff top).mpr there)

/-- **Whatever exists is in directories only.** -/
theorem Sound.isDirectory_of_isPrefix (sound : tree.Sound) (there : tree.node? place ≠ none)
    (above : ancestor <+: place) (ne : ancestor ≠ place) : tree.isDirectory ancestor = true := by
  obtain ⟨rest, rfl⟩ := above
  have filled : rest ≠ [] := fun empty => ne (by rw [empty, List.append_nil])
  clear ne
  induction rest using List.reverseRecOn with
  | nil => contradiction
  | append_singleton rest name ih =>
    have parent := (sound.fits_of_node? there).nested
    rw [← List.append_assoc, List.dropLast_concat] at parent
    by_cases last : rest = []
    · rw [last, List.append_nil] at parent
      exact parent
    · exact ih (node?_ne_none_of_isDirectory parent) last

theorem Sound.node?_ne_none_of_isPrefix (sound : tree.Sound) (there : tree.node? place ≠ none)
    (above : ancestor <+: place) : tree.node? ancestor ≠ none := by
  by_cases same : ancestor = place
  · rw [same]
    exact there
  · exact node?_ne_none_of_isDirectory (sound.isDirectory_of_isPrefix there above same)

theorem Sound.put (sound : tree.Sound) (fits : tree.Fits place) (inside : place ≠ [])
    (kept : tree.isDirectory place = true → node = .directory) : (tree.put place node).Sound := by
  have places : (tree.put place node).places = place :: tree.places.filter (· != place) := by
    rw [FileTree.places, FileTree.put, List.map_cons, remove, FileTree.places, List.filter_map]
    rfl
  have extends' {other : Place} (fits : tree.Fits other) : (tree.put place node).Fits other :=
    ⟨isDirectory_put inside kept fits.nested, fits.named⟩
  refine ⟨?_, ?_, ?_⟩
  · rw [places, List.nodup_cons]
    exact ⟨fun member => by simpa using (List.mem_filter.mp member).2, sound.distinct.filter _⟩
  · rw [places, List.mem_cons]
    rintro (top | member)
    · exact inside top.symm
    · exact sound.rooted (List.mem_filter.mp member).1
  · intro other member
    rw [places, List.mem_cons] at member
    rcases member with rfl | member
    · exact extends' fits
    · exact extends' (sound.fits other (List.mem_filter.mp member).1)

theorem Sound.remove (sound : tree.Sound) (file : tree.isDirectory place = false) :
    (tree.remove place).Sound := by
  have places : (tree.remove place).places = tree.places.filter (· != place) := by
    rw [FileTree.places, FileTree.remove, FileTree.places, List.filter_map]
    rfl
  refine ⟨?_, ?_, ?_⟩
  · rw [places]
    exact sound.distinct.filter _
  · rw [places]
    exact fun member => sound.rooted (List.mem_filter.mp member).1
  · intro other member
    rw [places] at member
    have fits := sound.fits other (List.mem_filter.mp member).1
    exact ⟨isDirectory_remove file fits.nested, fits.named⟩

/-- No place is nested deeper than there are places. -/
theorem Sound.length_le (sound : tree.Sound) (there : tree.node? place ≠ none) :
    place.length ≤ tree.nodes.length := by
  -- the fronts of the place are places of their own
  have fronts : (List.range place.length).map (fun size => place.take (size + 1)) ⊆ tree.places := by
    intro front member
    obtain ⟨size, within, rfl⟩ := List.mem_map.mp member
    rw [List.mem_range] at within
    have inside : place.take (size + 1) ≠ [] := by
      rw [Ne, ← List.length_eq_zero_iff, List.length_take]
      omega
    exact (mem_places_iff inside).mpr (sound.node?_ne_none_of_isPrefix there (List.take_prefix _ _))
  have distinct : ((List.range place.length).map fun size => place.take (size + 1)).Nodup := by
    refine List.Nodup.map_on ?_ List.nodup_range
    intro size within size' within' same
    rw [List.mem_range] at within within'
    have lengths := congrArg List.length same
    rw [List.length_take, List.length_take] at lengths
    omega
  have bound := (List.subperm_of_subset distinct fronts).length_le
  rwa [List.length_map, List.length_range, places, List.length_map] at bound

/-! ### Listings -/

theorem mem_listing {name : Text} :
    name ∈ tree.listing place ↔ place ++ [name] ∈ tree.places := by
  rw [listing, List.mem_mergeSort, List.mem_filterMap, places, List.mem_map]
  constructor
  · rintro ⟨⟨other, node⟩, member, found⟩
    refine ⟨(other, node), member, ?_⟩
    dsimp only at found
    split at found
    · rename_i last
      split at found
      · rename_i parent
        cases found
        rw [← parent]
        exact (List.dropLast_append_getLast? _ last).symm
      · cases found
    · cases found
  · rintro ⟨⟨other, node⟩, member, rfl⟩
    refine ⟨(place ++ [name], node), member, ?_⟩
    simp

theorem Sound.pairwise_listing (sound : tree.Sound) :
    (tree.listing place).Pairwise (Text.order · · = .lt) := by
  refine pairwise_mergeSort_of_nodup ?_
  rw [List.Nodup, List.pairwise_filterMap]
  -- two names in one directory are those of two places
  refine (List.pairwise_map.mp sound.distinct).imp ?_
  intro ⟨first, _⟩ ⟨second, _⟩ differ name found name' found' same
  subst same
  dsimp only at differ found found'
  split at found <;> split at found' <;> try contradiction
  rename_i last _ _ last'
  split at found <;> split at found' <;> try contradiction
  rename_i parent parent'
  cases found
  cases found'
  refine differ ?_
  rw [← List.dropLast_append_getLast? _ last, ← List.dropLast_append_getLast? _ last', parent, parent']

theorem Sound.pairwise_entries (sound : tree.Sound) (place : Place) :
    (tree.entries place).Pairwise fun a b => Text.order a.1 b.1 = .lt := by
  rw [entries, List.pairwise_filterMap]
  refine sound.pairwise_listing.imp ?_
  intro name name' earlier entry made entry' made'
  obtain ⟨_, _, rfl⟩ := Option.map_eq_some_iff.mp made
  obtain ⟨_, _, rfl⟩ := Option.map_eq_some_iff.mp made'
  exact earlier

theorem mem_entries {name : Text} :
    (name, node) ∈ tree.entries place ↔ tree.node? (place ++ [name]) = some node := by
  rw [entries, List.mem_filterMap]
  constructor
  · rintro ⟨name', _, made⟩
    obtain ⟨node', found, same⟩ := Option.map_eq_some_iff.mp made
    cases same
    exact found
  · intro found
    refine ⟨name, mem_listing.mpr ((mem_places_iff (by simp)).mpr ?_), ?_⟩
    · rw [found]
      exact Option.some_ne_none _
    · rw [found]
      rfl

/-! ### Following a path -/

theorem follow_cons_eq_ok_iff :
    tree.follow place (segment :: segments) = .ok destination ↔
      tree.isDirectory place = true ∧ segment.byteSize ≤ greatestName ∧
        tree.follow (if Path.isStep segment then Path.step place segment else place) segments =
          .ok destination := by
  rw [follow, isDirectory_iff]
  rcases tree.node? place with _ | _ | bytes
  · simp
  · by_cases long : greatestName < segment.byteSize
    · simp [long, Nat.not_le.mpr long]
    · have short : segment.byteSize ≤ greatestName := Nat.le_of_not_lt long
      rw [if_neg long]
      cases steps : Path.isStep segment
      · simp [short]
      · by_cases climbs : segment = Path.up
        · subst climbs
          simp [Path.step, short]
        · simp [climbs, Path.step, short]
  · simp

/-- The first step of a path is looked up in a directory. -/
theorem step_of_follow (leads : tree.follow place (segment :: segments) = .ok destination) :
    tree.isDirectory place = true ∧ segment.byteSize ≤ greatestName ∧
      tree.follow (if Path.isStep segment then Path.step place segment else place) segments =
        .ok destination :=
  follow_cons_eq_ok_iff.mp leads

theorem follow_of_step (directory : tree.isDirectory place = true)
    (short : segment.byteSize ≤ greatestName)
    (leads : tree.follow (if Path.isStep segment then Path.step place segment else place) segments =
      .ok destination) :
    tree.follow place (segment :: segments) = .ok destination :=
  follow_cons_eq_ok_iff.mpr ⟨directory, short, leads⟩

/-- **Where a path leads.** -/
theorem place_of_follow (leads : tree.follow place segments = .ok destination) :
    destination = (segments.filter Path.isStep).foldl Path.step place := by
  induction segments generalizing place with
  | nil =>
    cases leads
    rfl
  | cons segment segments ih =>
    rw [ih (step_of_follow leads).2.2, List.filter_cons]
    split <;> rfl

theorem follow_append_eq_ok_iff {front rest : List Text} :
    tree.follow place (front ++ rest) = .ok destination ↔
      ∃ between, tree.follow place front = .ok between ∧ tree.follow between rest = .ok destination := by
  induction front generalizing place with
  | nil => simp [follow]
  | cons segment front ih =>
    rw [List.cons_append, follow_cons_eq_ok_iff, ih]
    simp only [follow_cons_eq_ok_iff]
    constructor
    · rintro ⟨directory, short, between, leads, goes⟩
      exact ⟨between, ⟨directory, short, leads⟩, goes⟩
    · rintro ⟨between, ⟨directory, short, leads⟩, goes⟩
      exact ⟨directory, short, between, leads, goes⟩

/-- A path leads to the same place in a tree with more directories. -/
theorem follow_mono (more : ∀ other, tree.isDirectory other = true → tree'.isDirectory other = true)
    (leads : tree.follow place segments = .ok destination) :
    tree'.follow place segments = .ok destination := by
  induction segments generalizing place with
  | nil => exact leads
  | cons segment segments ih =>
    obtain ⟨directory, short, leads⟩ := step_of_follow leads
    exact follow_of_step (more _ directory) short (ih leads)

/-- The segments that name no step can be left out. -/
theorem follow_filter (leads : tree.follow place segments = .ok destination) :
    tree.follow place (segments.filter Path.isStep) = .ok destination := by
  induction segments generalizing place with
  | nil => exact leads
  | cons segment segments ih =>
    obtain ⟨directory, short, leads⟩ := step_of_follow leads
    rw [List.filter_cons]
    split
    · rename_i steps
      rw [if_pos steps] at leads
      refine follow_of_step directory short ?_
      rw [if_pos steps]
      exact ih leads
    · rename_i steps
      rw [if_neg steps] at leads
      exact ih leads

theorem isDirectory_of_follow (leads : tree.follow place segments = .ok destination)
    (directory : tree.isDirectory destination = true) : tree.isDirectory place = true := by
  cases segments with
  | nil =>
    cases leads
    exact directory
  | cons => exact (step_of_follow leads).1

theorem byteSize_of_not_isStep (stays : Path.isStep segment = false) :
    segment.byteSize ≤ greatestName := by
  rw [Path.isStep, Bool.and_eq_false_iff] at stays
  rcases stays with empty | same
  · have none : segment = [] := by simpa using empty
    rw [none]
    decide
  · have here : segment = Path.here := by simpa using same
    rw [here]
    decide

/-- Segments that name no step can be added on the way to a directory. -/
theorem follow_of_filter (leads : tree.follow place (segments.filter Path.isStep) = .ok destination)
    (directory : tree.isDirectory destination = true) :
    tree.follow place segments = .ok destination := by
  induction segments generalizing place with
  | nil => exact leads
  | cons segment segments ih =>
    rw [List.filter_cons] at leads
    split at leads
    · rename_i steps
      obtain ⟨above, short, leads⟩ := step_of_follow leads
      rw [if_pos steps] at leads
      refine follow_of_step above short ?_
      rw [if_pos steps]
      exact ih leads
    · rename_i steps
      refine follow_of_step (isDirectory_of_follow leads directory)
        (byteSize_of_not_isStep (Bool.eq_false_iff.mpr steps)) ?_
      rw [if_neg steps]
      exact ih leads

namespace Sound

/-- What exists is found by its names. -/
theorem follow_of_node? (sound : tree.Sound) (there : tree.node? (place ++ steps) ≠ none) :
    tree.follow place steps = .ok (place ++ steps) := by
  induction steps generalizing place with
  | nil => rw [List.append_nil, follow]
  | cons name steps ih =>
    have above := sound.isDirectory_of_isPrefix there (List.prefix_append place _)
      (fun same => by simpa using (List.append_right_eq_self.mp same.symm))
    have valid := (sound.fits_of_node? there).named name (by simp)
    have joined : place ++ name :: steps = place ++ [name] ++ steps := by simp
    refine follow_of_step above valid.short ?_
    rw [if_pos valid.isStep, Path.step, if_neg valid.down, joined]
    exact ih (joined ▸ there)

/-- A path with the steps of a file leads to it in one sound tree if it does so in another one. -/
theorem follow_of_contents? (sound : tree'.Sound) (down : Path.up ∉ segments.filter Path.isStep)
    (leads : tree.follow place segments = .ok destination)
    (file : tree.contents? destination ≠ none) (file' : tree'.contents? destination ≠ none) :
    tree'.follow place segments = .ok destination := by
  induction segments generalizing place with
  | nil => exact leads
  | cons segment segments ih =>
    obtain ⟨directory, short, goes⟩ := step_of_follow leads
    have below : destination = place ++ (segment :: segments).filter Path.isStep := by
      rw [place_of_follow leads]
      exact Path.foldl_step_of_noUp (fun name member same => down (same ▸ member)) place
    have above : tree'.isDirectory place = true := by
      refine sound.isDirectory_of_isPrefix (node?_ne_none_of_contents? file')
        (below ▸ List.prefix_append ..) ?_
      rintro rfl
      exact file (contents?_of_isDirectory directory)
    refine follow_of_step above short (ih (fun member => down ?_) goes)
    rw [List.filter_cons]
    split
    · exact List.mem_cons_of_mem _ member
    · exact member

/-- A path through directories that exist leads to a place that may be filled. -/
theorem fits_of_follow (sound : tree.Sound) (whole : ∀ segment ∈ segments, '/' ∉ segment)
    (fits : tree.Fits place) (leads : tree.follow place segments = .ok destination) :
    tree.Fits destination := by
  induction segments generalizing place with
  | nil =>
    cases leads
    exact fits
  | cons segment segments ih =>
    obtain ⟨directory, short, leads⟩ := step_of_follow leads
    refine ih (fun other member => whole other (List.mem_cons_of_mem _ member)) ?_ leads
    split
    · rename_i steps
      rw [Path.step]
      split
      · exact sound.fits_of_node? (node?_ne_none_of_isDirectory fits.nested)
      · rename_i down
        refine ⟨?_, ?_⟩
        · rw [List.dropLast_concat]
          exact directory
        · intro name member
          rcases List.mem_append.mp member with before | last
          · exact fits.named name before
          · rw [List.mem_singleton.mp last]
            exact ⟨steps, down, whole segment (List.mem_cons_self ..), short⟩
    · exact fits

end Sound

/-! ### Locating -/

section Locating

variable {working path : Text}

/-- **A path is located by following it**, if it can be used at all. -/
theorem locate_eq_ok_iff :
    tree.locate working path = .ok destination ↔
      ('\x00' ∉ path ∧ path.byteSize ≤ greatestPath ∧ path ≠ []) ∧
        tree.follow (Path.start working path) (Path.segments path) = .ok destination := by
  rw [locate]
  by_cases usable : '\x00' ∉ path ∧ path.byteSize ≤ greatestPath
  · obtain ⟨clear, short⟩ := usable
    rw [if_neg (by simp [clear, short])]
    by_cases empty : path = []
    · simp [empty]
    · rw [if_neg (by simpa using empty)]
      simp [clear, short, empty, Path.start]
  · have unusable : (path.contains '\x00' || decide (greatestPath < path.byteSize)) = true := by
      rw [not_and_or] at usable
      rcases usable with member | long
      · simp [not_not.mp member]
      · simp [Nat.lt_of_not_le long]
    rw [if_pos unusable]
    constructor
    · intro located
      cases located
    · rintro ⟨⟨clear, short, _⟩, _⟩
      exact absurd ⟨clear, short⟩ usable

theorem follow_of_locate (found : tree.locate working path = .ok destination) :
    tree.follow (Path.start working path) (Path.segments path) = .ok destination :=
  (locate_eq_ok_iff.mp found).2

/-- A path whose steps can be followed is not missing. -/
theorem locate_ne_missing (filled : path ≠ [])
    (leads : tree.follow (Path.start working path) (Path.segments path) = .ok destination) :
    tree.locate working path ≠ .error .missing := by
  intro missing
  unfold locate at missing
  split at missing
  · cases missing
  · rw [if_neg (by simpa using filled)] at missing
    have clash := leads.symm.trans missing
    cases clash

theorem locate_of_leadsToDirectory (leads : tree.leadsToDirectory working path = true) :
    ∃ place, tree.locate working path = .ok place ∧ tree.isDirectory place = true := by
  unfold leadsToDirectory at leads
  split at leads
  · rename_i place found
    exact ⟨place, found, leads⟩
  · cases leads

theorem place_of_locate (found : tree.locate working path = .ok destination) :
    destination = Path.place working path :=
  place_of_follow (follow_of_locate found)

/-- Every path has a segment, which is looked up in the directory where the path begins. -/
theorem isDirectory_of_follow_segments (leads : tree.follow place (Path.segments path) = .ok destination) :
    tree.isDirectory place = true := by
  rcases same : Path.segments path with _ | ⟨segment, segments⟩
  · exact absurd same Path.segments_ne_nil
  · rw [same] at leads
    exact (step_of_follow leads).1

theorem isDirectory_of_locate (found : tree.locate working path = .ok destination) :
    tree.isDirectory (Path.start working path) = true :=
  isDirectory_of_follow_segments (follow_of_locate found)

theorem Sound.fits_of_locate (sound : tree.Sound)
    (found : tree.locate working path = .ok destination) : tree.Fits destination := by
  have there := node?_ne_none_of_isDirectory (isDirectory_of_locate found)
  exact sound.fits_of_follow (fun _ member => Text.notMem_of_mem_splitOn member)
    (sound.fits_of_node? there) (follow_of_locate found)

end Locating

end FileTree
end TextTemplate
