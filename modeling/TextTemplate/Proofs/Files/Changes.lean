/-
**Changes of a tree.**

Each change keeps a sound tree sound and every directory where it is.

* `FileTree.Makes`: directories of a path have been made and nothing else, as by
  `FileTree.makeDirectories` (`Sound.makes_of_makeDirectories`);
* `FileTree.ChangesIn`: only what is in one directory has changed. `FileTree.Keeps`: and no file;
  `FileTree.Puts`: and one file at most (`Sound.puts_of_writeFile`, `Sound.puts_of_removeFile`);
* `FileTree.Reaches`: a path leads to a directory, and does so after all changes.
-/

import TextTemplate.Proofs.Files.Tree

namespace TextTemplate
namespace FileTree

variable {tree between tree' : FileTree} {working path parent base : Text} {place area : Place}
  {bytes : ByteArray} {content : Option ByteArray}

/-- **Only what is in one directory has changed**, and no directory has gone. -/
structure ChangesIn (tree tree' : FileTree) (area : Place) : Prop where
  sound : tree'.Sound
  directories : ∀ place, tree.isDirectory place = true → tree'.isDirectory place = true
  outside : ∀ place, ¬area <+: place → tree'.node? place = tree.node? place

/-- **No file has changed**, and in one directory there may be new ones on the way to a place. -/
structure Keeps (tree tree' : FileTree) (area place : Place) : Prop
    extends ChangesIn tree tree' area where
  files : ∀ other, tree'.contents? other = tree.contents? other
  beyond : ∀ other, ¬other <+: place → tree'.node? other = tree.node? other

/-- **The file at one place has been written or removed**, and no other one; in one directory there may
be new ones on the way to it. -/
structure Puts (tree tree' : FileTree) (area place : Place) (content : Option ByteArray) : Prop
    extends ChangesIn tree tree' area where
  here : tree'.node? place = content.map .file
  elsewhere : ∀ other, other ≠ place → tree'.contents? other = tree.contents? other
  beyond : ∀ other, ¬other <+: place → tree'.node? other = tree.node? other

/-- A path leads to a directory. -/
structure Reaches (tree : FileTree) (working path : Text) : Prop where
  leads : tree.follow (Path.start working path) (Path.names path) = .ok (Path.place working path)
  directory : tree.isDirectory (Path.place working path) = true

theorem ChangesIn.trans (first : tree.ChangesIn between area) (second : between.ChangesIn tree' area) :
    tree.ChangesIn tree' area where
  sound := second.sound
  directories place directory := second.directories place (first.directories place directory)
  outside place outside := (second.outside place outside).trans (first.outside place outside)

theorem Sound.changesIn (sound : tree.Sound) (area : Place) : tree.ChangesIn tree area :=
  ⟨sound, fun _ directory => directory, fun _ _ => rfl⟩

theorem Sound.keeps (sound : tree.Sound) (area place : Place) : tree.Keeps tree area place :=
  ⟨sound.changesIn area, fun _ => rfl, fun _ _ => rfl⟩

theorem Keeps.puts (keeps : tree.Keeps between area place) (puts : between.Puts tree' area place content) :
    tree.Puts tree' area place content where
  toChangesIn := keeps.toChangesIn.trans puts.toChangesIn
  here := puts.here
  elsewhere other ne := (puts.elsewhere other ne).trans (keeps.files other)
  beyond other off := (puts.beyond other off).trans (keeps.beyond other off)

/-- What is at a place has the bytes that it had. -/
theorem contents?_congr (same : tree'.node? place = tree.node? place) :
    tree'.contents? place = tree.contents? place := by
  rw [contents?, contents?, same]

theorem ChangesIn.contents? (changes : tree.ChangesIn tree' area) (outside : ¬area <+: place) :
    tree'.contents? place = tree.contents? place :=
  contents?_congr (changes.outside place outside)

theorem Reaches.mono (reaches : tree.Reaches working path)
    (more : ∀ place, tree.isDirectory place = true → tree'.isDirectory place = true) :
    tree'.Reaches working path :=
  ⟨follow_mono more reaches.leads, more _ reaches.directory⟩

theorem reaches_of_leadsToDirectory (leads : tree.leadsToDirectory working path = true) :
    tree.Reaches working path := by
  obtain ⟨place, located, directory⟩ := locate_of_leadsToDirectory leads
  have same := place_of_locate located
  subst same
  exact ⟨follow_filter (follow_of_locate located), directory⟩

/-! ### Making directories -/

/-- **Some directories of a path have been made**, where nothing was before. -/
structure Makes (tree tree' : FileTree) (working path : Text) : Prop where
  sound : tree'.Sound
  made : ∀ place, tree'.node? place = tree.node? place ∨
    (tree.node? place = none ∧ tree'.node? place = some .directory ∧
      ∃ front, front <+: Path.names path ∧ place = front.foldl Path.step (Path.start working path))

namespace Makes

theorem trans (first : tree.Makes between working path) (second : between.Makes tree' working path) :
    tree.Makes tree' working path where
  sound := second.sound
  made place := by
    rcases second.made place with same | ⟨missing, made, below⟩
    · rw [same]
      exact first.made place
    · rcases first.made place with same | ⟨_, there, _⟩
      · exact Or.inr ⟨same ▸ missing, made, below⟩
      · rw [there] at missing
        cases missing

/-- Directories of a path are directories of the paths that go on from it. -/
theorem lengthen (makes : tree.Makes tree' working parent)
    (begins : Path.names parent <+: Path.names path)
    (same : Path.start working parent = Path.start working path) : tree.Makes tree' working path where
  sound := makes.sound
  made place := by
    rcases makes.made place with kept | ⟨missing, made, front, before, rfl⟩
    · exact Or.inl kept
    · exact Or.inr ⟨missing, made, front, before.trans begins, by rw [same]⟩

theorem directories (makes : tree.Makes tree' working path) (place : Place)
    (directory : tree.isDirectory place = true) : tree'.isDirectory place = true := by
  rw [isDirectory_iff] at directory ⊢
  rcases makes.made place with same | ⟨_, made, _⟩
  · rw [same]
    exact directory
  · exact made

theorem contents? (makes : tree.Makes tree' working path) (place : Place) :
    tree'.contents? place = tree.contents? place := by
  rcases makes.made place with same | ⟨missing, made, _⟩
  · exact contents?_congr same
  · rw [FileTree.contents?, FileTree.contents?, missing, made]

/-- Directories that are made for the sake of a path below a directory are on the way down from it. -/
theorem below (makes : tree.Makes tree' working path) (reaches : tree.Reaches working base)
    (start : Path.start working path = Path.start working base) {rest : List Text}
    (names : Path.names path = Path.names base ++ rest) (down : ∀ name ∈ rest, name ≠ Path.up)
    (place : Place) : tree'.node? place = tree.node? place ∨
      ∃ steps, steps <+: rest ∧ place = Path.place working base ++ steps := by
  rcases makes.made place with same | ⟨missing, _, front, begins, rfl⟩
  · exact Or.inl same
  rw [start] at missing ⊢
  rw [names] at begins
  rcases List.prefix_or_prefix_of_prefix begins (List.prefix_append (Path.names base) rest) with
    above | below
  · -- the directories on the way exist
    obtain ⟨later, joined⟩ := above
    have leads := reaches.leads
    rw [← joined] at leads
    obtain ⟨on, first, second⟩ := follow_append_eq_ok_iff.mp leads
    have directory := isDirectory_of_follow second reaches.directory
    rw [place_of_follow first, Path.filter_of_isPrefix ⟨later, joined⟩] at directory
    exact absurd missing (node?_ne_none_of_isDirectory directory)
  · obtain ⟨later, rfl⟩ := below
    have within := (List.prefix_append_right_inj _).mp begins
    refine Or.inr ⟨later, within, ?_⟩
    rw [List.foldl_append]
    exact Path.foldl_step_of_noUp (fun name member => down name (within.subset member)) _

/-- Making directories on the way down from a directory changes no file. -/
theorem keeps (makes : tree.Makes tree' working path) {rest : List Text}
    (below : ∀ other, tree'.node? other = tree.node? other ∨
      ∃ steps, steps <+: rest ∧ other = area ++ steps) :
    tree.Keeps tree' area (area ++ rest) := by
  refine ⟨⟨makes.sound, makes.directories, ?_⟩, makes.contents?, ?_⟩
  · intro other outside
    rcases below other with same | ⟨steps, _, rfl⟩
    · exact same
    · exact absurd (List.prefix_append area steps) outside
  · intro other off
    rcases below other with same | ⟨steps, begins, rfl⟩
    · exact same
    · exact absurd ((List.prefix_append_right_inj area).mpr begins) off

end Makes

namespace Sound

theorem makes (sound : tree.Sound) : tree.Makes tree working path :=
  ⟨sound, fun _ => Or.inl rfl⟩

theorem makes_of_makeDirectory (sound : tree.Sound)
    (made : tree.makeDirectory working path = .ok tree') :
    tree.Makes tree' working path ∧ tree'.Reaches working path := by
  unfold makeDirectory at made
  split at made
  · cases made
  split at made
  · cases made
  rename_i place located
  split at made
  · cases made
  rename_i missing
  cases made
  have filled := (locate_eq_ok_iff.mp located).1.2.2
  have leads := follow_filter (follow_of_locate located)
  have start : Path.start working (path.dropRightWhile (· == '/')) = Path.start working path :=
    Path.start_congr (Path.isAbsolute_dropRightWhile filled)
  rw [← Path.names, Path.names_dropRightWhile, start] at leads
  have same : place = Path.place working path := by
    rw [place_of_follow leads, Path.filter_of_isPrefix List.prefix_rfl]
    rfl
  have inside : place ≠ [] := by
    rintro rfl
    cases missing
  refine ⟨⟨sound.put (sound.fits_of_locate located) inside fun _ => rfl, ?_⟩, ?_⟩
  · intro other
    rw [node?_put inside]
    split
    · rename_i here
      refine Or.inr ⟨here ▸ missing, rfl, Path.names path, List.prefix_rfl, ?_⟩
      rw [here, same]
      rfl
    · exact Or.inl rfl
  · refine ⟨follow_mono (fun other => isDirectory_put inside fun _ => rfl) (same ▸ leads), ?_⟩
    rw [← same, isDirectory_iff, node?_put inside, if_pos rfl]

theorem makes_of_ensureDirectory (sound : tree.Sound)
    (made : tree.ensureDirectory working path = .ok tree') :
    tree.Makes tree' working path ∧ tree'.Reaches working path := by
  unfold ensureDirectory at made
  split at made
  · rename_i new
    cases made
    exact sound.makes_of_makeDirectory new
  · split at made
    · rename_i leads
      cases made
      exact ⟨sound.makes, reaches_of_leadsToDirectory leads⟩
    · cases made

/-- **Making the directories of a path makes nothing else**, and then there is the directory. -/
theorem makes_of_makeDirectories (sound : tree.Sound) {steps : Nat}
    (made : makeDirectories working steps tree path = .ok tree') :
    tree.Makes tree' working path ∧ (path ≠ [] → tree'.Reaches working path) := by
  induction steps generalizing tree path tree' with
  | zero =>
    obtain ⟨makes, reaches⟩ := sound.makes_of_ensureDirectory made
    exact ⟨makes, fun _ => reaches⟩
  | succ steps ih =>
    unfold makeDirectories at made
    split at made
    · rename_i empty
      cases made
      exact ⟨sound.makes, fun filled => absurd (List.isEmpty_iff.mp empty) filled⟩
    split at made
    · rename_i ensured
      cases made
      obtain ⟨makes, reaches⟩ := sound.makes_of_ensureDirectory ensured
      exact ⟨makes, fun _ => reaches⟩
    · split at made
      · cases made
      · rename_i parent above
        rcases first : makeDirectories working steps tree parent with fault | between
        · rw [first] at made
          cases made
        · rw [first] at made
          obtain ⟨names, absolute⟩ := Path.names_parent? above
          have begun : tree.Makes between working path :=
            (ih sound first).1.lengthen (names ▸ List.dropLast_prefix _) (Path.start_congr absolute)
          obtain ⟨makes, reaches⟩ := begun.sound.makes_of_ensureDirectory made
          exact ⟨begun.trans makes, fun _ => reaches⟩
    · cases made

end Sound

/-! ### Writing and removing files -/

namespace Sound

theorem puts_of_put (sound : tree.Sound) (fits : tree.Fits place)
    (file : tree.isDirectory place = false) (within : area <+: place) :
    tree.Puts (tree.put place (.file bytes)) area place (some bytes) := by
  have inside : place ≠ [] := by
    rintro rfl
    cases file
  have kept : tree.isDirectory place = true → FileNode.file bytes = .directory := by
    intro directory
    rw [directory] at file
    cases file
  refine ⟨⟨sound.put fits inside kept, fun _ => isDirectory_put inside kept, ?_⟩, ?_, ?_, ?_⟩
  · intro other outside
    rw [node?_put inside, if_neg]
    rintro rfl
    exact outside within
  · rw [node?_put inside, if_pos rfl]
    rfl
  · intro other ne
    refine contents?_congr ?_
    rw [node?_put inside, if_neg ne]
  · intro other off
    rw [node?_put inside, if_neg]
    rintro rfl
    exact off List.prefix_rfl

theorem puts_of_remove (sound : tree.Sound) (file : tree.isDirectory place = false)
    (within : area <+: place) : tree.Puts (tree.remove place) area place none := by
  have inside : place ≠ [] := by
    rintro rfl
    cases file
  refine ⟨⟨sound.remove file, fun _ => isDirectory_remove file, ?_⟩, ?_, ?_, ?_⟩
  · intro other outside
    rw [node?_remove inside, if_neg]
    rintro rfl
    exact outside within
  · rw [node?_remove inside, if_pos rfl]
    rfl
  · intro other ne
    refine contents?_congr ?_
    rw [node?_remove inside, if_neg ne]
  · intro other off
    rw [node?_remove inside, if_neg]
    rintro rfl
    exact off List.prefix_rfl

/-- **Writing a file writes this file only.** -/
theorem puts_of_writeFile (sound : tree.Sound) (within : area <+: Path.place working path)
    (written : tree.writeFile working path bytes = .ok tree') :
    tree.Puts tree' area (Path.place working path) (some bytes) := by
  unfold writeFile at written
  rcases located : tree.locate working path with fault | place
  · rw [located] at written
    cases written
  rw [located] at written
  have written : (if tree.isDirectory place then Except.error PathFault.blocked
      else Except.ok (tree.put place (.file bytes))) = .ok tree' := written
  have fits := sound.fits_of_locate located
  have same := place_of_locate located
  subst same
  split at written
  · cases written
  · rename_i file
    cases written
    exact sound.puts_of_put fits (Bool.eq_false_iff.mpr file) within

/-- **Removing a file removes this file only**; where its path leads nowhere there is none, as it would
be found. -/
theorem puts_of_removeFile (sound : tree.Sound) (within : area <+: Path.place working path)
    (found : tree.node? (Path.place working path) ≠ none →
      tree.locate working path ≠ .error .missing)
    (removed : tree.removeFile working path = .ok tree') :
    tree.Puts tree' area (Path.place working path) none := by
  unfold removeFile at removed
  split at removed
  · rename_i missing
    cases removed
    exact ⟨sound.changesIn area, by_contra fun there => found there missing, fun _ _ => rfl,
      fun _ _ => rfl⟩
  · cases removed
  · rename_i located
    have same := place_of_locate located
    subst same
    split at removed
    · cases removed
    · rename_i file
      cases removed
      exact sound.puts_of_remove (Bool.eq_false_iff.mpr file) within

end Sound

end FileTree
end TextTemplate
