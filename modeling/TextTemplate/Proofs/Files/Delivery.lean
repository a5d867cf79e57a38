/-
**Delivering an output.**

* `Publisher.Ends`: what a computation on a tree gives and leaves, taken apart in the order in which
  its steps are carried out (`ends_bind`);
* `Publisher.place_destination`: the destination of an output is its relative path below the place
  of all outputs;
* `Publisher.ends_deliver`: **delivering an output changes the file of this output and no other one**,
  or fails and changes none.
-/

import TextTemplate.Files.Publish
import TextTemplate.Proofs.Files.Changes

namespace TextTemplate
namespace Publisher

/-- **A computation ends from a tree with an outcome** and leaves a tree. -/
def Ends {α : Type} (publishing : Publishing α) (tree : FileTree) (outcome : Except TemplateError α)
    (after : FileTree) : Prop :=
  (ExceptT.run publishing).run tree = (outcome, after)

variable {α β : Type} {publisher : Publisher} {tree after : FileTree} {path output : Text}
  {relative : List Text}

/-! ### One step after the other -/

theorem ends_pure {value : α} {outcome : Except TemplateError α}
    (ends : Ends (pure value) tree outcome after) : outcome = .ok value ∧ after = tree := by
  cases ends
  exact ⟨rfl, rfl⟩

theorem ends_throw {error : TemplateError} {outcome : Except TemplateError α}
    (ends : Ends (throw error) tree outcome after) : outcome = .error error ∧ after = tree := by
  cases ends
  exact ⟨rfl, rfl⟩

/-- Two steps end one after the other, unless the first one fails. -/
theorem ends_bind {first : Publishing α} {second : α → Publishing β} {outcome : Except TemplateError β}
    (ends : Ends (first >>= second) tree outcome after) :
    (∃ value between, Ends first tree (.ok value) between ∧ Ends (second value) between outcome after) ∨
      ∃ error, Ends first tree (.error error) after ∧ outcome = .error error := by
  unfold Ends at ends ⊢
  rw [ExceptT.run_bind, StateT.run_bind] at ends
  rcases done : (ExceptT.run first).run tree with ⟨error | value, between⟩
  · rw [done] at ends
    cases ends
    exact Or.inr ⟨error, rfl, rfl⟩
  · rw [done] at ends
    exact Or.inl ⟨value, between, rfl, ends⟩

theorem run_change (path : Text) (operation : FileTree → Except PathFault FileTree) (tree : FileTree) :
    (ExceptT.run (change path operation)).run tree =
      (ExceptT.run (match operation tree with
        | .ok tree => set tree
        | .error _ => throw (.files (String.ofList path)) : Publishing Unit)).run tree := rfl

theorem ends_get {next : FileTree → Publishing α} {outcome : Except TemplateError α}
    (ends : Ends (get >>= next) tree outcome after) : Ends (next tree) tree outcome after := ends

/-- A change is made, or it fails with the path because the operation does. -/
theorem ends_change {operation : FileTree → Except PathFault FileTree}
    {outcome : Except TemplateError Unit} (ends : Ends (change path operation) tree outcome after) :
    (outcome = .ok () ∧ operation tree = .ok after) ∨
      (outcome = .error (.files (String.ofList path)) ∧ (∃ fault, operation tree = .error fault) ∧
        after = tree) := by
  rw [Ends, run_change] at ends
  rcases done : operation tree with fault | changed
  · rw [done] at ends
    cases ends
    exact Or.inr ⟨rfl, ⟨fault, rfl⟩, rfl⟩
  · rw [done] at ends
    cases ends
    exact Or.inl ⟨rfl, rfl⟩

/-! ### Destinations -/

/-- The place of the templates. -/
def templatePlace (publisher : Publisher) : Place :=
  Path.place publisher.working publisher.root

/-- The place of the outputs. -/
def outputPlace (publisher : Publisher) : Place :=
  Path.place publisher.working publisher.output

/-- **The bytes of the file that an output is published in**; a blank output has no file. -/
def published (output : Text) : Option ByteArray :=
  if output.allBlank then none else some (String.ofList output).toUTF8

/-- Where the output of a template is put. -/
def destination (publisher : Publisher) (relative : List Text) : Text :=
  Path.join publisher.output (['/'].intercalate relative)

/-- **An error of delivering an output** is about its destination, or about the directory of that. -/
def Undelivered (publisher : Publisher) (relative : List Text) (error : TemplateError) : Prop :=
  ∃ path, error = .files (String.ofList path) ∧
    (path = publisher.destination relative ∨
      Path.parent? (publisher.destination relative) = some path)

section Destination

variable (given : publisher.output ≠ []) (named : ∀ name ∈ relative, Path.IsFileName name)

include given named

theorem names_destination :
    Path.names (Path.join publisher.output (['/'].intercalate relative)) =
      Path.names publisher.output ++ relative := by
  have whole := fun name member => (named name member).whole
  have stepping := fun name member => (named name member).isStep
  rw [Path.names_join given (Path.isAbsolute_intercalate whole stepping),
    Path.names_intercalate stepping whole]

theorem start_destination :
    Path.start publisher.working (Path.join publisher.output (['/'].intercalate relative)) =
      Path.start publisher.working publisher.output :=
  Path.start_congr (Path.isAbsolute_join given
    (Path.isAbsolute_intercalate (fun name member => (named name member).whole)
      fun name member => (named name member).isStep))

theorem place_destination :
    Path.place publisher.working (Path.join publisher.output (['/'].intercalate relative)) =
      publisher.outputPlace ++ relative := by
  rw [Path.place, names_destination given named, start_destination given named, List.foldl_append]
  exact Path.foldl_step_of_noUp (fun name member => (named name member).down) _

/-- An output that is there is found at its destination. -/
theorem locate_destination (sound : tree.Sound)
    (reaches : tree.Reaches publisher.working publisher.output) (filled : relative ≠ [])
    (there : tree.node? (publisher.outputPlace ++ relative) ≠ none) :
    tree.locate publisher.working (Path.join publisher.output (['/'].intercalate relative)) ≠
      .error .missing := by
  have whole := fun name member => (named name member).whole
  have stepping := fun name member => (named name member).isStep
  obtain ⟨front, steps, segments⟩ :=
    Path.exists_segments_join given (Path.isAbsolute_intercalate whole stepping)
  rw [Path.segments_intercalate filled whole] at segments
  have visible : Path.join publisher.output (['/'].intercalate relative) ≠ [] := by
    intro empty
    have none := names_destination given named
    rw [empty] at none
    exact filled (List.append_eq_nil_iff.mp none.symm).2
  have leads : tree.follow (Path.start publisher.working publisher.output) (front ++ relative) =
      .ok (publisher.outputPlace ++ relative) :=
    FileTree.follow_append_eq_ok_iff.mpr ⟨publisher.outputPlace,
      FileTree.follow_of_filter (steps ▸ reaches.leads) reaches.directory,
      sound.follow_of_node? there⟩
  rw [← start_destination given named, ← segments] at leads
  exact FileTree.locate_ne_missing visible leads

/-! ### Preparing and delivering -/

omit given named in
theorem ends_prepare {outcome : Except TemplateError Unit} (sound : tree.Sound)
    (ends : Ends (publisher.prepare path) tree outcome after) :
    (outcome = .ok () ∧ tree.Makes after publisher.working path ∧
        (path ≠ [] → after.Reaches publisher.working path)) ∨
      (outcome = .error (.files (String.ofList path)) ∧ (∃ fault, FileTree.makeDirectories
        publisher.working (Path.segments path).length tree path = .error fault) ∧ after = tree) := by
  rcases ends_change ends with ⟨done, made⟩ | failed
  · exact Or.inl ⟨done, sound.makes_of_makeDirectories made⟩
  · exact Or.inr failed

/-- Preparing the directory of an output changes no file. -/
theorem keeps_of_prepare {parent : Text} (reaches : tree.Reaches publisher.working publisher.output)
    (filled : relative ≠ [])
    (above : Path.parent? (Path.join publisher.output (['/'].intercalate relative)) = some parent)
    (makes : tree.Makes after publisher.working parent) :
    tree.Keeps after publisher.outputPlace (publisher.outputPlace ++ relative) := by
  obtain ⟨names, absolute⟩ := Path.names_parent? above
  rw [names_destination given named, List.dropLast_append_of_ne_nil filled] at names
  refine makes.keeps fun other => ?_
  have start : Path.start publisher.working parent = Path.start publisher.working publisher.output := by
    rw [Path.start_congr absolute, start_destination given named]
  refine (makes.below reaches start names ?_ other).imp_right ?_
  · exact fun name member => (named name (List.dropLast_subset _ member)).down
  · rintro ⟨steps, begins, rfl⟩
    exact ⟨steps, begins.trans (List.dropLast_prefix _), rfl⟩

/-- Writing an output writes its file only. -/
theorem ends_write {bytes : ByteArray} {between : FileTree} {outcome : Except TemplateError Unit}
    (keeps : tree.Keeps between publisher.outputPlace (publisher.outputPlace ++ relative))
    (ends : Ends (change (Path.join publisher.output (['/'].intercalate relative)) fun tree =>
      tree.writeFile publisher.working (Path.join publisher.output (['/'].intercalate relative)) bytes)
      between outcome after) :
    (outcome = .ok () ∧
        tree.Puts after publisher.outputPlace (publisher.outputPlace ++ relative) (some bytes)) ∨
      (∃ error, outcome = .error error ∧ publisher.Undelivered relative error ∧
        tree.Keeps after publisher.outputPlace (publisher.outputPlace ++ relative)) := by
  have place := place_destination given named
  rcases ends_change ends with ⟨done, written⟩ | ⟨failed, -, rfl⟩
  · have puts := keeps.sound.puts_of_writeFile (place.symm ▸ List.prefix_append _ _) written
    rw [place] at puts
    exact Or.inl ⟨done, keeps.puts puts⟩
  · exact Or.inr ⟨_, failed, ⟨_, rfl, Or.inl rfl⟩, keeps⟩

/-- **Delivering an output changes the file of this output only**, or it fails at its destination or the
directory of that and changes no file. -/
theorem ends_deliver {outcome : Except TemplateError Unit} (sound : tree.Sound)
    (reaches : tree.Reaches publisher.working publisher.output) (filled : relative ≠ [])
    (ends : Ends (publisher.deliver (Path.join publisher.output (['/'].intercalate relative)) output) tree
      outcome after) :
    (outcome = .ok () ∧
        tree.Puts after publisher.outputPlace (publisher.outputPlace ++ relative) (published output)) ∨
      (∃ error, outcome = .error error ∧ publisher.Undelivered relative error ∧
        tree.Keeps after publisher.outputPlace (publisher.outputPlace ++ relative)) := by
  unfold deliver at ends
  unfold published
  split at ends
  · rename_i blank
    have place := place_destination given named
    rw [if_pos blank]
    rcases ends_change ends with ⟨done, removed⟩ | ⟨failed, -, rfl⟩
    · have puts := sound.puts_of_removeFile (place.symm ▸ List.prefix_append _ _)
        (fun there => locate_destination given named sound reaches filled (place ▸ there)) removed
      rw [place] at puts
      exact Or.inl ⟨done, puts⟩
    · exact Or.inr ⟨_, failed, ⟨_, rfl, Or.inl rfl⟩, sound.keeps _ _⟩
  · rename_i visible
    rw [if_neg visible]
    dsimp only at ends
    split at ends
    · rename_i parent above
      rcases ends_bind ends with ⟨_, between, prepared, ends⟩ | ⟨error, prepared, rfl⟩
      · rcases ends_prepare sound prepared with ⟨_, makes, _⟩ | ⟨failed, _⟩
        · exact ends_write given named (keeps_of_prepare given named reaches filled above makes) ends
        · cases failed
      · rcases ends_prepare sound prepared with ⟨done, _⟩ | ⟨failed, -, rfl⟩
        · cases done
        · cases failed
          exact Or.inr ⟨_, rfl, ⟨parent, rfl, Or.inr above⟩, sound.keeps _ _⟩
    · exact ends_write given named (sound.keeps _ _) ends

end Destination

end Publisher
end TextTemplate
