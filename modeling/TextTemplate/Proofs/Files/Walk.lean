/-
**The walk over the templates.**

* `Publisher.templates`: the templates of a tree by their relative paths, in order;
* `Publisher.Publishes`: what publishing some templates one after the other does to a tree;
* `filter_templates_directory`: the templates in a directory are those of its entries, in the order
  of the listing;
* `publishes_of_publishNode`: **the walk publishes the templates in this order**, and its bound on the
  depth is never reached.
-/

import TextTemplate.Proofs.Files.Delivery
import TextTemplate.Proofs.Files.Reading

namespace TextTemplate

/-- Neither of two places is in the other one. -/
def Place.Apart (a b : Place) : Prop :=
  ¬a <+: b ∧ ¬b <+: a

instance (a b : Place) : Decidable (a.Apart b) :=
  inferInstanceAs (Decidable (¬a <+: b ∧ ¬b <+: a))

theorem Place.Apart.not_isPrefix_append {a b : Place} (apart : a.Apart b) (steps : Place) :
    ¬b <+: a ++ steps := by
  intro begins
  rcases List.prefix_or_prefix_of_prefix (List.prefix_append a steps) begins with first | second
  · exact apart.1 first
  · exact apart.2 second

namespace Publisher

variable {publisher : Publisher} {origin tree between after : FileTree} {relative : Place}
  {pending rest : List Place} {node : FileNode} {outcome : Except TemplateError Unit}

/-! ### Templates -/

/-- Whether a relative path is that of a template in a tree. -/
def isTemplate (publisher : Publisher) (tree : FileTree) (relative : Place) : Bool :=
  (tree.contents? (publisher.templatePlace ++ relative)).isSome &&
    isTemplatePath (Path.join publisher.root (['/'].intercalate relative))

theorem isTemplate_iff :
    publisher.isTemplate tree relative = true ↔
      tree.contents? (publisher.templatePlace ++ relative) ≠ none ∧
        isTemplatePath (Path.join publisher.root (['/'].intercalate relative)) = true := by
  rw [isTemplate, Bool.and_eq_true, Option.isSome_iff_ne_none]

/-- **The templates of a tree** by their relative paths, a directory in the order of its names. -/
def templates (publisher : Publisher) (tree : FileTree) : List Place :=
  let below := tree.places.filter (publisher.templatePlace.isPrefixOf ·)
  let relative := below.map (·.drop publisher.templatePlace.length)
  (relative.filter (publisher.isTemplate tree)).mergeSort fun a b => (Place.order a b).isLE

theorem mem_templates :
    relative ∈ publisher.templates tree ↔ publisher.isTemplate tree relative = true := by
  unfold templates
  rw [List.mem_mergeSort, List.mem_filter]
  refine ⟨And.right, fun template => ⟨?_, template⟩⟩
  have there := (isTemplate_iff.mp template).1
  have inside : publisher.templatePlace ++ relative ≠ [] := by
    intro top
    rw [top] at there
    exact there rfl
  rw [List.mem_map]
  refine ⟨publisher.templatePlace ++ relative, List.mem_filter.mpr ⟨?_, ?_⟩, List.drop_left⟩
  · exact (FileTree.mem_places_iff inside).mpr (FileTree.node?_ne_none_of_contents? there)
  · exact List.isPrefixOf_iff_prefix.mpr (List.prefix_append _ _)

theorem pairwise_templates (sound : tree.Sound) :
    (publisher.templates tree).Pairwise Place.Before := by
  refine pairwise_mergeSort_of_nodup (List.Nodup.filter _ (List.Nodup.map_on ?_ (sound.distinct.filter _)))
  intro place member place' member' same
  obtain ⟨steps, rfl⟩ := List.isPrefixOf_iff_prefix.mp (List.mem_filter.mp member).2
  obtain ⟨steps', rfl⟩ := List.isPrefixOf_iff_prefix.mp (List.mem_filter.mp member').2
  rw [List.drop_left, List.drop_left] at same
  rw [same]

/-- Two sound trees with the same files below the root have the same templates. -/
theorem templates_congr (sound : tree.Sound) (sound' : after.Sound)
    (same : ∀ relative, after.contents? (publisher.templatePlace ++ relative) =
      tree.contents? (publisher.templatePlace ++ relative)) :
    publisher.templates after = publisher.templates tree := by
  refine Place.eq_of_pairwise_before (pairwise_templates sound') (pairwise_templates sound)
    fun relative => ?_
  rw [mem_templates, mem_templates, isTemplate, isTemplate, same]

/-- A file is in no other file. -/
theorem not_isPrefix_of_mem_templates {other : Place} (sound : tree.Sound)
    (file : tree.contents? (publisher.templatePlace ++ relative) ≠ none)
    (member : other ∈ publisher.templates tree) (ne : relative ≠ other) : ¬relative <+: other := by
  intro begins
  have there := (isTemplate_iff.mp (mem_templates.mp member)).1
  refine file (FileTree.contents?_of_isDirectory (sound.isDirectory_of_isPrefix
    (FileTree.node?_ne_none_of_contents? there) ((List.prefix_append_right_inj _).mpr begins) ?_))
  exact fun same => ne (List.append_cancel_left same)

/-- No template is on the way to another one. -/
theorem pairwise_apart_templates (sound : tree.Sound) :
    (publisher.templates tree).Pairwise Place.Apart := by
  refine (pairwise_templates sound).imp_of_mem ?_
  intro relative other member member' before
  have file := (isTemplate_iff.mp (mem_templates.mp member)).1
  have file' := (isTemplate_iff.mp (mem_templates.mp member')).1
  exact ⟨not_isPrefix_of_mem_templates sound file member' before.ne,
    not_isPrefix_of_mem_templates sound file' member before.ne.symm⟩

/-! ### Publishing one template after the other -/

/-- **Publishing some templates one after the other** turns a tree into another one, with an outcome.
The first template that cannot be rendered, or whose output cannot be delivered, ends it. -/
inductive Publishes (publisher : Publisher) :
    List Place → FileTree → Except TemplateError Unit → FileTree → Prop
  | done {tree : FileTree} : Publishes publisher [] tree (.ok ()) tree
  | delivered {relative : Place} {pending : List Place} {tree between after : FileTree} {output : Text}
      {outcome : Except TemplateError Unit} (renders : publisher.rendered tree relative = .ok output)
      (puts : tree.Puts between publisher.outputPlace (publisher.outputPlace ++ relative) (published output))
      (rest : Publishes publisher pending between outcome after) :
      Publishes publisher (relative :: pending) tree outcome after
  | failed {relative : Place} {pending : List Place} {tree : FileTree} {error : TemplateError}
      (fails : publisher.rendered tree relative = .error error) :
      Publishes publisher (relative :: pending) tree (.error error) tree
  | blocked {relative : Place} {pending : List Place} {tree after : FileTree} {output : Text}
      {error : TemplateError} (renders : publisher.rendered tree relative = .ok output)
      (undelivered : publisher.Undelivered relative error)
      (keeps : tree.Keeps after publisher.outputPlace (publisher.outputPlace ++ relative)) :
      Publishes publisher (relative :: pending) tree (.error error) after

namespace Publishes

theorem changesIn (publishes : publisher.Publishes pending tree outcome after) (sound : tree.Sound) :
    tree.ChangesIn after publisher.outputPlace := by
  induction publishes with
  | done => exact sound.changesIn _
  | delivered renders puts rest ih => exact puts.toChangesIn.trans (ih puts.sound)
  | failed fails => exact sound.changesIn _
  | blocked renders undelivered keeps => exact keeps.toChangesIn

/-- What is on the way to none of the outputs is left alone. -/
theorem node? (publishes : publisher.Publishes pending tree outcome after) {place : Place}
    (off : ∀ relative ∈ pending, ¬place <+: publisher.outputPlace ++ relative) :
    after.node? place = tree.node? place := by
  induction publishes with
  | done => rfl
  | delivered renders puts rest ih =>
    rw [ih fun relative member => off relative (List.mem_cons_of_mem _ member)]
    exact puts.beyond place (off _ (List.mem_cons_self ..))
  | failed fails => rfl
  | blocked renders undelivered keeps => exact keeps.beyond place (off _ (List.mem_cons_self ..))

theorem append (first : publisher.Publishes pending tree (.ok ()) between)
    (second : publisher.Publishes rest between outcome after) :
    publisher.Publishes (pending ++ rest) tree outcome after := by
  generalize succeeded : Except.ok () = done at first
  induction first with
  | done => exact second
  | delivered renders puts _ ih => exact .delivered renders puts (ih second succeeded)
  | failed fails => cases succeeded
  | blocked renders undelivered keeps => cases succeeded

theorem append_error {error : TemplateError}
    (first : publisher.Publishes pending tree (.error error) after) (rest : List Place) :
    publisher.Publishes (pending ++ rest) tree (.error error) after := by
  generalize stopped : Except.error error = ended at first ⊢
  induction first with
  | done => cases stopped
  | delivered renders puts _ ih => exact .delivered renders puts (ih stopped)
  | failed fails => exact .failed fails
  | blocked renders undelivered keeps => exact .blocked renders undelivered keeps

end Publishes

/-! ### The entries of a directory -/

section Walk

variable (sound : origin.Sound)

include sound

/-- A file is the only template below its place. -/
theorem filter_templates_file (file : origin.contents? (publisher.templatePlace ++ relative) ≠ none) :
    (publisher.templates origin).filter (relative.isPrefixOf ·) =
      if isTemplatePath (Path.join publisher.root (['/'].intercalate relative)) then [relative]
      else [] := by
  refine Place.eq_of_pairwise_before ((pairwise_templates sound).filter _) (by split <;> simp)
    fun other => ?_
  rw [List.mem_filter, List.isPrefixOf_iff_prefix, List.mem_ite_nil_right, List.mem_singleton]
  constructor
  · rintro ⟨template, begins⟩
    have same : relative = other := by_contra fun ne =>
      not_isPrefix_of_mem_templates sound file template ne begins
    subst same
    exact ⟨(isTemplate_iff.mp (mem_templates.mp template)).2, rfl⟩
  · rintro ⟨extension, rfl⟩
    exact ⟨mem_templates.mpr (isTemplate_iff.mpr ⟨file, extension⟩), List.prefix_rfl⟩

/-- **The templates in a directory are those of its entries**, one entry after the other. -/
theorem filter_templates_directory {entries : List (Text × FileNode)}
    (directory : origin.isDirectory (publisher.templatePlace ++ relative) = true)
    (order : entries.Pairwise fun a b => Text.order a.1 b.1 = .lt)
    (members : ∀ name node, (name, node) ∈ entries ↔
      origin.node? (publisher.templatePlace ++ (relative ++ [name])) = some node) :
    (publisher.templates origin).filter (relative.isPrefixOf ·) =
      entries.flatMap fun entry =>
        (publisher.templates origin).filter ((relative ++ [entry.1]).isPrefixOf ·) := by
  have sorted : (publisher.templates origin).Pairwise Place.Before := pairwise_templates sound
  refine Place.eq_of_pairwise_before (sorted.filter _) ?_ fun other => ?_
  · refine List.pairwise_flatMap.mpr ⟨fun _ _ => sorted.filter _, order.imp ?_⟩
    intro first second earlier place member place' member'
    obtain ⟨steps, rfl⟩ := List.isPrefixOf_iff_prefix.mp (List.mem_filter.mp member).2
    obtain ⟨steps', rfl⟩ := List.isPrefixOf_iff_prefix.mp (List.mem_filter.mp member').2
    exact Place.before_of_order earlier steps steps'
  · simp only [List.mem_filter, List.mem_flatMap, List.isPrefixOf_iff_prefix]
    constructor
    · rintro ⟨template, steps, rfl⟩
      have there := (isTemplate_iff.mp (mem_templates.mp template)).1
      cases steps with
      | nil =>
        rw [List.append_nil] at there
        exact absurd (FileTree.contents?_of_isDirectory directory) there
      | cons name steps =>
        have begins : relative ++ [name] <+: relative ++ name :: steps := ⟨steps, by simp⟩
        have entry := sound.node?_ne_none_of_isPrefix (FileTree.node?_ne_none_of_contents? there)
          ((List.prefix_append_right_inj publisher.templatePlace).mpr begins)
        obtain ⟨node, found⟩ := Option.ne_none_iff_exists'.mp entry
        exact ⟨(name, node), (members name node).mpr found, template, begins⟩
    · rintro ⟨entry, _, template, begins⟩
      exact ⟨template, (List.prefix_append relative [entry.1]).trans begins⟩

/-! ### The walk -/

/-- **Publishing is underway** in a tree: the templates are those of the tree that it began with, and
there is the directory of the outputs. -/
structure Underway (publisher : Publisher) (origin tree : FileTree) : Prop where
  sound : tree.Sound
  reaches : tree.Reaches publisher.working publisher.output
  templates : ∀ relative, tree.node? (publisher.templatePlace ++ relative) =
    origin.node? (publisher.templatePlace ++ relative)

omit sound in
theorem Underway.changesIn (underway : publisher.Underway origin tree)
    (apart : publisher.templatePlace.Apart publisher.outputPlace)
    (changes : tree.ChangesIn after publisher.outputPlace) : publisher.Underway origin after where
  sound := changes.sound
  reaches := underway.reaches.mono changes.directories
  templates relative :=
    (changes.outside _ (apart.not_isPrefix_append relative)).trans (underway.templates relative)

omit sound in
/-- Items that are visited one after the other publish their templates one after the other. -/
theorem publishes_of_forM {α : Type} {visit : α → Publishing Unit} {pending : α → List Place}
    {items : List α} (apart : publisher.templatePlace.Apart publisher.outputPlace)
    (each : ∀ item ∈ items, ∀ {tree outcome after}, publisher.Underway origin tree →
      Ends (visit item) tree outcome after → publisher.Publishes (pending item) tree outcome after)
    (underway : publisher.Underway origin tree) (ends : Ends (items.forM visit) tree outcome after) :
    publisher.Publishes (items.flatMap pending) tree outcome after := by
  induction items generalizing tree with
  | nil =>
    obtain ⟨rfl, rfl⟩ := ends_pure ends
    exact .done
  | cons item items ih =>
    rw [List.flatMap_cons]
    rcases ends_bind ends with ⟨_, between, first, later⟩ | ⟨error, first, rfl⟩
    · have begun := each item (List.mem_cons_self ..) underway first
      refine begun.append (ih (fun item member => each item (List.mem_cons_of_mem _ member)) ?_ later)
      exact underway.changesIn apart (begun.changesIn underway.sound)
    · exact (each item (List.mem_cons_self ..) underway first).append_error _

omit sound in
/-- The name of no template is blank. -/
theorem rendered_nil (publisher : Publisher) (tree : FileTree) :
    ∃ error, publisher.rendered tree [] = .error error :=
  ⟨_, rfl⟩

/-- Publishing a file publishes what it renders to. -/
theorem publishes_of_publishFile (given : publisher.output ≠ [])
    (underway : publisher.Underway origin tree)
    (there : origin.node? (publisher.templatePlace ++ relative) ≠ none)
    (ends : Ends (publisher.publishFile relative) tree outcome after) :
    publisher.Publishes [relative] tree outcome after := by
  have named : ∀ name ∈ relative, Path.IsFileName name := fun name member =>
    (sound.fits_of_node? there).named name (List.mem_append_right _ member)
  unfold publishFile at ends
  have ends := ends_get ends
  rcases result : publisher.rendered tree relative with error | output
  · have fails := result
    rw [rendered] at result
    rw [result] at ends
    obtain ⟨rfl, rfl⟩ := ends_throw ends
    exact .failed fails
  · have renders := result
    have filled : relative ≠ [] := by
      rintro rfl
      obtain ⟨error, fails⟩ := rendered_nil publisher tree
      rw [result] at fails
      cases fails
    rw [rendered] at result
    rw [result] at ends
    rcases ends_deliver given named underway.sound underway.reaches filled ends with
      ⟨rfl, puts⟩ | ⟨error, rfl, undelivered, keeps⟩
    · exact .delivered renders puts .done
    · exact .blocked renders undelivered keeps

/-- A file is published if it is a template. -/
theorem publishes_of_publishNode_file {depth : Nat} {bytes : ByteArray} (given : publisher.output ≠ [])
    (underway : publisher.Underway origin tree)
    (found : origin.node? (publisher.templatePlace ++ relative) = some (.file bytes))
    (ends : Ends (publisher.publishNode depth (publisher.templatePlace ++ relative) relative
      (.file bytes)) tree outcome after) :
    publisher.Publishes ((publisher.templates origin).filter (relative.isPrefixOf ·)) tree outcome
      after := by
  have file := FileTree.contents?_eq_some_iff.mpr found
  rw [filter_templates_file sound (by rw [file]; exact Option.some_ne_none _)]
  rw [publishNode] at ends
  split
  · rename_i extension
    rw [if_pos extension] at ends
    exact publishes_of_publishFile sound given underway (by rw [found]; exact Option.some_ne_none _) ends
  · rename_i extension
    rw [if_neg extension] at ends
    obtain ⟨rfl, rfl⟩ := ends_pure ends
    exact .done

/-- **The walk publishes the templates below a place in their order.** A depth beyond the number of
places is enough: no directory is nested deeper. -/
theorem publishes_of_publishNode (given : publisher.output ≠ [])
    (apart : publisher.templatePlace.Apart publisher.outputPlace) {depth : Nat}
    (enough : origin.nodes.length < relative.length + depth) (underway : publisher.Underway origin tree)
    (found : origin.node? (publisher.templatePlace ++ relative) = some node)
    (ends : Ends (publisher.publishNode depth (publisher.templatePlace ++ relative) relative node) tree
      outcome after) :
    publisher.Publishes ((publisher.templates origin).filter (relative.isPrefixOf ·)) tree outcome
      after := by
  have there : origin.node? (publisher.templatePlace ++ relative) ≠ none := by
    rw [found]
    exact Option.some_ne_none _
  induction depth generalizing relative node tree outcome after with
  | zero =>
    cases node with
    | file bytes => exact publishes_of_publishNode_file sound given underway found ends
    | directory =>
      have nested := sound.length_le there
      rw [List.length_append] at nested
      omega
  | succ depth ih =>
    cases node with
    | file bytes => exact publishes_of_publishNode_file sound given underway found ends
    | directory =>
      rw [publishNode] at ends
      have ends := ends_get ends
      have members (name : Text) (node : FileNode) :
          (name, node) ∈ tree.entries (publisher.templatePlace ++ relative) ↔
            origin.node? (publisher.templatePlace ++ (relative ++ [name])) = some node := by
        rw [FileTree.mem_entries, List.append_assoc, underway.templates]
      rw [filter_templates_directory sound (FileTree.isDirectory_iff.mpr found)
        (underway.sound.pairwise_entries _) members]
      refine publishes_of_forM apart ?_ underway ends
      intro ⟨name, node⟩ member tree outcome after underway ends
      have found := (members name node).mp member
      refine ih ?_ underway found ?_ ?_
      · rw [List.length_append, List.length_singleton]
        omega
      · rw [← List.append_assoc]
        exact ends
      · rw [found]
        exact Option.some_ne_none _

end Walk

end Publisher
end TextTemplate
