/-
**The output mirrors the templates.**

* `Publisher.Separate`: the templates and the outputs are apart;
* `Publisher.Mirrors`: some templates have been treated, and no file but their outputs has changed;
* `Publisher.StopsAt`: publishing has stopped at the first of the templates that are left;
* `Publishes.exists_mirrors`: a run over some templates treats the first ones and stops at the next;
* `Publisher.run_mirrors`: **publishing treats the templates in their order, all of them if it
  succeeds**, and changes no other file.
-/

import TextTemplate.Proofs.Files.Walk

namespace TextTemplate
namespace Publisher

variable {publisher : Publisher} {tree between after : FileTree} {pending : List Place}
  {outcome : Except TemplateError Unit}

/-- **The outputs are apart from the templates**, those that are visited and those that are loaded. -/
structure Separate (publisher : Publisher) : Prop where
  visited : publisher.templatePlace.Apart publisher.outputPlace
  loaded : (loaderPlace publisher.working publisher.root).Apart publisher.outputPlace

instance (publisher : Publisher) : Decidable publisher.Separate :=
  decidable_of_iff (publisher.templatePlace.Apart publisher.outputPlace ∧
      (loaderPlace publisher.working publisher.root).Apart publisher.outputPlace)
    ⟨fun ⟨visited, loaded⟩ => ⟨visited, loaded⟩, fun ⟨visited, loaded⟩ => ⟨visited, loaded⟩⟩

/-- **Some templates have been treated, and nothing else has been touched.** The file of each output
is what the template renders to, and there is nothing if this is blank; every other file is as it was.
-/
structure Mirrors (publisher : Publisher) (tree after : FileTree) (treated : List Place) : Prop where
  outputs : ∀ relative ∈ treated, ∃ output, publisher.rendered after relative = .ok output ∧
    after.node? (publisher.outputPlace ++ relative) = (published output).map .file
  others : ∀ place, (∀ relative ∈ treated, place ≠ publisher.outputPlace ++ relative) →
    after.contents? place = tree.contents? place

/-- **Publishing stops at the first of the templates that are left**: it cannot be rendered, or its
output cannot be delivered. -/
def StopsAt (publisher : Publisher) (after : FileTree) (left : List Place) (error : TemplateError) :
    Prop :=
  ∃ failing later, left = failing :: later ∧
    (publisher.rendered after failing = .error error ∨
      ∃ output, publisher.rendered after failing = .ok output ∧ publisher.Undelivered failing error)

/-- **Publishing does not begin**, and with which error: no output directory is given, it cannot be
made, or there is nothing at the root even when it has been made. -/
inductive NotBegun (publisher : Publisher) (tree after : FileTree) : TemplateError → Prop
  | unnamed (blank : publisher.output.allBlank = true) :
      NotBegun publisher tree after .noOutputDirectory
  | unmade {fault : PathFault} (failed : FileTree.makeDirectories publisher.working
        (Path.segments publisher.output).length tree publisher.output = .error fault) :
      NotBegun publisher tree after (.files (String.ofList publisher.output))
  | rootless (nothing : ∀ place, after.locate publisher.working publisher.root = .ok place →
        after.node? place = none) :
      NotBegun publisher tree after (.files (String.ofList publisher.root))

/-- **An account of a run**: the templates that have been treated, in their order, and those that are
left. A success leaves none. A failure leaves the template that it is about and those behind it, unless
publishing has not begun. If the root was a directory before, the templates still render to what they
rendered to then. -/
structure Account (publisher : Publisher) (tree : FileTree) (outcome : Except TemplateError Unit)
    (after : FileTree) (treated left : List Place) : Prop where
  order : publisher.templates tree = treated ++ left
  mirrors : publisher.Mirrors tree after treated
  success : outcome = .ok () → left = []
  failure : ∀ error, outcome = .error error → publisher.StopsAt after left error ∨
    (treated = [] ∧ publisher.NotBegun tree after error)
  stable : tree.leadsToDirectory publisher.working publisher.root = true →
    publisher.rendered after = publisher.rendered tree

/-- Nothing has been treated where no file has changed. -/
theorem mirrors_nil (same : ∀ place, after.contents? place = tree.contents? place) :
    publisher.Mirrors tree after [] :=
  ⟨fun _ member => absurd member List.not_mem_nil, fun place _ => same place⟩

section Run

variable (apart : (loaderPlace publisher.working publisher.root).Apart publisher.outputPlace)

include apart

/-- What is published leaves the templates as they are. -/
theorem rendered_of_changesIn (sound : tree.Sound)
    (leads : tree.follow [] (Path.names (loaderRoot publisher.working publisher.root)) =
      .ok (loaderPlace publisher.working publisher.root))
    (changes : tree.ChangesIn after publisher.outputPlace) :
    publisher.rendered after = publisher.rendered tree := by
  have shares := sound.sharesTemplates changes.sound leads changes.directories
    fun steps => changes.contents? (apart.not_isPrefix_append steps)
  exact (rendered_congr shares).symm

/-- **A run treats the first templates and stops at the next one.** -/
theorem Publishes.exists_mirrors (publishes : publisher.Publishes pending tree outcome after)
    (distinct : pending.Pairwise Place.Apart) (sound : tree.Sound)
    (leads : tree.follow [] (Path.names (loaderRoot publisher.working publisher.root)) =
      .ok (loaderPlace publisher.working publisher.root)) :
    ∃ treated left, pending = treated ++ left ∧ publisher.Mirrors tree after treated ∧
      (outcome = .ok () → left = []) ∧
      ∀ error, outcome = .error error → publisher.StopsAt after left error := by
  induction publishes with
  | done => exact ⟨[], [], rfl, mirrors_nil fun _ => rfl, fun _ => rfl, fun _ failed => by cases failed⟩
  | @delivered relative pending tree between after output outcome renders puts rest ih =>
    have changes := puts.toChangesIn.trans (rest.changesIn puts.sound)
    have same := rendered_of_changesIn apart sound leads changes
    obtain ⟨alone, distinct⟩ := List.pairwise_cons.mp distinct
    obtain ⟨treated, left, order, mirrors, complete, failure⟩ :=
      ih distinct puts.sound (FileTree.follow_mono puts.directories leads)
    refine ⟨relative :: treated, left, congrArg _ order, ⟨?_, ?_⟩, complete, failure⟩
    · intro other member
      rcases List.mem_cons.mp member with rfl | member
      · refine ⟨output, same ▸ renders, ?_⟩
        rw [rest.node? fun later member begins => ?_, puts.here]
        exact (alone later member).1 ((List.prefix_append_right_inj _).mp begins)
      · exact mirrors.outputs other member
    · intro place outside
      rw [mirrors.others place fun later member => outside later (List.mem_cons_of_mem _ member)]
      exact puts.elsewhere place (outside relative (List.mem_cons_self ..))
  | @failed relative pending tree error fails =>
    refine ⟨[], relative :: pending, rfl, mirrors_nil fun _ => rfl, fun done => (by cases done), ?_⟩
    intro error' same
    cases same
    exact ⟨relative, pending, rfl, Or.inl fails⟩
  | @blocked relative pending tree after output error renders undelivered keeps =>
    have same := rendered_of_changesIn apart sound leads keeps.toChangesIn
    refine ⟨[], relative :: pending, rfl, mirrors_nil keeps.files, fun done => (by cases done), ?_⟩
    intro error' failed
    cases failed
    exact ⟨relative, pending, rfl, Or.inr ⟨output, same ▸ renders, undelivered⟩⟩

end Run

/-- How publishing ends before the walk begins: there is no directory of outputs or no root, and no
file has changed. Otherwise the walk publishes all templates. -/
theorem publishes_of_run (sound : tree.Sound) (apart : publisher.Separate) :
    (∃ error, (publisher.run tree).1 = .error error ∧
        publisher.NotBegun tree (publisher.run tree).2 error ∧
        tree.Makes (publisher.run tree).2 publisher.working publisher.output) ∨
      ∃ prepared place, tree.Makes prepared publisher.working publisher.output ∧
        prepared.locate publisher.working publisher.root = .ok place ∧
        publisher.Publishes (publisher.templates prepared) prepared (publisher.run tree).1
          (publisher.run tree).2 := by
  have ends : Ends publisher.publish tree (publisher.run tree).1 (publisher.run tree).2 := rfl
  generalize (publisher.run tree).1 = outcome at ends ⊢
  generalize (publisher.run tree).2 = after at ends ⊢
  unfold publish at ends
  dsimp only at ends
  split at ends
  · rename_i blank
    refine Or.inl ⟨.noOutputDirectory, ?_⟩
    rcases ends_bind ends with ⟨_, _, thrown, _⟩ | ⟨_, thrown, rfl⟩
    · cases (ends_throw thrown).1
    · obtain ⟨same, rfl⟩ := ends_throw thrown
      exact ⟨same, .unnamed blank, sound.makes⟩
  rename_i visible
  have given : publisher.output ≠ [] := by
    intro empty
    rw [empty] at visible
    exact visible rfl
  rcases ends_bind ends with ⟨_, prepared, first, ends⟩ | ⟨error, failed, rfl⟩
  · rcases ends_prepare sound first with ⟨_, makes, reaches⟩ | ⟨clash, _⟩
    · have ends := ends_get ends
      rcases located : prepared.locate publisher.working publisher.root with fault | place
      · rw [located] at ends
        obtain ⟨rfl, rfl⟩ := ends_throw ends
        exact Or.inl ⟨_, rfl, .rootless (by simp [located]), makes⟩
      rw [located] at ends
      dsimp only at ends
      rcases found : prepared.node? place with _ | node
      · rw [found] at ends
        obtain ⟨rfl, rfl⟩ := ends_throw ends
        refine Or.inl ⟨_, rfl, .rootless fun other located' => ?_, makes⟩
        rw [located] at located'
        cases located'
        exact found
      · rw [found] at ends
        have top : place = publisher.templatePlace ++ [] := by
          rw [FileTree.place_of_locate located, List.append_nil]
          rfl
        have enough : prepared.nodes.length < ([] : Place).length + publisher.depthBound prepared := by
          rw [depthBound]
          omega
        rw [top] at found ends
        have walk := publishes_of_publishNode makes.sound given apart.visited enough
          ⟨makes.sound, reaches given, fun _ => rfl⟩ found ends
        have all : (publisher.templates prepared).filter (List.isPrefixOf [] ·) =
            publisher.templates prepared := List.filter_eq_self.mpr fun _ _ => rfl
        rw [all] at walk
        exact Or.inr ⟨prepared, place, makes, located, walk⟩
    · cases clash
  · rcases ends_prepare sound failed with ⟨clash, _⟩ | ⟨same, ⟨fault, unmade⟩, rfl⟩
    · cases clash
    · cases same
      exact Or.inl ⟨_, rfl, .unmade unmade, sound.makes⟩

/-- Templates apart from all changes render to what they rendered to. -/
theorem rendered_of_leadsToDirectory (sound : tree.Sound) (sound' : after.Sound)
    (more : ∀ place, tree.isDirectory place = true → after.isDirectory place = true)
    (same : ∀ steps, after.contents? (loaderPlace publisher.working publisher.root ++ steps) =
      tree.contents? (loaderPlace publisher.working publisher.root ++ steps))
    (begins : tree.leadsToDirectory publisher.working publisher.root = true) :
    publisher.rendered after = publisher.rendered tree := by
  obtain ⟨place, located, _⟩ := FileTree.locate_of_leadsToDirectory begins
  have shares := sound.sharesTemplates sound' (sound.follow_loaderRoot located) more same
  exact (rendered_congr shares).symm

/-- **Publishing mirrors the templates.** They are treated in their order, all of them after a success
and those before the failing one after a failure, and no file but their outputs has changed. -/
theorem run_mirrors (sound : tree.Sound) (apart : publisher.Separate) :
    ∃ treated left,
      publisher.Account tree (publisher.run tree).1 (publisher.run tree).2 treated left := by
  rcases publishes_of_run sound apart with
    ⟨error, failed, kind, makes⟩ | ⟨prepared, place, makes, located, walk⟩
  · refine ⟨[], publisher.templates tree, rfl, mirrors_nil makes.contents?, ?_, ?_, ?_⟩
    · intro succeeded
      rw [failed] at succeeded
      cases succeeded
    · intro error' same
      rw [failed] at same
      cases same
      exact Or.inr ⟨rfl, kind⟩
    · exact rendered_of_leadsToDirectory sound makes.sound makes.directories fun _ => makes.contents? _
  · have changes := walk.changesIn makes.sound
    obtain ⟨treated, left, order, mirrors, success, failure⟩ :=
      walk.exists_mirrors apart.loaded (pairwise_apart_templates makes.sound) makes.sound
        (makes.sound.follow_loaderRoot located)
    rw [templates_congr sound makes.sound fun _ => makes.contents? _] at order
    refine ⟨treated, left, order, ⟨mirrors.outputs, ?_⟩, success,
      fun error failed => Or.inl (failure error failed), ?_⟩
    · exact fun place outside => (mirrors.others place outside).trans (makes.contents? place)
    · exact rendered_of_leadsToDirectory sound changes.sound
        (fun place directory => changes.directories place (makes.directories place directory))
        fun steps =>
          (changes.contents? (apart.loaded.not_isPrefix_append steps)).trans (makes.contents? _)

/-- After a success the output of every template is what the template rendered to before. -/
theorem Account.output {treated left : List Place}
    (account : publisher.Account tree (.ok ()) after treated left)
    (leads : tree.leadsToDirectory publisher.working publisher.root = true) {relative : Place}
    (template : relative ∈ publisher.templates tree) {output : Text}
    (renders : publisher.rendered tree relative = .ok output) :
    after.node? (publisher.outputPlace ++ relative) = (published output).map .file := by
  obtain rfl : left = [] := account.success rfl
  rw [account.order, List.append_nil] at template
  obtain ⟨output', renders', written⟩ := account.mirrors.outputs relative template
  rw [account.stable leads, renders] at renders'
  cases renders'
  exact written

/-- Publishing a directory publishes its entries, once the directory of the outputs is there. -/
theorem run_of_directory {prepared : FileTree} {place : Place}
    (given : publisher.output.allBlank = false)
    (prepares : Ends (publisher.prepare publisher.output) tree (.ok ()) prepared)
    (located : prepared.locate publisher.working publisher.root = .ok place)
    (found : prepared.node? place = some .directory) {depth : Nat}
    (bound : publisher.depthBound prepared = depth + 1) :
    publisher.run tree = (ExceptT.run ((prepared.entries place).forM fun (name, node) =>
      publisher.publishNode depth (place ++ [name]) [name] node)).run prepared := by
  have ends : Ends publisher.publish tree (publisher.run tree).1 (publisher.run tree).2 := rfl
  unfold publish at ends
  dsimp only at ends
  rw [if_neg (by rw [given]; exact Bool.false_ne_true)] at ends
  rcases ends_bind ends with ⟨_, prepared', prepares', ends⟩ | ⟨error, fails, -⟩
  · obtain rfl : prepared' = prepared := congrArg Prod.snd (prepares'.symm.trans prepares)
    have ends := ends_get ends
    rw [located] at ends
    dsimp only at ends
    rw [found, bound] at ends
    exact ends.symm
  · cases fails.symm.trans prepares

/-- A tree with two templates, and the output that one of them had before its text became blank. -/
def staleTree : FileTree :=
  let work : Place := [['w']]
  let pages : Text := ['p', 'a', 'g', 'e', 's']
  let blank : Text := ['b', '.', 'T', 'X', 'T']
  let views := work ++ [defaultRoot]
  let output := work ++ [['o', 'u', 't']]
  ⟨[(work, .directory), (views, .directory), (views ++ [['a', '.', 'n', 'j', 'k']], .file "Hi".toUTF8),
    (views ++ [pages], .directory), (views ++ [pages, blank], .file " ".toUTF8),
    (output, .directory), (output ++ [pages], .directory), (output ++ [pages, blank], .file "Ho".toUTF8)]⟩

/-- What publishes the templates of `staleTree`. -/
def stalePublisher : Publisher :=
  ⟨['/', 'w'], defaultRoot, ['o', 'u', 't'], .empty, .none, []⟩

theorem entries_staleTree : staleTree.entries [['w'], defaultRoot] =
    [(['a', '.', 'n', 'j', 'k'], .file "Hi".toUTF8), (['p', 'a', 'g', 'e', 's'], .directory)] := by
  have names : staleTree.listing [['w'], defaultRoot] =
      [['a', '.', 'n', 'j', 'k'], ['p', 'a', 'g', 'e', 's']] :=
    List.mergeSort_of_pairwise (by decide +kernel)
  rw [FileTree.entries, names]
  rfl

/-- The output that was missing is written, and the one that was stale is removed. -/
theorem run_mirrors_of_stale_output :
    let written : Place := [['a', '.', 'n', 'j', 'k']]
    let removed : Place := [['p', 'a', 'g', 'e', 's'], ['b', '.', 'T', 'X', 'T']]
    let after := (stalePublisher.run staleTree).2
    (stalePublisher.run staleTree).1 = .ok () ∧
      staleTree.node? (stalePublisher.outputPlace ++ written) = none ∧
      after.node? (stalePublisher.outputPlace ++ written) = some (.file "Hi".toUTF8) ∧
      staleTree.node? (stalePublisher.outputPlace ++ removed) = some (.file "Ho".toUTF8) ∧
      after.node? (stalePublisher.outputPlace ++ removed) = none ∧
      ∃ treated, stalePublisher.Account staleTree (.ok ()) after treated [] := by
  intro written removed after
  have succeeded : (stalePublisher.run staleTree).1 = .ok () := by
    have located : staleTree.locate stalePublisher.working stalePublisher.root =
        .ok [['w'], defaultRoot] := by decide +kernel
    have bound : stalePublisher.depthBound staleTree = 19 + 1 := by decide +kernel
    have prepares : Ends (stalePublisher.prepare stalePublisher.output) staleTree (.ok ()) staleTree := rfl
    rw [run_of_directory (by decide) prepares located rfl bound, entries_staleTree]
    decide +kernel
  have leads : staleTree.leadsToDirectory stalePublisher.working stalePublisher.root = true := by decide
  have sound : staleTree.Sound := by decide
  have apart : stalePublisher.Separate := by decide
  obtain ⟨treated, left, account⟩ := run_mirrors sound apart
  rw [succeeded] at account
  obtain rfl : left = [] := account.success rfl
  have template : written ∈ stalePublisher.templates staleTree := mem_templates.mpr (by decide +kernel)
  have template' : removed ∈ stalePublisher.templates staleTree := mem_templates.mpr (by decide +kernel)
  have renders : stalePublisher.rendered staleTree written = .ok "Hi".toList := by decide +kernel
  have renders' : stalePublisher.rendered staleTree removed = .ok " ".toList := by decide +kernel
  exact ⟨succeeded, rfl, account.output leads template renders, rfl,
    account.output leads template' renders', treated, account⟩

end Publisher
end TextTemplate
