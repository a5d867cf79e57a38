/-
**Which enclosures lie in which.**

Tags that are matched like brackets enclose parts of the text that lie apart or one within the
other, whatever the tags are that match nothing. What no other part encloses lies apart.

* `Span.Laminar`: two spans begin at different places and do not cross;
* `pairTags_pairwise`: **the enclosures of any list of tags do not cross**, nor do their bodies;
* `groupBranches_span`: the groups of branches are enclosures, with other tags between;
* `outermost_sound`: **the outermost of spans that do not cross are sound**.
-/

import TextTemplate.Proofs.Edits.Splice
import TextTemplate.Proofs.Tags.Decomposition
import TextTemplate.Rendering.Branch
import TextTemplate.Tag.Enclosure

namespace TextTemplate

/-! ### Spans that do not cross -/

/-- **Two spans that do not cross**: they begin at different places, and they lie apart or one
within the other. -/
structure Span.Laminar (a b : Span) : Prop where
  distinct : a.start ≠ b.start
  nested : (a.stop ≤ b.start ∨ b.stop ≤ a.start) ∨ a.encloses b ∨ b.encloses a

theorem Span.encloses_iff {outer inner : Span} :
    outer.encloses inner ↔ outer.start ≤ inner.start ∧ inner.stop ≤ outer.stop := by
  simp [Span.encloses]

theorem Span.Laminar.symm {a b : Span} (laminar : a.Laminar b) : b.Laminar a :=
  ⟨laminar.distinct.symm, laminar.nested.imp Or.symm Or.symm⟩

section Outermost

variable {α : Type} {span : α → Span} {items : List α}

/-- An outermost item is one of the items, and no other one encloses it. -/
theorem mem_outermost {item : α} : item ∈ outermost span items ↔
    item ∈ items ∧ ∀ other ∈ items, span other ≠ span item → ¬ (span other).encloses (span item) := by
  simp only [outermost, List.mem_mergeSort, List.mem_filter, Bool.not_eq_true', List.any_eq_false,
    Bool.and_eq_true, bne_iff_ne, ne_eq, not_and]

/-- **The outermost of spans that do not cross are sound**, if each is a slice. -/
theorem outermost_sound {text : Text}
    (laminar : items.Pairwise fun a b => (span a).Laminar (span b))
    (placed : ∀ item ∈ items, ∃ part, text.slice? (span item).start (span item).stop = some part) :
    SoundSpans text ((outermost span items).map span) := by
  have kept : ∀ item ∈ outermost span items, item ∈ items :=
    fun item member => (mem_outermost.mp member).1
  have rearranged : (outermost span items).Perm _ := List.mergeSort_perm _ _
  have among : (outermost span items).Pairwise fun a b => (span a).Laminar (span b) :=
    (rearranged.pairwise_iff Span.Laminar.symm).mpr (laminar.sublist List.filter_sublist)
  refine ⟨?_, ?_, fun inside member => ?_⟩
  · exact List.pairwise_map.mpr (among.imp Span.Laminar.distinct)
  · refine List.pairwise_map.mpr (among.imp_of_mem fun {a b} memberA memberB related => ?_)
    -- neither encloses the other, since both are outermost
    have different : span a ≠ span b := fun same => related.distinct (congrArg Span.start same)
    rcases related.nested with apart | outer | inner
    · exact apart
    · exact absurd outer ((mem_outermost.mp memberB).2 a (kept a memberA) different)
    · exact absurd inner ((mem_outermost.mp memberA).2 b (kept b memberB) different.symm)
  · obtain ⟨item, found, rfl⟩ := List.mem_map.mp member
    exact placed item (kept item found)

/-- Of items none of which encloses another one, all are outermost. -/
theorem outermost_perm (apart : items.Pairwise fun a b =>
    ¬ (span a).encloses (span b) ∧ ¬ (span b).encloses (span a)) : (outermost span items).Perm items := by
  refine (List.mergeSort_perm _ _).trans (List.Perm.of_eq (List.filter_eq_self.mpr ?_))
  intro item member
  rw [Bool.not_eq_true', List.any_eq_false]
  intro other member' inner
  obtain ⟨different, encloses⟩ := Bool.and_eq_true_iff.mp inner
  have symmetric : Std.Symm fun a b : α =>
      ¬ (span a).encloses (span b) ∧ ¬ (span b).encloses (span a) := ⟨fun _ _ => And.symm⟩
  have distinct : other ≠ item := by
    rintro rfl
    exact bne_iff_ne.mp different rfl
  exact (apart.forall member' member distinct).1 encloses

end Outermost

/-! ### Matched tags -/

/-- Tags in order, each of which ends before the next one begins. -/
abbrev Tag.Ordered (tags : List Tag) : Prop :=
  tags.Pairwise fun a b => a.stop.offset ≤ b.start.offset

namespace Enclosure

variable {α : Type}

/-- An enclosure that is closed before another one: it ends before the other begins, or lies in the
body of the other. -/
structure ClosedBefore (earlier later : Enclosure α) : Prop where
  closing : earlier.closing.stop.offset ≤ later.closing.start.offset
  opening : earlier.closing.stop.offset ≤ later.opening.start.offset ∨
    later.opening.stop.offset ≤ earlier.opening.start.offset

/-- An enclosure of two tags that are not empty, the first one before the second. -/
structure Proper (enclosure : Enclosure α) : Prop where
  opening : enclosure.opening.start.offset < enclosure.opening.stop.offset
  ordered : enclosure.opening.stop.offset ≤ enclosure.closing.start.offset
  closing : enclosure.closing.start.offset < enclosure.closing.stop.offset

variable {earlier later : Enclosure α}

theorem ClosedBefore.span_laminar (before : ClosedBefore earlier later) (proper : earlier.Proper)
    (proper' : later.Proper) : earlier.span.Laminar later.span := by
  obtain ⟨closing, opening⟩ := before
  obtain ⟨first, second, third⟩ := proper
  obtain ⟨first', second', third'⟩ := proper'
  refine ⟨?_, ?_⟩
  · simp only [Enclosure.span]
    omega
  · rw [Span.encloses_iff, Span.encloses_iff]
    simp only [Enclosure.span]
    omega

theorem ClosedBefore.body_laminar (before : ClosedBefore earlier later) (proper : earlier.Proper)
    (proper' : later.Proper) : earlier.body.Laminar later.body := by
  obtain ⟨closing, opening⟩ := before
  obtain ⟨first, second, third⟩ := proper
  obtain ⟨first', second', third'⟩ := proper'
  refine ⟨?_, ?_⟩
  · simp only [Enclosure.body]
    omega
  · rw [Span.encloses_iff, Span.encloses_iff]
    simp only [Enclosure.body]
    omega

end Enclosure

section Pairing

variable {α : Type} (role : Tag → Role α) {opened : List (α × Tag)} {tags : List Tag}

/-- The tags that are open already, the first one first, and the tags behind them. -/
def tagsInOrder (opened : List (α × Tag)) (tags : List Tag) : List Tag :=
  (opened.map Prod.snd).reverse ++ tags

theorem tagsInOrder_cons (info : α) (tag : Tag) :
    tagsInOrder ((info, tag) :: opened) tags = tagsInOrder opened (tag :: tags) := by
  simp [tagsInOrder]

section Roles

variable {role} {tag : Tag}

theorem pairTags_opens {info : α} (opens : role tag = .opens info) :
    pairTags role opened (tag :: tags) = pairTags role ((info, tag) :: opened) tags := by
  simp only [pairTags, opens]

theorem pairTags_closes (closes : role tag = .closes) (info : α) (opening : Tag) :
    pairTags role ((info, opening) :: opened) (tag :: tags) =
      ⟨info, opening, tag⟩ :: pairTags role opened tags := by
  simp only [pairTags, closes]

theorem pairTags_closes_nil (closes : role tag = .closes) :
    pairTags role [] (tag :: tags) = pairTags role [] tags := by
  simp only [pairTags, closes]

theorem pairTags_neither (neither : role tag = .neither) :
    pairTags role opened (tag :: tags) = pairTags role opened tags := by
  simp only [pairTags, neither]

end Roles

/-- An enclosure is closed by a tag of the list, and opened by one of the list or before it. -/
theorem mem_of_mem_pairTags {enclosure : Enclosure α}
    (member : enclosure ∈ pairTags role opened tags) :
    enclosure.closing ∈ tags ∧ (enclosure.opening ∈ opened.map Prod.snd ∨ enclosure.opening ∈ tags) := by
  fun_induction pairTags role opened tags with
  | case1 => exact absurd member List.not_mem_nil
  | case2 tag tags opened info opens ih =>
    obtain ⟨closing, opening⟩ := ih member
    refine ⟨List.mem_cons_of_mem _ closing, ?_⟩
    rcases opening with open' | inside
    · rcases List.mem_cons.mp open' with same | before
      · exact Or.inr (same ▸ List.mem_cons_self)
      · exact Or.inl before
    · exact Or.inr (List.mem_cons_of_mem _ inside)
  | case3 tag tags info opening opened closes ih =>
    rcases List.mem_cons.mp member with rfl | later
    · exact ⟨List.mem_cons_self, Or.inl List.mem_cons_self⟩
    · obtain ⟨closing, opening⟩ := ih later
      exact ⟨List.mem_cons_of_mem _ closing,
        opening.imp (List.mem_cons_of_mem _) (List.mem_cons_of_mem _)⟩
  | case4 tag tags closes ih =>
    obtain ⟨closing, opening⟩ := ih member
    exact ⟨List.mem_cons_of_mem _ closing, opening.imp id (List.mem_cons_of_mem _)⟩
  | case5 tag tags opened neither ih =>
    obtain ⟨closing, opening⟩ := ih member
    exact ⟨List.mem_cons_of_mem _ closing, opening.imp id (List.mem_cons_of_mem _)⟩

/-- **The enclosures of any list of tags do not cross.** They are listed as they are closed; an
enclosure still open when another one is closed lies around it. -/
theorem pairTags_pairwise (ordered : Tag.Ordered (tagsInOrder opened tags)) :
    (pairTags role opened tags).Pairwise Enclosure.ClosedBefore ∧
      ∀ enclosure ∈ pairTags role opened tags,
        enclosure.opening.stop.offset ≤ enclosure.closing.start.offset := by
  fun_induction pairTags role opened tags with
  | case1 => exact ⟨List.Pairwise.nil, fun enclosure member => absurd member List.not_mem_nil⟩
  | case2 tag tags opened info opens ih =>
    rw [tagsInOrder_cons] at ih
    exact ih ordered
  | case3 tag tags info opening opened closes ih =>
    rw [tagsInOrder_cons] at ordered
    obtain ⟨ordered, ordered', between⟩ := List.pairwise_append.mp ordered
    obtain ⟨first, ordered'⟩ := List.pairwise_cons.mp ordered'
    obtain ⟨behind, ordered'⟩ := List.pairwise_cons.mp ordered'
    obtain ⟨pairwise, inner⟩ := ih (List.pairwise_append.mpr ⟨ordered, ordered',
      fun a memberA b memberB => between a memberA b (by simp [memberB])⟩)
    refine ⟨List.pairwise_cons.mpr ⟨fun later member => ?_, pairwise⟩, fun enclosure member => ?_⟩
    · obtain ⟨closing, opens⟩ := mem_of_mem_pairTags role member
      refine ⟨behind _ closing, ?_⟩
      rcases opens with before | inside
      · exact Or.inr (between _ (List.mem_reverse.mpr before) opening List.mem_cons_self)
      · exact Or.inl (behind _ inside)
    · rcases List.mem_cons.mp member with rfl | later
      · exact first tag List.mem_cons_self
      · exact inner enclosure later
  | case4 tag tags closes ih =>
    exact ih (ordered.sublist ((List.sublist_cons_self tag tags).append_left _))
  | case5 tag tags opened neither ih =>
    exact ih (ordered.sublist ((List.sublist_cons_self tag tags).append_left _))

end Pairing

/-! ### Groups of branches -/

/-- What a tag does to a group of branches, apart from beginning another branch of it. -/
def branchRole (tag : Tag) : Role Unit :=
  match tag.directive? with
  | some ("if", _) => .opens ()
  | some ("endif", _) => .closes
  | _ => .neither

theorem exists_of_branchRole_opens {tag : Tag} {info : Unit} (opens : branchRole tag = .opens info) :
    ∃ argument, tag.directive? = some ("if", argument) := by
  unfold branchRole at opens
  split at opens
  · rename_i argument found
    exact ⟨argument, found⟩
  · cases opens
  · cases opens

theorem exists_of_branchRole_closes {tag : Tag} (closes : branchRole tag = .closes) :
    ∃ argument, tag.directive? = some ("endif", argument) := by
  unfold branchRole at closes
  split at closes
  · cases closes
  · rename_i argument found
    exact ⟨argument, found⟩
  · cases closes

/-- **The groups of branches are enclosures**: a tag that begins another branch neither opens nor
closes a group. -/
theorem groupBranches_span {opened : List OpenGroup} {pending : List (Unit × Tag)} {tags : List Tag}
    (same : opened.map OpenGroup.start = pending.map fun entry => entry.2.start.offset) :
    (groupBranches opened tags).map BranchGroup.span =
      (pairTags branchRole pending tags).map Enclosure.span := by
  fun_induction groupBranches opened tags generalizing pending with
  | case1 => rfl
  | case2 tag tags argument opened found ih =>
    have opens : branchRole tag = .opens () := by simp [branchRole, found]
    rw [pairTags_opens opens]
    exact ih (by simp [OpenGroup.ofTag, same])
  | case3 tag tags argument group opened found ih =>
    have neither : branchRole tag = .neither := by simp [branchRole, found]
    rw [pairTags_neither neither]
    exact ih same
  | case4 tag tags argument group opened found ih =>
    have neither : branchRole tag = .neither := by simp [branchRole, found]
    rw [pairTags_neither neither]
    exact ih same
  | case5 tag tags argument group opened found ih =>
    have closes : branchRole tag = .closes := by simp [branchRole, found]
    cases pending with
    | nil => cases same
    | cons entry pending =>
      obtain ⟨start, same⟩ := List.cons.inj same
      rw [pairTags_closes closes, List.map_cons, List.map_cons, ih same]
      simp [OpenGroup.close, Enclosure.span, start]
  | case6 tag tags opened noIf noElif noElse noEndif ih =>
    rcases role : branchRole tag with info | _ | _
    · obtain ⟨argument, found⟩ := exists_of_branchRole_opens role
      exact absurd found (noIf argument)
    · obtain ⟨argument, found⟩ := exists_of_branchRole_closes role
      cases opened with
      | nil =>
        have none : pending = [] := List.map_eq_nil_iff.mp same.symm
        subst none
        rw [pairTags_closes_nil role]
        exact ih rfl
      | cons group opened => exact absurd rfl (noEndif argument group opened found)
    · rw [pairTags_neither role]
      exact ih same

/-! ### Enclosures in a text -/

/-- A place in a text: an offset between two of its characters, or at an end. -/
def Text.IsPlace (text : Text) (offset : Nat) : Prop :=
  ∃ front rest, text = front ++ rest ∧ front.byteSize = offset

/-- The part of a text between two places is a slice. -/
theorem Text.IsPlace.slice? {text : Text} {start stop : Nat} (first : text.IsPlace start)
    (second : text.IsPlace stop) (ordered : start ≤ stop) :
    ∃ part, text.slice? start stop = some part := by
  obtain ⟨front, rest, rfl, rfl⟩ := first
  obtain ⟨front', rest', same, rfl⟩ := second
  obtain ⟨part, rfl, rfl⟩ := Text.exists_append_of_byteSize_le same ordered
  exact ⟨part, Text.slice?_eq_some_iff.mpr ⟨front, rest', same, rfl, rfl⟩⟩

section Scanned

variable {α : Type} (role : Tag → Role α) {source : Text} {tags : List Tag}

/-- A tag begins and ends at places of its text, and is not empty. -/
theorem scan_places (scanned : scan source = .ok tags) {tag : Tag} (member : tag ∈ tags) :
    source.IsPlace tag.start.offset ∧ source.IsPlace tag.stop.offset ∧
      tag.start.offset < tag.stop.offset := by
  have wide := scan_start_add_four_le_stop scanned member
  obtain ⟨front, rest, joined, start, stop⟩ :=
    Text.slice?_eq_some_iff.mp (scan_slice? scanned member)
  refine ⟨⟨front, tag.text ++ rest, ?_, start⟩, ⟨front ++ tag.text, rest, joined, stop⟩, by omega⟩
  rw [joined, List.append_assoc]

/-- The enclosures of some of the tags of a text. -/
theorem pairTags_proper (scanned : scan source = .ok tags) {some : List Tag}
    (among : some.Sublist tags) :
    (pairTags role [] some).Pairwise Enclosure.ClosedBefore ∧
      ∀ enclosure ∈ pairTags role [] some, enclosure.Proper ∧
        enclosure.opening ∈ tags ∧ enclosure.closing ∈ tags := by
  have ordered : Tag.Ordered (tagsInOrder ([] : List (α × Tag)) some) :=
    (scan_pairwise scanned).sublist among
  obtain ⟨pairwise, inner⟩ := pairTags_pairwise role ordered
  refine ⟨pairwise, fun enclosure member => ?_⟩
  obtain ⟨closing, opening⟩ := mem_of_mem_pairTags role member
  have opening : enclosure.opening ∈ tags :=
    among.mem (opening.resolve_left List.not_mem_nil)
  have closing : enclosure.closing ∈ tags := among.mem closing
  exact ⟨⟨(scan_places scanned opening).2.2, inner enclosure member,
    (scan_places scanned closing).2.2⟩, opening, closing⟩

/-- **The enclosures of a text do not cross** and are slices of it. -/
theorem pairTags_span_laminar (scanned : scan source = .ok tags) {some : List Tag}
    (among : some.Sublist tags) :
    (pairTags role [] some).Pairwise (fun a b => a.span.Laminar b.span) ∧
      ∀ enclosure ∈ pairTags role [] some,
        ∃ part, source.slice? enclosure.span.start enclosure.span.stop = .some part := by
  obtain ⟨pairwise, proper⟩ := pairTags_proper role scanned among
  refine ⟨pairwise.imp_of_mem fun {a b} memberA memberB before =>
    before.span_laminar (proper a memberA).1 (proper b memberB).1, fun enclosure member => ?_⟩
  obtain ⟨⟨first, second, third⟩, opening, closing⟩ := proper enclosure member
  refine (scan_places scanned opening).1.slice? (scan_places scanned closing).2.1 ?_
  exact Nat.le_of_lt (Nat.lt_of_lt_of_le first (Nat.le_trans second (Nat.le_of_lt third)))

/-- **The bodies of the enclosures of a text do not cross** and are slices of it. -/
theorem pairTags_body_laminar (scanned : scan source = .ok tags) {some : List Tag}
    (among : some.Sublist tags) :
    (pairTags role [] some).Pairwise (fun a b => a.body.Laminar b.body) ∧
      ∀ enclosure ∈ pairTags role [] some,
        ∃ part, source.slice? enclosure.body.start enclosure.body.stop = .some part := by
  obtain ⟨pairwise, proper⟩ := pairTags_proper role scanned among
  refine ⟨pairwise.imp_of_mem fun {a b} memberA memberB before =>
    before.body_laminar (proper a memberA).1 (proper b memberB).1, fun enclosure member => ?_⟩
  obtain ⟨⟨first, second, third⟩, opening, closing⟩ := proper enclosure member
  exact (scan_places scanned opening).2.1.slice? (scan_places scanned closing).1 second

end Scanned

end TextTemplate
