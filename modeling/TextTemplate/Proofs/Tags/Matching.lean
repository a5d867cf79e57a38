/-
**Matched tags.**

A closing tag belongs to the last opening one that is still open. Without a stack this says: two tags
match if every tag between them that opens or closes something is matched between them as well. What
is open already, before or behind, does not matter.

* `Balanced`: tags that are matched among themselves, and others;
* `Matched`: **an enclosure of a list of tags**, by what stands between its two tags;
* `StillOpen`: what has been passed when some tags are open;
* `mem_pairTags_iff`: **the pairs of any list of tags are its enclosures**.
-/

import TextTemplate.Proofs.Edits.Nesting

namespace TextTemplate

variable {α : Type} {role : Tag → Role α}

/-- **Tags that are matched among themselves**: each one that opens something is closed by a later
one of them, and no other one closes anything. -/
inductive Balanced (role : Tag → Role α) : List Tag → Prop
  | nil : Balanced role []
  | other {tag : Tag} {tags : List Tag} :
    role tag = .neither → Balanced role tags → Balanced role (tag :: tags)
  | pair {opening closing : Tag} {info : α} {inside behind : List Tag} :
    role opening = .opens info → Balanced role inside → role closing = .closes →
      Balanced role behind → Balanced role (opening :: (inside ++ closing :: behind))

/-- **An enclosure of a list of tags**: a tag that opens it and a later one that closes it, with
nothing between them that is open at the second one or that closes the first one before. -/
structure Matched (role : Tag → Role α) (tags : List Tag) (enclosure : Enclosure α) : Prop where
  opens : role enclosure.opening = .opens enclosure.info
  closes : role enclosure.closing = .closes
  between : ∃ before inside behind, Balanced role inside ∧
    tags = before ++ enclosure.opening :: (inside ++ enclosure.closing :: behind)

namespace Balanced

theorem append {tags tags' : List Tag} (balanced : Balanced role tags)
    (balanced' : Balanced role tags') : Balanced role (tags ++ tags') := by
  induction balanced with
  | nil => exact balanced'
  | other neither _ ih => exact other neither ih
  | pair opens inside closes _ _ ih =>
    rw [List.cons_append, List.append_assoc, List.cons_append]
    exact pair opens inside closes ih

theorem single {tag : Tag} (neither : role tag = .neither) : Balanced role [tag] :=
  other neither nil

/-- Balanced tags leave open what is open. -/
theorem pairTags_append {between : List Tag} (balanced : Balanced role between) :
    ∃ pairs, ∀ opened tags,
      pairTags role opened (between ++ tags) = pairs ++ pairTags role opened tags := by
  induction balanced with
  | nil => exact ⟨[], fun opened tags => rfl⟩
  | other neither _ ih =>
    obtain ⟨pairs, passed⟩ := ih
    refine ⟨pairs, fun opened tags => ?_⟩
    rw [List.cons_append, pairTags_neither neither, passed]
  | @pair opening closing info inside behind opens _ closes _ ihInside ihBehind =>
    obtain ⟨pairs, passed⟩ := ihInside
    obtain ⟨pairs', passed'⟩ := ihBehind
    refine ⟨pairs ++ ⟨info, opening, closing⟩ :: pairs', fun opened tags => ?_⟩
    rw [List.cons_append, List.append_assoc, List.cons_append, pairTags_opens opens, passed,
      pairTags_closes closes, passed', List.append_assoc, List.cons_append]

end Balanced

/-- Any tags leave some of them open and make some pairs, whatever comes behind. -/
theorem exists_pairTags_append (role : Tag → Role α) (before : List Tag) (opened : List (α × Tag)) :
    ∃ pairs opened', ∀ tags,
      pairTags role opened (before ++ tags) = pairs ++ pairTags role opened' tags := by
  induction before generalizing opened with
  | nil => exact ⟨[], opened, fun tags => rfl⟩
  | cons tag before ih =>
    rcases does : role tag with info | _ | _
    · obtain ⟨pairs, opened', passed⟩ := ih ((info, tag) :: opened)
      refine ⟨pairs, opened', fun tags => ?_⟩
      rw [List.cons_append, pairTags_opens does, passed]
    · rcases opened with _ | ⟨⟨info, opening⟩, opened⟩
      · obtain ⟨pairs, opened', passed⟩ := ih []
        refine ⟨pairs, opened', fun tags => ?_⟩
        rw [List.cons_append, pairTags_closes_nil does, passed]
      · obtain ⟨pairs, opened', passed⟩ := ih opened
        refine ⟨⟨info, opening, tag⟩ :: pairs, opened', fun tags => ?_⟩
        rw [List.cons_append, pairTags_closes does, passed, List.cons_append]
    · obtain ⟨pairs, opened', passed⟩ := ih opened
      refine ⟨pairs, opened', fun tags => ?_⟩
      rw [List.cons_append, pairTags_neither does, passed]

/-- An enclosure is listed. -/
theorem Matched.mem_pairTags {tags : List Tag} {enclosure : Enclosure α}
    (paired : Matched role tags enclosure) (opened : List (α × Tag)) :
    enclosure ∈ pairTags role opened tags := by
  obtain ⟨opens, closes, before, inside, behind, balanced, rfl⟩ := paired
  obtain ⟨pairs, opened', passed⟩ := exists_pairTags_append role before opened
  obtain ⟨pairs', passed'⟩ := balanced.pairTags_append
  rw [passed, pairTags_opens opens, passed', pairTags_closes closes]
  simp

/-! ### What is open -/

/-- **The tags that are open** behind some tags, the last one first: behind each of them stand only
tags that are matched among themselves, up to the next one that is open. -/
inductive StillOpen (role : Tag → Role α) : List Tag → List (α × Tag) → Prop
  | none (passed : List Tag) : StillOpen role passed []
  | some {passed between : List Tag} {opened : List (α × Tag)} {tag : Tag} {info : α} :
    StillOpen role passed opened → role tag = .opens info → Balanced role between →
      StillOpen role (passed ++ tag :: between) ((info, tag) :: opened)

namespace StillOpen

variable {passed : List Tag} {opened : List (α × Tag)}

/-- Balanced tags leave open what is open. -/
theorem append {between : List Tag} (still : StillOpen role passed opened)
    (balanced : Balanced role between) : StillOpen role (passed ++ between) opened := by
  cases still with
  | none => exact none _
  | some still opens balanced' =>
    rw [List.append_assoc, List.cons_append]
    exact some still opens (balanced'.append balanced)

/-- A tag that opens something is open behind it. -/
theorem opens {tag : Tag} {info : α} (still : StillOpen role passed opened)
    (opens : role tag = .opens info) : StillOpen role (passed ++ [tag]) ((info, tag) :: opened) :=
  some still opens Balanced.nil

/-- A tag that closes something closes the last one that is open, and the others stay open. -/
theorem closes {tag opening : Tag} {info : α}
    (still : StillOpen role passed ((info, opening) :: opened)) (closes : role tag = .closes) :
    Matched role (passed ++ [tag]) ⟨info, opening, tag⟩ ∧ StillOpen role (passed ++ [tag]) opened := by
  cases still with
  | @some before inside _ _ _ still opens balanced =>
    have joined : before ++ opening :: inside ++ [tag] = before ++ opening :: (inside ++ [tag]) := by
      rw [List.append_assoc, List.cons_append]
    rw [joined]
    exact ⟨⟨opens, closes, before, inside, [], balanced, rfl⟩,
      still.append (Balanced.pair opens balanced closes Balanced.nil)⟩

end StillOpen

/-- An enclosure is one of more tags, too. -/
theorem Matched.append {tags : List Tag} {enclosure : Enclosure α}
    (paired : Matched role tags enclosure) (more : List Tag) :
    Matched role (tags ++ more) enclosure := by
  obtain ⟨opens, closes, before, inside, behind, balanced, rfl⟩ := paired
  refine ⟨opens, closes, before, inside, behind ++ more, balanced, ?_⟩
  simp only [List.append_assoc, List.cons_append]

/-- The pairs that are closed from some place on are enclosures of all tags. -/
theorem matched_of_mem_pairTags {passed tags : List Tag} {opened : List (α × Tag)}
    {enclosure : Enclosure α} (still : StillOpen role passed opened)
    (member : enclosure ∈ pairTags role opened tags) : Matched role (passed ++ tags) enclosure := by
  -- in each step one more tag is passed
  fun_induction pairTags role opened tags generalizing passed with
  | case1 => exact absurd member List.not_mem_nil
  | case2 tag tags opened info opens ih =>
    rw [List.append_cons]
    exact ih (still.opens opens) member
  | case3 tag tags info opening opened closes ih =>
    rw [List.append_cons]
    obtain ⟨matched, still'⟩ := still.closes closes
    rcases List.mem_cons.mp member with rfl | later
    · exact matched.append tags
    · exact ih still' later
  | case4 tag tags closes ih =>
    rw [List.append_cons]
    exact ih (StillOpen.none _) member
  | case5 tag tags opened neither ih =>
    rw [List.append_cons]
    exact ih (still.append (Balanced.single neither)) member

/-- **The pairs of any list of tags are its enclosures.** -/
theorem mem_pairTags_iff {tags : List Tag} {enclosure : Enclosure α} :
    enclosure ∈ pairTags role [] tags ↔ Matched role tags enclosure :=
  ⟨matched_of_mem_pairTags (StillOpen.none []), fun paired => paired.mem_pairTags []⟩

end TextTemplate
