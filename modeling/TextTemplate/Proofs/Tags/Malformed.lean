/-
**Malformed openers.**

A `for` without a proper head opens no loop, and a `block` without a name no block. Such an opener is
passed over, but its closer is not: it closes what is open around it. So a pair of tags is the one that
a reader sees, who counts the malformed openers too, just if none of them stands within it.

* `countedRole`: what a tag does if the malformed openers are counted;
* `BalancedBy`: a tag that opens something, and the one that closes it if they are counted;
* `PassesOver`: **a tag is paired with the one that balances it just if no malformed opener stands
  between them**, and else with one that closes a malformed opener;
* `scan_passesOver`: so the loops and the blocks of a text pass over their malformed openers.
-/

import Mathlib.Data.List.Nodup
import TextTemplate.Inheritance.Block
import TextTemplate.Proofs.Tags.Decomposition
import TextTemplate.Proofs.Tags.Matching
import TextTemplate.Rendering.Loop

namespace TextTemplate

/-! ### Tags that open and close -/

namespace Role

variable {α : Type}

/-- Whether a tag opens something. -/
def isOpening : Role α → Bool
  | .opens _ => true
  | .closes | .neither => false

/-- Whether a tag closes something. -/
def isClosing : Role α → Bool
  | .closes => true
  | .opens _ | .neither => false

@[simp] theorem isOpening_opens (info : α) : (opens info).isOpening = true := rfl
@[simp] theorem isOpening_closes : (closes : Role α).isOpening = false := rfl
@[simp] theorem isOpening_neither : (neither : Role α).isOpening = false := rfl
@[simp] theorem isClosing_opens (info : α) : (opens info).isClosing = false := rfl
@[simp] theorem isClosing_closes : (closes : Role α).isClosing = true := rfl
@[simp] theorem isClosing_neither : (neither : Role α).isClosing = false := rfl

end Role

/-- **Among balanced tags as many open something as close something.** -/
theorem Balanced.countP_eq {α : Type} {role : Tag → Role α} {tags : List Tag}
    (balanced : Balanced role tags) :
    tags.countP (fun tag => (role tag).isOpening) = tags.countP (fun tag => (role tag).isClosing) := by
  induction balanced with
  | nil => rfl
  | other neither _ ih => simpa [neither] using ih
  | pair opens _ closes _ ih ih' =>
    simp only [List.countP_cons, List.countP_append, opens, closes, ih, ih', Role.isOpening_opens,
      Role.isOpening_closes, Role.isClosing_opens, Role.isClosing_closes, if_true, Bool.false_eq_true,
      if_false]
    omega

/-- **Among tags of which more close something than open something** one stands that no tag in front of
it opens. -/
theorem exists_unmatched {α : Type} {role : Tag → Role α} {tags : List Tag}
    (more : tags.countP (fun tag => (role tag).isOpening) <
      tags.countP fun tag => (role tag).isClosing) :
    ∃ front closing rest, tags = front ++ closing :: rest ∧ Balanced role front ∧
      role closing = .closes := by
  induction length : tags.length using Nat.strong_induction_on generalizing tags with
  | _ n ih =>
  subst length
  rcases tags with _ | ⟨tag, tags⟩
  · simp at more
  rcases does : role tag with info | _ | _
  · have most : tags.countP (fun tag => (role tag).isOpening) <
        tags.countP fun tag => (role tag).isClosing := by
      simp only [List.countP_cons, does, Role.isOpening_opens, Role.isClosing_opens, if_true,
        Bool.false_eq_true, if_false] at more
      omega
    obtain ⟨inside, closer, behind, rfl, balanced, closes⟩ := ih _ (by simp) most rfl
    -- the pair is balanced, so the tags behind it have the closer that is sought
    have later : behind.countP (fun tag => (role tag).isOpening) <
        behind.countP fun tag => (role tag).isClosing := by
      simp only [List.countP_cons, List.countP_append, does, closes, balanced.countP_eq,
        Role.isOpening_opens, Role.isClosing_opens, Role.isOpening_closes, Role.isClosing_closes,
        if_true, Bool.false_eq_true, if_false] at more
      omega
    obtain ⟨front, closing, rest, rfl, balanced', closes'⟩ := ih _ (by simp; omega) later rfl
    exact ⟨tag :: (inside ++ closer :: front), closing, rest, by simp,
      Balanced.pair does balanced closes balanced', closes'⟩
  · exact ⟨[], tag, tags, rfl, Balanced.nil, does⟩
  · have same : tags.countP (fun tag => (role tag).isOpening) <
        tags.countP fun tag => (role tag).isClosing := by simpa [does] using more
    obtain ⟨front, closing, rest, rfl, balanced, closes⟩ := ih _ (by simp) same rfl
    exact ⟨tag :: front, closing, rest, rfl, Balanced.other does balanced, closes⟩

/-! ### Counting the malformed openers -/

section Counted

variable {α : Type}

/-- **What a tag does if the malformed openers are counted**: they open something about which nothing is
known. -/
def countedRole (malformed : Tag → Bool) (role : Tag → Role α) (tag : Tag) : Role (Option α) :=
  if malformed tag then .opens none
  else
    match role tag with
    | .opens info => .opens (some info)
    | .closes => .closes
    | .neither => .neither

/-- **A tag that opens something and the one that balances it**, if the malformed openers are counted. -/
structure BalancedBy (malformed : Tag → Bool) (role : Tag → Role α) (tags : List Tag)
    (enclosure : Enclosure α) (inside : List Tag) : Prop where
  opens : role enclosure.opening = .opens enclosure.info
  closes : role enclosure.closing = .closes
  balanced : Balanced (countedRole malformed role) inside
  joined : ∃ before behind,
    tags = before ++ enclosure.opening :: (inside ++ enclosure.closing :: behind)

variable {malformed : Tag → Bool} {role : Tag → Role α} {tags inside : List Tag}
  {enclosure : Enclosure α}

/-- A tag that is no malformed opener does what it does. -/
theorem countedRole_cases (role : Tag → Role α) {tag : Tag} (wellFormed : malformed tag = false) :
    (∃ info, role tag = .opens info ∧ countedRole malformed role tag = .opens (some info)) ∨
      (role tag = .closes ∧ countedRole malformed role tag = .closes) ∨
      (role tag = .neither ∧ countedRole malformed role tag = .neither) := by
  cases does : role tag <;> simp [countedRole, wellFormed, does]

/-- Without malformed openers, tags that are balanced if these are counted are balanced. -/
theorem Balanced.of_counted (balanced : Balanced (countedRole malformed role) tags)
    (wellFormed : ∀ tag ∈ tags, malformed tag = false) : Balanced role tags := by
  induction balanced with
  | nil => exact Balanced.nil
  | @other tag tags neither _ ih =>
    have rest := ih fun other member => wellFormed other (List.mem_cons_of_mem _ member)
    rcases countedRole_cases role (wellFormed tag List.mem_cons_self) with
      ⟨info, -, opens⟩ | ⟨-, closes⟩ | ⟨neither', -⟩
    · cases opens.symm.trans neither
    · cases closes.symm.trans neither
    · exact Balanced.other neither' rest
  | @pair opening closing info inside behind opens _ closes _ ih ih' =>
    have inner := ih fun other member => wellFormed other (by simp [member])
    have rest := ih' fun other member => wellFormed other (by simp [member])
    rcases countedRole_cases role (wellFormed opening List.mem_cons_self) with
      ⟨info', opens', -⟩ | ⟨-, same⟩ | ⟨-, same⟩
    · rcases countedRole_cases role (wellFormed closing (by simp)) with
        ⟨_, -, same⟩ | ⟨closes', -⟩ | ⟨-, same⟩
      · cases same.symm.trans closes
      · exact Balanced.pair opens' inner closes' rest
      · cases same.symm.trans closes
    · cases same.symm.trans opens
    · cases same.symm.trans opens

variable (passed : ∀ tag, malformed tag = true → role tag = .neither)

include passed

/-- The malformed openers are counted in addition to the others. -/
theorem countP_counted (tags : List Tag) :
    tags.countP (fun tag => (countedRole malformed role tag).isOpening) =
        tags.countP (fun tag => (role tag).isOpening) + tags.countP malformed ∧
      tags.countP (fun tag => (countedRole malformed role tag).isClosing) =
        tags.countP (fun tag => (role tag).isClosing) := by
  induction tags with
  | nil => exact ⟨rfl, rfl⟩
  | cons tag tags ih =>
    obtain ⟨opening, closing⟩ := ih
    simp only [List.countP_cons, opening, closing]
    cases bad : malformed tag with
    | true =>
      have counted : countedRole malformed role tag = .opens none := if_pos bad
      simp [counted, passed tag bad, Nat.add_assoc]
    | false =>
      obtain ⟨info, does, counted⟩ | ⟨does, counted⟩ | ⟨does, counted⟩ :=
        countedRole_cases role bad
      · simp [does, counted, Nat.add_right_comm]
      · simp [does, counted]
      · simp [does, counted]

/-- **A tag is paired with the one that balances it just if no malformed opener stands between them.** -/
theorem BalancedBy.paired_iff (distinct : tags.Nodup)
    (balances : BalancedBy malformed role tags enclosure inside) :
    enclosure ∈ pairTags role [] tags ↔ ∀ tag ∈ inside, malformed tag = false := by
  obtain ⟨opens, closes, balanced, before, behind, joined⟩ := balances
  rw [mem_pairTags_iff]
  constructor
  · rintro ⟨-, -, before', between, behind', balanced', joined'⟩
    -- as the tags are distinct, the same ones stand between the two
    rw [joined] at distinct joined'
    obtain ⟨alone, distinct'⟩ := List.nodup_cons.mp (List.nodup_middle.mp distinct)
    rw [List.mem_append, not_or] at alone
    obtain ⟨-, -, joined'⟩ := (List.append_cons_inj_of_notMem alone.1 alone.2).mp joined'
    obtain ⟨alone, -⟩ := List.nodup_cons.mp
      (List.nodup_middle.mp (List.nodup_append.mp distinct').2.1)
    rw [List.mem_append, not_or] at alone
    obtain ⟨rfl, -, -⟩ := (List.append_cons_inj_of_notMem alone.1 alone.2).mp joined'
    have counted := balanced.countP_eq
    rw [(countP_counted passed inside).1, (countP_counted passed inside).2, balanced'.countP_eq]
      at counted
    have none : inside.countP malformed = 0 := by omega
    exact fun tag member => Bool.eq_false_iff.mpr (List.countP_eq_zero.mp none tag member)
  · exact fun wellFormed =>
      ⟨opens, closes, before, inside, behind, balanced.of_counted wellFormed, joined⟩

/-- **A malformed opener leaves its closer to the tag that is open around it.** -/
theorem BalancedBy.exists_robber (balances : BalancedBy malformed role tags enclosure inside)
    {tag : Tag} (member : tag ∈ inside) (bad : malformed tag = true) :
    ∃ closing ∈ inside,
      Enclosure.mk enclosure.info enclosure.opening closing ∈ pairTags role [] tags := by
  obtain ⟨opens, -, balanced, before, behind, joined⟩ := balances
  have counted := balanced.countP_eq
  rw [(countP_counted passed inside).1, (countP_counted passed inside).2] at counted
  have some : 0 < inside.countP malformed := List.countP_pos_iff.mpr ⟨tag, member, bad⟩
  obtain ⟨front, closing, rest, rfl, balanced', closes⟩ :=
    exists_unmatched (show inside.countP (fun tag => (role tag).isOpening) <
      inside.countP fun tag => (role tag).isClosing by omega)
  refine ⟨closing, by simp, mem_pairTags_iff.mpr ⟨opens, closes, before, front,
    rest ++ enclosure.closing :: behind, balanced', ?_⟩⟩
  rw [joined, List.append_assoc]
  rfl

end Counted

/-! ### Loops and blocks -/

/-- **How the pairs of some tags pass over their malformed openers.** -/
structure PassesOver {α : Type} (malformed : Tag → Bool) (role : Tag → Role α) (tags : List Tag) :
    Prop where
  /-- A tag is paired with the one that balances it just if no malformed opener stands between them. -/
  paired : ∀ enclosure inside, BalancedBy malformed role tags enclosure inside →
    (enclosure ∈ pairTags role [] tags ↔ ∀ tag ∈ inside, malformed tag = false)
  /-- If one does, then a tag between them closes the first one. -/
  robbed : ∀ enclosure inside, BalancedBy malformed role tags enclosure inside →
    (∃ tag ∈ inside, malformed tag = true) → ∃ closing ∈ inside,
      Enclosure.mk enclosure.info enclosure.opening closing ∈ pairTags role [] tags

/-- Whether a tag is a `for` that opens no loop. -/
def isMalformedLoop (tag : Tag) : Bool :=
  match tag.directive? with
  | some ("for", argument) => (LoopHead.ofArgument? argument).isNone
  | _ => false

/-- Whether a tag is a `block` without a name. -/
def isNamelessBlock (tag : Tag) : Bool :=
  match tag.directive? with
  | some ("block", argument) => argument.words.isEmpty
  | _ => false

theorem loopRole_of_isMalformedLoop {tag : Tag} (malformed : isMalformedLoop tag = true) :
    loopRole tag = .neither := by
  unfold isMalformedLoop at malformed
  unfold loopRole
  split at malformed
  next argument keyword =>
    rw [keyword]
    simp only [Option.isNone_iff_eq_none.mp malformed]
  next => cases malformed

theorem blockRole_of_isNamelessBlock {tag : Tag} (nameless : isNamelessBlock tag = true) :
    blockRole tag = .neither := by
  unfold isNamelessBlock at nameless
  unfold blockRole
  split at nameless
  next argument keyword =>
    rw [keyword]
    simp only [List.isEmpty_iff.mp nameless]
  next => cases nameless

/-- The tags of a text are distinct. -/
theorem scan_nodup {text : Text} {tags : List Tag} (scanned : scan text = .ok tags) : tags.Nodup := by
  refine (scan_pairwise scanned).imp_of_mem fun {a b} member _ apart same => ?_
  have long := scan_start_add_four_le_stop scanned member
  rw [← same] at apart
  omega

/-- **The loops and the blocks of a text pass over their malformed openers**, but not over what closes
these. -/
theorem scan_passesOver {text : Text} {tags : List Tag} (scanned : scan text = .ok tags) :
    PassesOver isMalformedLoop loopRole (tags.filter fun tag => tag.kind = .statement) ∧
      PassesOver isNamelessBlock blockRole tags := by
  have distinct := scan_nodup scanned
  refine ⟨⟨fun enclosure inside balances => ?_, fun enclosure inside balances ⟨_, member, bad⟩ => ?_⟩,
    ⟨fun enclosure inside balances => ?_, fun enclosure inside balances ⟨_, member, bad⟩ => ?_⟩⟩
  · exact balances.paired_iff (fun _ => loopRole_of_isMalformedLoop) (distinct.filter _)
  · exact balances.exists_robber (fun _ => loopRole_of_isMalformedLoop) member bad
  · exact balances.paired_iff (fun _ => blockRole_of_isNamelessBlock) distinct
  · exact balances.exists_robber (fun _ => blockRole_of_isNamelessBlock) member bad

/-- A loop within a malformed one is paired with the tag that balances it. -/
theorem paired_within_malformed_loop :
    let source := ("\x7b% for y of x %\x7d\x7b% for x in [1] %\x7da\x7b% endfor %\x7d" ++
      "\x7b% endfor %\x7d").toList
    let malformed : Tag := ⟨.statement, ⟨0, 0, 0⟩, ⟨16, 0, 16⟩, " for y of x ".toList⟩
    let opening : Tag := ⟨.statement, ⟨16, 0, 16⟩, ⟨34, 0, 34⟩, " for x in [1] ".toList⟩
    let closing : Tag := ⟨.statement, ⟨35, 0, 35⟩, ⟨47, 0, 47⟩, " endfor ".toList⟩
    let last : Tag := ⟨.statement, ⟨47, 0, 47⟩, ⟨59, 0, 59⟩, " endfor ".toList⟩
    let tags := [malformed, opening, closing, last]
    scan source = .ok tags ∧ Balanced (countedRole isMalformedLoop loopRole) tags ∧
      Enclosure.mk ⟨"x", "[1]".toList⟩ opening closing ∈ pairTags loopRole [] tags := by
  intro source malformed opening closing last tags
  have scanned : scan source = .ok tags := by decide +kernel
  have balances : BalancedBy isMalformedLoop loopRole tags
      ⟨⟨"x", "[1]".toList⟩, opening, closing⟩ [] :=
    ⟨by decide +kernel, by decide +kernel, Balanced.nil, [malformed], [last], rfl⟩
  let counted := countedRole isMalformedLoop loopRole
  have opens : counted malformed = .opens none := by decide +kernel
  have opens' : counted opening = .opens (some ⟨"x", "[1]".toList⟩) := by decide +kernel
  have closes : counted closing = .closes := by decide +kernel
  have closes' : counted last = .closes := by decide +kernel
  have inside := Balanced.pair opens' Balanced.nil closes Balanced.nil
  exact ⟨scanned, Balanced.pair opens inside closes' Balanced.nil,
    ((scan_passesOver scanned).1.paired _ _ balances).mpr fun _ none => nomatch none⟩

/-- **A malformed loop ends the one around it, and a nameless block the one around it**: neither is
paired with the tag that balances it, though the tags are well nested. -/
theorem robbed_by_malformed_opener :
    let opening : Tag := ⟨.statement, ⟨0, 0, 0⟩, ⟨21, 0, 21⟩, " for x in [1, 2] ".toList⟩
    let malformed : Tag := ⟨.statement, ⟨21, 0, 21⟩, ⟨37, 0, 37⟩, " for y of x ".toList⟩
    let closing : Tag := ⟨.statement, ⟨38, 0, 38⟩, ⟨50, 0, 50⟩, " endfor ".toList⟩
    let last : Tag := ⟨.statement, ⟨51, 0, 51⟩, ⟨63, 0, 63⟩, " endfor ".toList⟩
    let block : Tag := ⟨.statement, ⟨0, 0, 0⟩, ⟨13, 0, 13⟩, " block a ".toList⟩
    let nameless : Tag := ⟨.statement, ⟨14, 0, 14⟩, ⟨25, 0, 25⟩, " block ".toList⟩
    let blockEnd : Tag := ⟨.statement, ⟨26, 0, 26⟩, ⟨40, 0, 40⟩, " endblock ".toList⟩
    let lastEnd : Tag := ⟨.statement, ⟨41, 0, 41⟩, ⟨55, 0, 55⟩, " endblock ".toList⟩
    (scan ("\x7b% for x in [1, 2] %\x7d\x7b% for y of x %\x7da\x7b% endfor %\x7db" ++
        "\x7b% endfor %\x7d").toList = .ok [opening, malformed, closing, last] ∧
      BalancedBy isMalformedLoop loopRole [opening, malformed, closing, last]
        ⟨⟨"x", "[1, 2]".toList⟩, opening, last⟩ [malformed, closing] ∧
      Enclosure.mk ⟨"x", "[1, 2]".toList⟩ opening last ∉
        pairTags loopRole [] [opening, malformed, closing, last]) ∧
    (scan ("\x7b% block a %\x7d1\x7b% block %\x7d2\x7b% endblock %\x7d3" ++
        "\x7b% endblock %\x7d").toList = .ok [block, nameless, blockEnd, lastEnd] ∧
      BalancedBy isNamelessBlock blockRole [block, nameless, blockEnd, lastEnd]
        ⟨"a", block, lastEnd⟩ [nameless, blockEnd] ∧
      Enclosure.mk "a" block lastEnd ∉ pairTags blockRole [] [block, nameless, blockEnd, lastEnd]) := by
  intro opening malformed closing last block nameless blockEnd lastEnd
  have opens : countedRole isMalformedLoop loopRole malformed = .opens none := by decide +kernel
  have closes : countedRole isMalformedLoop loopRole closing = .closes := by decide +kernel
  have opens' : countedRole isNamelessBlock blockRole nameless = .opens none := by decide +kernel
  have closes' : countedRole isNamelessBlock blockRole blockEnd = .closes := by decide +kernel
  have loop := Balanced.pair opens Balanced.nil closes Balanced.nil
  have named := Balanced.pair opens' Balanced.nil closes' Balanced.nil
  exact ⟨⟨by decide +kernel, ⟨by decide +kernel, by decide +kernel, loop, [], [], rfl⟩,
      by decide +kernel⟩,
    ⟨by decide +kernel, ⟨by decide +kernel, by decide +kernel, named, [], [], rfl⟩,
      by decide +kernel⟩⟩

end TextTemplate
