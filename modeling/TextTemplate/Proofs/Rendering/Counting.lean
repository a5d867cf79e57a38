/-
**How often assignments are carried out.**

The body of a loop is a part of the text around it, and the scanner finds the same set statements in
both. So a set statement is carried out with every text that it stands in: once with the source, and
once more in every turn of every loop around it. Branches do not matter, since they are chosen later.

* `sets_body`: the set statements in the body of a loop are those of the text that stand there;
* `Around`: the loops around a place of the source;
* `nodup_turns`: no combination of turns is visited twice;
* `count_sets`: **a visit carries out a set statement once** if its loops are some of the outermost
  ones around the statement, and else not at all;
* `countP_turns`: **in each visit the loops of its text have as many turns as items**.
-/

import Mathlib.Data.List.Nodup
import TextTemplate.Proofs.Rendering.Course

namespace TextTemplate

/-! ### Tags that are moved -/

namespace Tag.Moved

variable {distance : Nat} {tag moved : Tag}

theorem directive?_eq (moves : tag.Moved distance moved) : moved.directive? = tag.directive? := by
  simp only [Tag.directive?, Tag.inner, moves.kind, moves.body]

theorem assignments_eq (moves : tag.Moved distance moved) : moved.assignments = tag.assignments := by
  simp only [Tag.assignments, moves.directive?_eq]

theorem loopRole_eq (moves : tag.Moved distance moved) : loopRole moved = loopRole tag := by
  simp only [loopRole, moves.directive?_eq]

end Tag.Moved

/-- The tags of a kind within a part, where the kind does not depend on the position. -/
theorem TagsWithin.filter {tags found : List Tag} {distance stop : Nat}
    (within : TagsWithin tags distance stop found) {kind : Tag → Bool}
    (same : ∀ tag moved, tag.Moved distance moved → kind moved = kind tag) :
    TagsWithin (tags.filter kind) distance stop (found.filter kind) := by
  constructor
  · intro tag member
    obtain ⟨member, holds⟩ := List.mem_filter.mp member
    obtain ⟨moved, inside, moves, ends⟩ := within.among tag member
    exact ⟨moved, List.mem_filter.mpr ⟨inside, (same tag moved moves).trans holds⟩, moves, ends⟩
  · intro moved member begins ends
    obtain ⟨member, holds⟩ := List.mem_filter.mp member
    obtain ⟨tag, inside, moves⟩ := within.all moved member begins ends
    exact ⟨tag, List.mem_filter.mpr ⟨inside, (same tag moved moves).symm.trans holds⟩, moves⟩

namespace Rendering

/-! ### The bodies of the loops of a text -/

section Bodies

variable {text : Text} {tags : List Tag} (scanned : scan text = .ok tags)
include scanned

theorem textStatements_sublist : (textStatements text).Sublist tags := by
  rw [textStatements, scanned]
  exact List.filter_sublist

/-- The set statements of a text stand at different places. -/
theorem nodup_setTags (start : Nat) :
    ((setTags text).map fun tag => start + tag.start.offset).Nodup := by
  have among : (setTags text).Sublist tags :=
    List.filter_sublist.trans (textStatements_sublist scanned)
  refine List.pairwise_map.mpr (((scan_pairwise scanned).sublist among).imp_of_mem ?_)
  intro a b memberA memberB ordered same
  have wide := scan_start_add_four_le_stop scanned (among.mem memberA)
  omega

variable {loop : Enclosure LoopHead} (member : loop ∈ textLoops text)
include member

/-- The body of a loop can be scanned, and has the statements of the text that stand in it. -/
theorem statements_body :
    ∃ inside, scan (loop.body.of text) = .ok inside ∧
      TagsWithin (textStatements text) loop.body.start loop.body.stop
        (textStatements (loop.body.of text)) := by
  have among := textStatements_sublist scanned
  obtain ⟨opening, closing, -⟩ := tags_of_mem_outermostLoops member
  obtain ⟨part, found⟩ := (pairTags_body_laminar loopRole scanned among).2 loop
    (mem_outermost.mp member).1
  obtain ⟨inside, scanned', within⟩ := scan_slice scanned found
    (Or.inr ⟨_, among.mem opening, rfl⟩) ⟨_, among.mem closing, rfl⟩
  have same : loop.body.of text = part := by
    rw [Span.of, Text.slice, found]
    rfl
  rw [same, textStatements, textStatements, scanned, scanned']
  exact ⟨inside, rfl, within.filter fun tag moved moves => by rw [moves.kind]⟩

/-- The set statements in the body of a loop. -/
theorem sets_body :
    TagsWithin (setTags text) loop.body.start loop.body.stop (setTags (loop.body.of text)) := by
  obtain ⟨inside, -, within⟩ := statements_body scanned member
  exact within.filter fun tag moved moves => by rw [moves.assignments_eq]

theorem length_body_lt : (loop.body.of text).length < text.length := by
  obtain ⟨opening, -⟩ := tags_of_mem_outermostLoops member
  exact length_slice_lt scanned ((textStatements_sublist scanned).mem opening) _

omit member in
/-- Different outermost loops have bodies that lie apart. -/
theorem bodies_apart {i j : Nat} {other : Enclosure LoopHead} (first : (textLoops text)[i]? = some loop)
    (second : (textLoops text)[j]? = some other) (different : i ≠ j) :
    loop.body.stop ≤ other.body.start ∨ other.body.stop ≤ loop.body.start := by
  have among := textStatements_sublist scanned
  have proper := (pairTags_proper loopRole scanned among).2
  obtain ⟨⟨opens, inner, closes⟩, -⟩ := proper loop
    (mem_outermost.mp (List.mem_of_getElem? first)).1
  obtain ⟨⟨opens', inner', closes'⟩, -⟩ := proper other
    (mem_outermost.mp (List.mem_of_getElem? second)).1
  have apart : (textLoops text).Pairwise fun a b =>
      a.span.stop ≤ b.span.start ∨ b.span.stop ≤ a.span.start :=
    List.pairwise_map.mp (soundSpans_outermostLoops scanned among).apart
  obtain ⟨short, rfl⟩ := List.getElem?_eq_some_iff.mp first
  obtain ⟨short', rfl⟩ := List.getElem?_eq_some_iff.mp second
  simp only [Enclosure.body]
  rcases Nat.lt_or_gt_of_ne different with before | behind
  · have spans := List.pairwise_iff_getElem.mp apart i j short short' before
    simp only [Enclosure.span] at spans
    omega
  · have spans := List.pairwise_iff_getElem.mp apart j i short' short behind
    simp only [Enclosure.span] at spans
    omega

end Bodies

/-! ### The loops around a place -/

/-- Whether a place of the source lies in the body of a loop of the text that stands at `start`. -/
def InBody (start place : Nat) (loop : Enclosure LoopHead) : Prop :=
  start + loop.body.start ≤ place ∧ place < start + loop.body.stop

/-- **The loops around a place** of the source, in a text that stands at `start`: in which of the
outermost loops of the text it lies, in which of those of the loop's body, and so on. -/
inductive Around (place : Nat) : (start : Nat) → Text → List Nat → Prop
  | outside {start : Nat} {text : Text} (apart : ∀ loop ∈ textLoops text, ¬ InBody start place loop) :
      Around place start text []
  | inside {start : Nat} {text : Text} {number : Nat} {loop : Enclosure LoopHead} {path : List Nat}
      (found : (textLoops text)[number]? = some loop) (within : InBody start place loop)
      (inner : Around place (start + loop.body.start) (loop.body.of text) path) :
      Around place start text (number :: path)

/-- Every place has loops around it, or none. -/
theorem exists_around (place start : Nat) {text : Text} {tags : List Tag}
    (scanned : scan text = .ok tags) : ∃ path, Around place start text path := by
  by_cases inside : ∃ loop ∈ textLoops text, InBody start place loop
  · obtain ⟨loop, member, within⟩ := inside
    obtain ⟨number, found⟩ := List.getElem?_of_mem member
    obtain ⟨tags', scanned', -⟩ := statements_body scanned member
    have shorter := length_body_lt scanned member
    obtain ⟨path, inner⟩ := exists_around place (start + loop.body.start) scanned'
    exact ⟨number :: path, Around.inside found within inner⟩
  · exact ⟨[], Around.outside fun loop member within => inside ⟨loop, member, within⟩⟩
termination_by text.length

/-- The loops around a place in the body of a loop. -/
theorem Around.of_inBody {place start : Nat} {text : Text} {path : List Nat}
    (around : Around place start text path) {tags : List Tag} (scanned : scan text = .ok tags)
    {number : Nat} {loop : Enclosure LoopHead} (found : (textLoops text)[number]? = some loop)
    (within : InBody start place loop) :
    ∃ inner, path = number :: inner ∧
      Around place (start + loop.body.start) (loop.body.of text) inner := by
  cases around with
  | outside apart => exact absurd within (apart loop (List.mem_of_getElem? found))
  | @inside _ _ number' loop' inner found' within' around' =>
    obtain rfl : number' = number := by
      by_contra different
      have apart := bodies_apart scanned found' found different
      simp only [InBody] at within within'
      omega
    rw [found] at found'
    cases found'
    exact ⟨inner, rfl, around'⟩

/-! ### Visits -/

section Courses

variable {renderer : Renderer} {reached : List Scope} {before after : Scope} {visits : List Visit}

/-- A visit in a loop belongs to one of its turns, none of which is before the first one. -/
theorem Turns.exists_visit {body : Course} {loop : Nat} {name : String} {length index : Nat}
    {items : List Value} (turns : Turns body loop name length index items before visits after)
    {visit : Visit} (member : visit ∈ visits) :
    ∃ item entered inner left, body entered inner left ∧
      ∃ visit' ∈ inner, visit = visit'.within loop item ∧ index ≤ item := by
  induction turns with
  | done => exact absurd member List.not_mem_nil
  | @turn index item items before between after inner rest visited later ih =>
    rcases List.mem_append.mp member with here | behind
    · obtain ⟨visit', inside, rfl⟩ := List.mem_map.mp here
      exact ⟨index, _, inner, between, visited, visit', inside, rfl, Nat.le_refl _⟩
    · obtain ⟨item', entered, inner', left, visited', visit', inside, same, ordered⟩ := ih behind
      exact ⟨item', entered, inner', left, visited', visit', inside, same, by omega⟩

/-- A visit in one of some loops belongs to a turn of it. -/
theorem Loops.exists_visit {body : Span → Course} {number : Nat} {loops : List (Enclosure LoopHead)}
    (course : Loops renderer body number loops reached before visits after) {visit : Visit}
    (member : visit ∈ visits) :
    ∃ index loop, loops[index]? = some loop ∧
      ∃ item entered inner left, body loop.body entered inner left ∧
        ∃ visit' ∈ inner, visit = visit'.within (number + index) item := by
  induction course with
  | done => exact absurd member List.not_mem_nil
  | @loop number loop loops reached before between after value here rest answer turns later ih =>
    rcases List.mem_append.mp member with first | behind
    · obtain ⟨item, entered, inner, left, visited, visit', inside, same, -⟩ := turns.exists_visit first
      exact ⟨0, loop, rfl, item, entered, inner, left, visited, visit', inside, same⟩
    · obtain ⟨index, loop', found, item, entered, inner, left, visited, visit', inside, same⟩ :=
        ih behind
      refine ⟨index + 1, loop', found, item, entered, inner, left, visited, visit', inside, ?_⟩
      rw [same, Nat.add_right_comm, Nat.add_assoc]

/-- The outermost turn of a visit in a loop. -/
theorem Turns.exists_head {body : Course} {loop : Nat} {name : String} {length index : Nat}
    {items : List Value} (turns : Turns body loop name length index items before visits after)
    {visit : Visit} (member : visit ∈ visits) :
    ∃ item, index ≤ item ∧ visit.turns.head? = some (loop, item) := by
  obtain ⟨item, -, -, -, -, visit', -, rfl, ordered⟩ := turns.exists_visit member
  exact ⟨item, ordered, rfl⟩

/-- The outermost turn of a visit in one of some loops. -/
theorem Loops.exists_head {body : Span → Course} {number : Nat} {loops : List (Enclosure LoopHead)}
    (course : Loops renderer body number loops reached before visits after) {visit : Visit}
    (member : visit ∈ visits) :
    ∃ loop item, number ≤ loop ∧ visit.turns.head? = some (loop, item) := by
  obtain ⟨index, -, -, item, -, -, -, -, visit', -, rfl⟩ := course.exists_visit member
  exact ⟨number + index, item, Nat.le_add_right _ _, rfl⟩

/-- Visits with different outermost turns are different. -/
theorem nodup_turns_append {visits' : List Visit} (first : (visits.map Visit.turns).Nodup)
    (second : (visits'.map Visit.turns).Nodup)
    (apart : ∀ visit ∈ visits, ∀ visit' ∈ visits', visit.turns.head? ≠ visit'.turns.head?) :
    ((visits ++ visits').map Visit.turns).Nodup := by
  rw [List.map_append]
  refine List.nodup_append.mpr ⟨first, second, fun turns here turns' behind same => ?_⟩
  obtain ⟨visit, member, rfl⟩ := List.mem_map.mp here
  obtain ⟨visit', member', rfl⟩ := List.mem_map.mp behind
  exact apart visit member visit' member' (congrArg List.head? same)

/-- A turn of a loop is made once, if each turn makes different visits. -/
theorem Turns.nodup {body : Course} {loop : Nat} {name : String} {length index : Nat}
    {items : List Value} (turns : Turns body loop name length index items before visits after)
    (distinct : ∀ {before visits after}, body before visits after → (visits.map Visit.turns).Nodup) :
    (visits.map Visit.turns).Nodup := by
  induction turns with
  | done => exact List.nodup_nil
  | @turn index item items before between after inner rest visited later ih =>
    refine nodup_turns_append ?_ ih fun visit here visit' behind => ?_
    · have injective : Function.Injective fun turns : List (Nat × Nat) => (loop, index) :: turns :=
        fun _ _ same => (List.cons.inj same).2
      have once := List.Nodup.map injective (distinct visited)
      rwa [List.map_map] at once ⊢
    · obtain ⟨visit, -, rfl⟩ := List.mem_map.mp here
      obtain ⟨item', ordered, head⟩ := later.exists_head behind
      simp only [head, Visit.within, List.head?_cons, ne_eq, Option.some.injEq, Prod.mk.injEq]
      omega

theorem Loops.nodup {body : Span → Course} {number : Nat} {loops : List (Enclosure LoopHead)}
    (course : Loops renderer body number loops reached before visits after)
    (distinct : ∀ {span before visits after}, body span before visits after →
      (visits.map Visit.turns).Nodup) : (visits.map Visit.turns).Nodup := by
  induction course with
  | done => exact List.nodup_nil
  | @loop number loop loops reached before between after value here rest answer turns later ih =>
    refine nodup_turns_append (turns.nodup distinct) ih fun visit first visit' behind => ?_
    obtain ⟨item, -, head⟩ := turns.exists_head first
    obtain ⟨loop', item', ordered, head'⟩ := later.exists_head behind
    simp only [head, head', ne_eq, Option.some.injEq, Prod.mk.injEq]
    omega

/-- **No combination of turns is visited twice.** -/
theorem nodup_turns {depth start : Nat} {text : Text}
    (executes : Executes renderer depth start text before visits after) :
    (visits.map Visit.turns).Nodup := by
  induction depth generalizing start text before visits after with
  | zero => exact executes.elim
  | succ depth ih =>
    obtain ⟨between, reached, inner, -, loops, rfl⟩ := executes
    refine List.nodup_cons.mpr ⟨fun member => ?_, loops.nodup ih⟩
    obtain ⟨visit, inside, same⟩ := List.mem_map.mp member
    obtain ⟨index, loop, -, item, -, -, -, -, visit', -, rfl⟩ := loops.exists_visit inside
    cases same

/-- The set statements that are carried out stand in the text. -/
theorem exists_set_of_executes {depth start : Nat} {text : Text} {tags : List Tag}
    (scanned : scan text = .ok tags)
    (executes : Executes renderer depth start text before visits after) {visit : Visit}
    (visited : visit ∈ visits) {place : Nat} (member : place ∈ visit.sets) :
    ∃ tag ∈ setTags text, place = start + tag.start.offset := by
  induction depth generalizing start text tags before visits after visit with
  | zero => exact executes.elim
  | succ depth ih =>
    obtain ⟨between, reached, inner, -, loops, rfl⟩ := executes
    rcases List.mem_cons.mp visited with rfl | later
    · obtain ⟨tag, inside, rfl⟩ := List.mem_map.mp member
      exact ⟨tag, inside, rfl⟩
    · obtain ⟨index, loop, found, item, _, inner', _, executes', visit', inside, rfl⟩ :=
        loops.exists_visit later
      have loop' := List.mem_of_getElem? found
      obtain ⟨tags', scanned', -⟩ := statements_body scanned loop'
      obtain ⟨tag, inside', rfl⟩ := ih scanned' executes' inside member
      obtain ⟨moved, inside'', moves, -⟩ := (sets_body scanned loop').among tag inside'
      exact ⟨moved, inside'', by rw [moves.start, Nat.add_assoc]⟩

/-- A visit in a loop carries out what stands in the body of the loop only. -/
theorem inBody_of_executes {depth start : Nat} {text : Text} {tags : List Tag}
    (scanned : scan text = .ok tags) {loop : Enclosure LoopHead} (member : loop ∈ textLoops text)
    (executes : Executes renderer depth (start + loop.body.start) (loop.body.of text) before visits
      after) {visit : Visit} (visited : visit ∈ visits) {place : Nat} (carried : place ∈ visit.sets) :
    InBody start place loop := by
  obtain ⟨tags', scanned', -⟩ := statements_body scanned member
  obtain ⟨tag, inside, rfl⟩ := exists_set_of_executes scanned' executes visited carried
  obtain ⟨moved, inside', moves, ends⟩ := (sets_body scanned member).among tag inside
  have wide := scan_start_add_four_le_stop scanned
    ((textStatements_sublist scanned).mem (List.mem_of_mem_filter inside'))
  have begins := moves.start
  simp only [InBody]
  omega

/-- **A visit carries out a set statement once** if its loops are some of the outermost ones around the
statement, and else not at all. -/
theorem count_sets {depth start : Nat} {text : Text} {tags : List Tag}
    (scanned : scan text = .ok tags)
    (executes : Executes renderer depth start text before visits after) {tag : Tag}
    (member : tag ∈ setTags text) {path : List Nat}
    (around : Around (start + tag.start.offset) start text path) {visit : Visit}
    (visited : visit ∈ visits) :
    visit.sets.count (start + tag.start.offset) = if visit.loops <+: path then 1 else 0 := by
  induction depth generalizing start text tags tag path before visits after visit with
  | zero => exact executes.elim
  | succ depth ih =>
    obtain ⟨between, reached, inner, -, loops, rfl⟩ := executes
    rcases List.mem_cons.mp visited with rfl | later
    · -- the text itself
      rw [if_pos (show Visit.loops ⟨[], _, _⟩ <+: path from List.nil_prefix)]
      exact List.count_eq_one_of_mem (nodup_setTags scanned start)
        (List.mem_map_of_mem (f := fun tag => start + tag.start.offset) member)
    · obtain ⟨index, loop, found, item, _, inner', _, executes', visit', inside, rfl⟩ :=
        loops.exists_visit later
      rw [Nat.zero_add]
      have loop' := List.mem_of_getElem? found
      by_cases within : InBody start (start + tag.start.offset) loop
      · -- the statement stands in the body of the loop, too
        obtain ⟨path', rfl, around'⟩ := around.of_inBody scanned found within
        obtain ⟨tags', scanned', -⟩ := statements_body scanned loop'
        simp only [InBody] at within
        obtain ⟨tag', member', moves⟩ := (sets_body scanned loop').all tag member (by omega) (by omega)
        rw [moves.start, ← Nat.add_assoc] at around' ⊢
        refine (ih scanned' executes' member' around' inside).trans (if_congr ?_ rfl rfl)
        simp [Visit.within, Visit.loops, List.cons_prefix_cons]
      · have apart : ¬ (visit'.within index item).loops <+: path := by
          intro first
          cases around with
          | outside => exact absurd (List.prefix_nil.mp first) (List.cons_ne_nil _ _)
          | inside found' within' =>
            obtain ⟨rfl, -⟩ := List.cons_prefix_cons.mp first
            rw [found] at found'
            cases found'
            exact within within'
        rw [if_neg apart, List.count_eq_zero]
        exact fun carried => within (inBody_of_executes scanned loop' executes' inside carried)

/-! ### How many visits there are -/

/-- How often the set statement at a place of the source is carried out. -/
def executions (visits : List Visit) (place : Nat) : Nat :=
  (visits.flatMap Visit.sets).count place

theorem executions_append (visits visits' : List Visit) (place : Nat) :
    executions (visits ++ visits') place = executions visits place + executions visits' place := by
  rw [executions, List.flatMap_append, List.count_append]
  rfl

/-- It does not matter from where the visits are seen. -/
theorem executions_within (visits : List Visit) (loop item place : Nat) :
    executions (visits.map (Visit.within loop item)) place = executions visits place := by
  rw [executions, List.flatMap_map]
  rfl

theorem executions_eq_countP {place : Nat} {goes : Visit → Bool}
    (once : ∀ visit ∈ visits, visit.sets.count place = if goes visit then 1 else 0) :
    executions visits place = visits.countP goes := by
  induction visits with
  | nil => rfl
  | cons visit visits ih =>
    obtain ⟨first, later⟩ := List.forall_mem_cons.mp once
    rw [List.countP_cons, ← ih later, executions, List.flatMap_cons, List.count_append, first]
    exact Nat.add_comm _ _

/-- **The turns of a loop** are as many as the items, if the body is rendered once in each. -/
theorem Turns.countP {body : Course} {loop : Nat} {name : String} {length index : Nat}
    {items : List Value} (turns : Turns body loop name length index items before visits after)
    (one : ∀ {before visits after}, body before visits after →
      visits.countP (fun visit => visit.loops = []) = 1) :
    visits.countP (fun visit => visit.loops = [loop]) = items.length := by
  induction turns with
  | done => rfl
  | @turn index item items before between after inner rest visited later ih =>
    have first : (inner.map (Visit.within loop index)).countP (fun visit => visit.loops = [loop]) = 1 := by
      rw [List.countP_map, ← one visited]
      refine List.countP_congr fun visit _ => ?_
      simp [Visit.within, Visit.loops]
    rw [List.countP_append, first, ih, List.length_cons, Nat.add_comm]

/-- Where no visit is in a loop outermost, none is in it alone. -/
theorem countP_loops_eq_zero {number : Nat}
    (apart : ∀ visit ∈ visits, visit.turns.head?.map Prod.fst ≠ some number) :
    visits.countP (fun visit => visit.loops = [number]) = 0 := by
  refine List.countP_eq_zero.mpr fun visit member here => apart visit member ?_
  rw [← List.head?_map, ← Visit.loops, of_decide_eq_true here]
  rfl

/-- The turns of one of some loops are as many as the items of its value, in the scope in which the loop
is reached. -/
theorem Loops.countP {body : Span → Course} {number : Nat} {loops : List (Enclosure LoopHead)}
    (course : Loops renderer body number loops reached before visits after)
    (one : ∀ {span before visits after}, body span before visits after →
      visits.countP (fun visit => visit.loops = []) = 1)
    {index : Nat} {loop : Enclosure LoopHead} (found : loops[index]? = some loop) :
    ∃ scope value, reached[index]? = some scope ∧
      renderer.evaluator loop.info.iterable scope = .ok value ∧
        visits.countP (fun visit => visit.loops = [number + index]) = value.items.length := by
  induction course generalizing index with
  | done => cases found
  | @loop number first loops reached before between after value here rest answer turns later ih =>
    cases index with
    | zero =>
      cases found
      refine ⟨before, value, rfl, answer, ?_⟩
      have others : rest.countP (fun visit => visit.loops = [number]) = 0 :=
        countP_loops_eq_zero fun visit member head => by
          obtain ⟨loop', item, ordered, head'⟩ := later.exists_head member
          rw [head'] at head
          have same := Option.some.inj head
          omega
      rw [Nat.add_zero, List.countP_append, turns.countP one, others, Nat.add_zero]
    | succ index =>
      obtain ⟨scope, value', reaches, answer', counted⟩ := ih found
      refine ⟨scope, value', reaches, answer', ?_⟩
      have others : here.countP (fun visit => visit.loops = [number + (index + 1)]) = 0 :=
        countP_loops_eq_zero fun visit member head => by
          obtain ⟨item, -, head'⟩ := turns.exists_head member
          rw [head'] at head
          have same := Option.some.inj head
          omega
      rw [List.countP_append, others, Nat.zero_add, ← counted, Nat.add_right_comm, Nat.add_assoc]

/-- **A text is rendered once**, apart from what its loops render. -/
theorem countP_outside {depth start : Nat} {text : Text}
    (executes : Executes renderer depth start text before visits after) :
    visits.countP (fun visit => visit.loops = []) = 1 := by
  cases depth with
  | zero => exact executes.elim
  | succ depth =>
    obtain ⟨between, reached, inner, -, loops, rfl⟩ := executes
    have others : inner.countP (fun visit => visit.loops = []) = 0 := by
      refine List.countP_eq_zero.mpr fun visit member => ?_
      obtain ⟨index, loop, -, item, -, -, -, -, visit', -, rfl⟩ := loops.exists_visit member
      simp [Visit.within, Visit.loops]
    rw [List.countP_cons, others]
    simp [Visit.loops]

/-- **In an outermost loop and outside of it** there is one visit more than the loop has items. The visit
outside of all loops says which items these are. -/
theorem countP_directly {depth start : Nat} {text : Text}
    (executes : Executes renderer depth start text before visits after) {number : Nat}
    {loop : Enclosure LoopHead} (found : (textLoops text)[number]? = some loop) :
    ∃ outer ∈ visits, outer.turns = [] ∧ ∃ value, outer.RunsOver renderer number loop value ∧
      visits.countP (fun visit => visit.loops <+: [number]) = value.items.length + 1 := by
  cases depth with
  | zero => exact executes.elim
  | succ depth =>
    obtain ⟨between, reached, inner, -, loops, rfl⟩ := executes
    obtain ⟨scope, value, reaches, answer, counted⟩ := loops.countP countP_outside found
    refine ⟨_, List.mem_cons_self, rfl, value, ⟨scope, reaches, answer⟩, ?_⟩
    have inside : inner.countP (fun visit => visit.loops <+: [number]) =
        inner.countP fun visit => visit.loops = [0 + number] := by
      refine List.countP_congr fun visit member => ?_
      obtain ⟨index, loop', -, item, -, -, -, -, visit', -, rfl⟩ := loops.exists_visit member
      simp [Visit.within, Visit.loops, List.cons_prefix_cons]
    rw [List.countP_cons, inside, counted]
    simp [Visit.loops]

/-! ### Loops in loops -/

/-- What holds only in visits with a certain outermost turn is counted there. -/
theorem countP_eq_zero_of_head {holds : Visit → Bool} {turn : Nat × Nat}
    (only : ∀ visit, holds visit = true → visit.turns.head? = some turn)
    (apart : ∀ visit ∈ visits, visit.turns.head? ≠ some turn) : visits.countP holds = 0 :=
  List.countP_eq_zero.mpr fun visit member here => apart visit member (only visit here)

/-- What holds only in one turn of a loop is counted there. -/
theorem Turns.countP_within {body : Course} {loop : Nat} {name : String} {length index : Nat}
    {items : List Value} (turns : Turns body loop name length index items before visits after)
    {visit : Visit} (member : visit ∈ visits) :
    ∃ item, index ≤ item ∧ ∃ entered inner left, body entered inner left ∧
      (∃ visit' ∈ inner, visit = visit'.within loop item) ∧
        ∀ holds : Visit → Bool,
          (∀ other, holds other = true → other.turns.head? = some (loop, item)) →
            visits.countP holds = inner.countP fun other => holds (other.within loop item) := by
  induction turns with
  | done => exact absurd member List.not_mem_nil
  | @turn index item items before between after here rest visited later ih =>
    rcases List.mem_append.mp member with first | behind
    · obtain ⟨visit', inside, rfl⟩ := List.mem_map.mp first
      refine ⟨index, Nat.le_refl _, _, here, between, visited, ⟨visit', inside, rfl⟩,
        fun holds only => ?_⟩
      have none : rest.countP holds = 0 := countP_eq_zero_of_head only fun other member' head => by
        obtain ⟨item', ordered, head'⟩ := later.exists_head member'
        cases head.symm.trans head'
        omega
      rw [List.countP_append, none, List.countP_map]
      rfl
    · obtain ⟨item', ordered, entered, inner, left, visited', inside, counted⟩ := ih behind
      refine ⟨item', by omega, entered, inner, left, visited', inside, fun holds only => ?_⟩
      have none : (here.map (Visit.within loop index)).countP holds = 0 :=
        countP_eq_zero_of_head only fun other member' head => by
          obtain ⟨other', -, rfl⟩ := List.mem_map.mp member'
          cases head
          omega
      rw [List.countP_append, none, Nat.zero_add, counted holds only]

/-- What holds only in one turn of one of some loops is counted there. -/
theorem Loops.countP_within {body : Span → Course} {number : Nat}
    {loops : List (Enclosure LoopHead)}
    (course : Loops renderer body number loops reached before visits after) {visit : Visit}
    (member : visit ∈ visits) :
    ∃ index loop, loops[index]? = some loop ∧
      ∃ item entered inner left, body loop.body entered inner left ∧
        (∃ visit' ∈ inner, visit = visit'.within (number + index) item) ∧
          ∀ holds : Visit → Bool,
            (∀ other, holds other = true → other.turns.head? = some (number + index, item)) →
              visits.countP holds =
                inner.countP fun other => holds (other.within (number + index) item) := by
  induction course with
  | done => exact absurd member List.not_mem_nil
  | @loop number loop loops reached before between after value here rest answer turns later ih =>
    rcases List.mem_append.mp member with first | behind
    · obtain ⟨item, -, entered, inner, left, visited, inside, counted⟩ := turns.countP_within first
      refine ⟨0, loop, rfl, item, entered, inner, left, visited, inside, fun holds only => ?_⟩
      have none : rest.countP holds = 0 := countP_eq_zero_of_head only fun other member' head => by
        obtain ⟨loop', item', ordered, head'⟩ := later.exists_head member'
        cases head.symm.trans head'
        omega
      rw [List.countP_append, none, counted holds only]
      rfl
    · obtain ⟨index, loop', found, item, entered, inner, left, visited, inside, counted⟩ := ih behind
      rw [Nat.add_right_comm, Nat.add_assoc] at inside counted
      refine ⟨index + 1, loop', found, item, entered, inner, left, visited, inside,
        fun holds only => ?_⟩
      have none : here.countP holds = 0 := countP_eq_zero_of_head only fun other member' head => by
        obtain ⟨item', -, head'⟩ := turns.exists_head member'
        have same := (Prod.mk.inj (Option.some.inj (head.symm.trans head'))).1
        omega
      rw [List.countP_append, none, Nat.zero_add, counted holds only]

/-- The text that is rendered in the turns of some loops: the body of one of the outermost loops of a
text, of one of the outermost loops of that body, and so on. -/
def bodyAt (text : Text) : List Nat → Text
  | [] => text
  | number :: path =>
    match (textLoops text)[number]? with
    | some loop => bodyAt (loop.body.of text) path
    | none => []

/-- Whether a visit is a turn of a loop in the text of another visit. -/
def Visit.isTurnOf (outer : Visit) (number : Nat) (visit : Visit) : Bool :=
  visit.loops = outer.loops ++ [number] ∧ outer.turns <+: visit.turns

theorem Visit.isTurnOf_iff {outer visit : Visit} {number : Nat} :
    outer.isTurnOf number visit = true ↔
      visit.loops = outer.loops ++ [number] ∧ outer.turns <+: visit.turns :=
  decide_eq_true_iff

/-- From outside of a loop its visits look alike. -/
theorem Visit.isTurnOf_within {outer visit : Visit} {number loop item : Nat} :
    (outer.within loop item).isTurnOf number (visit.within loop item) = true ↔
      outer.isTurnOf number visit = true := by
  simp only [Visit.isTurnOf_iff, Visit.within, Visit.loops, List.map_cons, List.cons_append,
    List.cons.injEq, true_and, List.cons_prefix_cons]

/-- **In each visit the loops of its text have as many turns as items.** -/
theorem countP_turns {depth start : Nat} {text : Text}
    (executes : Executes renderer depth start text before visits after) {outer : Visit}
    (visited : outer ∈ visits) {number : Nat} {loop : Enclosure LoopHead}
    (found : (textLoops (bodyAt text outer.loops))[number]? = some loop) :
    ∃ value, outer.RunsOver renderer number loop value ∧
      visits.countP (outer.isTurnOf number) = value.items.length := by
  induction depth generalizing start text before visits after outer with
  | zero => exact executes.elim
  | succ depth ih =>
    obtain ⟨between, reached, inner, -, loops, rfl⟩ := executes
    rcases List.mem_cons.mp visited with rfl | later
    · obtain ⟨scope, value, reaches, answer, counted⟩ := loops.countP countP_outside found
      refine ⟨value, ⟨scope, reaches, answer⟩, ?_⟩
      rw [List.countP_cons_of_neg (by simp [Visit.isTurnOf_iff, Visit.loops]), ← counted]
      refine List.countP_congr fun visit _ => ?_
      rw [Visit.isTurnOf_iff, decide_eq_true_iff]
      simp [Visit.loops]
    · obtain ⟨index, loop', within, item, entered, inner', left, executes', ⟨visit, inside, rfl⟩,
        counted⟩ := loops.countP_within later
      rw [Nat.zero_add] at counted found ⊢
      have found' : (textLoops (bodyAt (loop'.body.of text) visit.loops))[number]? = some loop := by
        simpa [Visit.within, Visit.loops, bodyAt, within] using found
      obtain ⟨value, runs, turns⟩ := ih executes' inside found'
      refine ⟨value, runs, ?_⟩
      have only : ∀ other, (visit.within index item).isTurnOf number other = true →
          other.turns.head? = some (index, item) := by
        intro other turn
        obtain ⟨rest, same⟩ := (Visit.isTurnOf_iff.mp turn).2
        rw [← same]
        rfl
      rw [List.countP_cons_of_neg (by simp [Visit.isTurnOf_iff, Visit.within, Visit.loops]),
        counted _ only, ← turns]
      exact List.countP_congr fun other _ => Visit.isTurnOf_within

end Courses

end Rendering
end TextTemplate
