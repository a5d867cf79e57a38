/-
**What repeated assignments leave.**

A set statement is carried out once with the source and once more in every turn of every loop around
it. If nothing else binds its name, the name is bound as often, each time to the value of the same
expression in a scope with the last binding.

* `Updates`: how a name is bound again and again;
* `Sole`: one set statement binds a name, and nothing else does;
* `updates_of_executes`: **the name is bound as often as the statement is carried out**;
* `sets_carried_out`: **how often each set statement of a source is carried out**;
* `set_ahead_of_control`: that is more often than control reaches it.
-/

import TextTemplate.Environment
import TextTemplate.Proofs.Rendering.Counting

namespace TextTemplate
namespace Rendering

variable {renderer : Renderer} {name : String} {expression : Text}

/-! ### Updates -/

/-- **A name is bound again and again**, each time to the value of an expression in a scope in which it
has the binding of the time before. -/
inductive Updates (renderer : Renderer) (name : String) (expression : Text) :
    (times : Nat) → Option Value → Option Value → Prop
  | none (binding : Option Value) : Updates renderer name expression 0 binding binding
  | update {times : Nat} {reached : Scope} {value : Value} {last : Option Value}
      (answer : renderer.evaluator expression reached = .ok value)
      (later : Updates renderer name expression times (some value) last) :
      Updates renderer name expression (times + 1) (reached.get? name) last

namespace Updates

theorem trans {times times' : Nat} {first middle last : Option Value}
    (updates : Updates renderer name expression times first middle)
    (updates' : Updates renderer name expression times' middle last) :
    Updates renderer name expression (times + times') first last := by
  induction updates with
  | none => rwa [Nat.zero_add]
  | update answer later ih =>
    rw [Nat.add_right_comm]
    exact update answer (ih updates')

/-- **A counter counts the updates**: if the expression takes each number to the next one, as far as it
gets. -/
theorem counter {times start : Nat} {first last : Option Value} {number : Nat → Value}
    (updates : Updates renderer name expression times first last) (begins : first = some (number start))
    (counts : ∀ n < start + times, ∀ reached : Scope, reached.get? name = some (number n) →
      renderer.evaluator expression reached = .ok (number (n + 1))) :
    last = some (number (start + times)) := by
  induction updates generalizing start with
  | none => exact begins
  | @update times reached value last answer later ih =>
    have next := counts start (by omega) reached begins
    rw [answer] at next
    cases next
    rw [← Nat.add_assoc, Nat.add_right_comm]
    exact ih rfl fun n small => counts n (by omega)

end Updates

/-! ### A name with one assignment -/

/-- **Only one set statement of a text binds a name**, the one at a place of the source if the text is
the part of the source that begins at `start`. -/
structure Sole (name : String) (expression : Text) (place start : Nat) (text : Text) : Prop where
  here : ∀ tag ∈ setTags text, start + tag.start.offset = place →
    tag.assignments = [⟨name, expression⟩]
  elsewhere : ∀ tag ∈ setTags text, start + tag.start.offset ≠ place →
    ∀ assignment ∈ tag.assignments, assignment.name ≠ name
  loops : ∀ tag ∈ textStatements text, ∀ head, loopRole tag = .opens head → head.name ≠ name

instance {α : Type} (role : Role α) (good : α → Prop) [DecidablePred good] :
    Decidable (∀ info, role = .opens info → good info) :=
  match role with
  | .opens info =>
    decidable_of_iff (good info) ⟨fun holds _ same => Role.opens.inj same ▸ holds, fun all => all info rfl⟩
  | .closes => .isTrue nofun
  | .neither => .isTrue nofun

instance (name : String) (expression : Text) (place start : Nat) (text : Text) :
    Decidable (Sole name expression place start text) :=
  decidable_of_iff
    ((∀ tag ∈ setTags text, start + tag.start.offset = place →
        tag.assignments = [⟨name, expression⟩]) ∧
      (∀ tag ∈ setTags text, start + tag.start.offset ≠ place →
        ∀ assignment ∈ tag.assignments, assignment.name ≠ name) ∧
      ∀ tag ∈ textStatements text, ∀ head, loopRole tag = .opens head → head.name ≠ name)
    ⟨fun ⟨here, elsewhere, loops⟩ => ⟨here, elsewhere, loops⟩,
      fun ⟨here, elsewhere, loops⟩ => ⟨here, elsewhere, loops⟩⟩

/-- Assignments of one expression to a name update it. -/
theorem Assigns.updates {assignments : List Assignment} {before after : Scope}
    (assigns : Assigns renderer assignments before after)
    (only : ∀ assignment ∈ assignments, assignment.name = name → assignment.expression = expression) :
    Updates renderer name expression
      (assignments.countP fun assignment => assignment.name = name) (before.get? name)
      (after.get? name) := by
  induction assigns with
  | done => exact Updates.none _
  | @assign assignment rest before after value answer later ih =>
    obtain ⟨first, only⟩ := List.forall_mem_cons.mp only
    have updates := ih only
    rw [Scope.get?_set] at updates
    by_cases same : assignment.name = name
    · rw [List.countP_cons, if_pos (decide_eq_true same)]
      rw [if_pos same] at updates
      exact Updates.update (first same ▸ answer) updates
    · rw [List.countP_cons, if_neg (by simpa using same)]
      rwa [if_neg same] at updates

section Sole

variable {place start : Nat} {text : Text} (sole : Sole name expression place start text)
include sole

theorem Sole.only : ∀ assignment ∈ textAssignments text, assignment.name = name →
    assignment.expression = expression := by
  intro assignment member same
  obtain ⟨tag, inside, held⟩ := List.mem_flatMap.mp member
  by_cases here : start + tag.start.offset = place
  · rw [sole.here tag inside here, List.mem_singleton] at held
    rw [held]
  · exact absurd same (sole.elsewhere tag inside here assignment held)

/-- The text binds the name as often as it carries out the statement. -/
theorem Sole.countP :
    (textAssignments text).countP (fun assignment => assignment.name = name) =
      ((setTags text).map fun tag => start + tag.start.offset).count place := by
  obtain ⟨here, elsewhere, -⟩ := sole
  rw [textAssignments]
  generalize setTags text = tags at here elsewhere ⊢
  induction tags with
  | nil => rfl
  | cons tag tags ih =>
    obtain ⟨here, here'⟩ := List.forall_mem_cons.mp here
    obtain ⟨elsewhere, elsewhere'⟩ := List.forall_mem_cons.mp elsewhere
    rw [List.flatMap_cons, List.countP_append, ih here' elsewhere', List.map_cons]
    by_cases same : start + tag.start.offset = place
    · rw [here same, same, List.count_cons_self]
      simp [Nat.add_comm]
    · rw [List.count_cons_of_ne same, List.countP_eq_zero.mpr fun assignment member => ?_, Nat.zero_add]
      simpa using elsewhere same assignment member

/-- In the body of a loop, too, only that statement binds the name. -/
theorem Sole.body {tags : List Tag} (scanned : scan text = .ok tags) {loop : Enclosure LoopHead}
    (member : loop ∈ textLoops text) :
    Sole name expression place (start + loop.body.start) (loop.body.of text) := by
  obtain ⟨inside, -, statements⟩ := statements_body scanned member
  have sets := sets_body scanned member
  refine ⟨fun tag member same => ?_, fun tag member other => ?_, fun tag member head opens => ?_⟩
  · obtain ⟨moved, inside, moves, -⟩ := sets.among tag member
    rw [← moves.assignments_eq]
    exact sole.here moved inside (by rw [moves.start, ← Nat.add_assoc, same])
  · obtain ⟨moved, inside, moves, -⟩ := sets.among tag member
    rw [← moves.assignments_eq]
    exact sole.elsewhere moved inside (by rwa [moves.start, ← Nat.add_assoc])
  · obtain ⟨moved, inside, moves, -⟩ := statements.among tag member
    exact sole.loops moved inside head (by rw [moves.loopRole_eq, opens])

/-- No loop of the text binds the name. -/
theorem Sole.loop {loop : Enclosure LoopHead} (member : loop ∈ textLoops text) :
    loop.info.name ≠ name := by
  obtain ⟨opening, -, opens⟩ := tags_of_mem_outermostLoops member
  exact sole.loops _ opening _ opens

end Sole

/-! ### The updates of a rendering -/

section Courses

variable {place : Nat} {before after : Scope} {visits : List Visit} (free : loopName ≠ name)
include free

/-- The turns of a loop update a name one after the other. -/
theorem Turns.updates {body : Course} {loop : Nat} {bound : String} {length index : Nat}
    {items : List Value} (turns : Turns body loop bound length index items before visits after)
    (other : bound ≠ name)
    (updates : ∀ {before visits after}, body before visits after →
      Updates renderer name expression (executions visits place) (before.get? name) (after.get? name)) :
    Updates renderer name expression (executions visits place) (before.get? name) (after.get? name) := by
  induction turns with
  | done => exact Updates.none _
  | turn visited later ih =>
    have first := updates visited
    rw [Scope.get?_set, if_neg other, Scope.get?_set, if_neg free] at first
    rw [executions_append, executions_within]
    exact first.trans ih

/-- Loops update a name one after the other. -/
theorem Loops.updates {body : Span → Course} {number : Nat} {loops : List (Enclosure LoopHead)}
    {reached : List Scope} (course : Loops renderer body number loops reached before visits after)
    (others : ∀ loop ∈ loops, loop.info.name ≠ name)
    (updates : ∀ loop ∈ loops, ∀ {before visits after}, body loop.body before visits after →
      Updates renderer name expression (executions visits place) (before.get? name) (after.get? name)) :
    Updates renderer name expression (executions visits place) (before.get? name) (after.get? name) := by
  induction course with
  | done => exact Updates.none _
  | loop answer turns later ih =>
    obtain ⟨other, others⟩ := List.forall_mem_cons.mp others
    obtain ⟨first, updates⟩ := List.forall_mem_cons.mp updates
    have rest := ih others updates
    rw [Scope.get?_restore, if_neg other, Scope.get?_restore, if_neg free] at rest
    rw [executions_append]
    exact (turns.updates free other first).trans rest

/-- **A name is bound as often as its only set statement is carried out.** -/
theorem updates_of_executes {depth start : Nat} {text : Text} {tags : List Tag}
    (scanned : scan text = .ok tags) (sole : Sole name expression place start text)
    (executes : Executes renderer depth start text before visits after) :
    Updates renderer name expression (executions visits place) (before.get? name)
      (after.get? name) := by
  induction depth generalizing start text tags before visits after with
  | zero => exact executes.elim
  | succ depth ih =>
    obtain ⟨between, reached, inner, assigns, loops, rfl⟩ := executes
    have first := assigns.updates sole.only
    rw [sole.countP] at first
    have rest := loops.updates free (fun loop member => sole.loop member) fun loop member {_ _ _} executes' => by
      obtain ⟨tags', scanned', -⟩ := statements_body scanned member
      exact ih scanned' (sole.body scanned member) executes'
    have both := first.trans rest
    rwa [executions, List.flatMap_cons, List.count_append]

end Courses

/-! ### Set statements -/

/-- **How a set statement of a source is carried out** in the visits of a rendering, `path` being the
loops around it. -/
structure CarriedOut (renderer : Renderer) (source : Text) (before after : Scope)
    (visits : List Visit) (place : Nat) (path : List Nat) : Prop where
  around : Around place 0 source path
  /-- Once in each visit whose loops are all around it, and in no other: once with the source, and once
  in each turn of each loop around it, be its branch chosen or not. -/
  once : ∀ visit ∈ visits, visit.sets.count place = if visit.loops <+: path then 1 else 0
  outside : path = [] → executions visits place = 1
  /-- Directly in one loop, once more than that has items when the source reaches it. -/
  directly : ∀ number, path = [number] → ∃ loop, (textLoops source)[number]? = some loop ∧
    ∃ outer ∈ visits, outer.turns = [] ∧ ∃ value, outer.RunsOver renderer number loop value ∧
      executions visits place = value.items.length + 1
  /-- If nothing else binds its name, a counter is raised as often as it is carried out. -/
  counter : ∀ name expression, Sole name expression place 0 source → loopName ≠ name →
    ∀ number : Nat → Value, before.get? name = some (number 0) →
      (∀ n < executions visits place, ∀ reached : Scope, reached.get? name = some (number n) →
        renderer.evaluator expression reached = .ok (number (n + 1))) →
      after.get? name = some (number (executions visits place))

/-- **How often the set statements of a source are carried out**, if it is rendered and its loops are
quiet: its visits are different combinations of turns, in each visit every loop in the text has as many
turns as there are items when the visit reaches the loop, and each statement is carried out once in each
of the visits to a text around it. -/
theorem sets_carried_out (renderer : Renderer) (source out : Text) (scope : Scope)
    (state : RenderState) (quiet : QuietLoops renderer source scope)
    (success : (renderText renderer source).run scope = (.ok out, state)) :
    ∃ visits, Executes renderer (source.length + 1) 0 source scope visits state.scope ∧
      (visits.map Visit.turns).Nodup ∧
      (∀ visit ∈ visits, ∀ number loop,
        (textLoops (bodyAt source visit.loops))[number]? = some loop →
          ∃ value, visit.RunsOver renderer number loop value ∧
            visits.countP (visit.isTurnOf number) = value.items.length) ∧
      ∀ tag ∈ setTags source, ∃ path,
        CarriedOut renderer source scope state.scope visits tag.start.offset path := by
  obtain ⟨tags, visits, scanned, executes⟩ := executes_of_gives_render quiet success
  refine ⟨visits, executes, nodup_turns executes,
    fun visit visited number loop found => countP_turns executes visited found, fun tag member => ?_⟩
  obtain ⟨path, around⟩ := exists_around tag.start.offset 0 scanned
  have once : ∀ visit ∈ visits,
      visit.sets.count tag.start.offset = if visit.loops <+: path then 1 else 0 := by
    intro visit visited
    rw [← Nat.zero_add tag.start.offset] at around ⊢
    exact count_sets scanned executes member around visited
  have counted : executions visits tag.start.offset =
      visits.countP fun visit => visit.loops <+: path :=
    executions_eq_countP fun visit visited => by simpa using once visit visited
  refine ⟨path, around, once, ?_, ?_, ?_⟩
  · rintro rfl
    rw [counted, ← countP_outside executes]
    exact List.countP_congr fun visit _ => by simp
  · rintro number rfl
    cases around with
    | @inside _ _ _ loop _ found =>
      rw [counted]
      exact ⟨loop, found, countP_directly executes found⟩
  · intro name expression sole free number begins counts
    have raised := (updates_of_executes free scanned sole executes).counter begins
      (by simpa using counts)
    rwa [Nat.zero_add] at raised

/-! ### A counter -/

/-- A counter in a branch of a loop that is never chosen. -/
def counterLoop : Text :=
  ("\x7b% for x in [1, 2] %\x7d\x7b\x7b x \x7d\x7d\x7b% if false %\x7d\x7b% set n = n + 1 %\x7d" ++
    "\x7b% endif %\x7d\x7b% endfor %\x7d").toList

/-- The expression of the counter is the next number, if that is a word. -/
theorem evaluate_next (extensions : Extensions) {reached : Scope} {number next : Int64}
    (bound : reached.get? "n" = some (.int number)) (fits : Integer.add? number 1 = some next) :
    evaluate extensions "n + 1".toList reached = .ok (.int next) := by
  have parsed : parseExpr "n + 1".toList = .ok (.arith .add (.name "n") (.literal (.int 1))) := by rfl
  have evaluated : evaluate extensions "n + 1".toList reached =
      evalExpr extensions reached (.arith .add (.name "n") (.literal (.int 1))) := by
    rw [evaluate, parsed]
    rfl
  rw [evaluated]
  simp [evalExpr, bound, arithmetic, integerArithmetic, exactArithmetic?, fits, bind, Except.bind]

/-- The loop runs over two numbers. -/
theorem evaluate_items (extensions : Extensions) (reached : Scope) :
    evaluate extensions "[1, 2]".toList reached = .ok (.array [.int 1, .int 2]) := by
  have parsed : parseExpr "[1, 2]".toList = .ok (.array [.literal (.int 1), .literal (.int 2)]) := by
    rfl
  rw [evaluate, parsed]
  rfl

/-- The only loop of the text. -/
theorem exists_loop_counterLoop :
    ∃ loop, textLoops counterLoop = [loop] ∧ loop.body = ⟨21, 72⟩ ∧
      loop.info = ⟨"x", "[1, 2]".toList⟩ := by
  have one : (textLoops counterLoop).map (fun loop => (loop.body, loop.info)) =
      [(⟨21, 72⟩, ⟨"x", "[1, 2]".toList⟩)] := by
    decide +kernel
  obtain ⟨loop, single, same⟩ := List.map_eq_singleton_iff.mp one
  simp only [Prod.mk.injEq] at same
  exact ⟨loop, single, same⟩

/-- The counter stands directly in the loop. -/
theorem around_counterLoop {path : List Nat} (around : Around 42 0 counterLoop path) : path = [0] := by
  have scans : (scan counterLoop).toOption.isSome := by decide +kernel
  have flat : (textLoops (Span.of ⟨21, 72⟩ counterLoop)).length = 0 := by decide +kernel
  obtain ⟨loop, one, body, -⟩ := exists_loop_counterLoop
  have found : (textLoops counterLoop)[0]? = some loop := by rw [one]; rfl
  rcases scanned : scan counterLoop with error | tags
  · rw [scanned] at scans
    cases scans
  · obtain ⟨inner, rfl, around'⟩ := around.of_inBody scanned found (by simp [InBody, body])
    rw [body] at around'
    cases around' with
    | outside => rfl
    | inside found' =>
      rw [List.length_eq_zero_iff.mp flat] at found'
      cases found'

/-- **The counter is raised by three** in a loop over two items, although its branch is not chosen. -/
theorem counter_in_unchosen_branch :
    let renderer : Renderer := ⟨evaluate .none, []⟩
    let scope : Scope := ⟨[("n", .int 0)]⟩
    QuietLoops renderer counterLoop scope ∧
      ∃ state, (renderText renderer counterLoop).run scope = (.ok "12".toList, state) ∧
      ∃ visits, Executes renderer (counterLoop.length + 1) 0 counterLoop scope visits state.scope ∧
        executions visits 42 = 3 ∧ state.scope.get? "n" = some (.int 3) := by
  intro renderer scope
  have quiet : QuietLoops renderer counterLoop scope := by decide +kernel
  have output : ((renderText renderer counterLoop).run scope).1 = .ok "12".toList := by decide +kernel
  obtain ⟨state, success⟩ : ∃ state,
      (renderText renderer counterLoop).run scope = (.ok "12".toList, state) := by
    generalize (renderText renderer counterLoop).run scope = result at output
    exact ⟨result.2, Prod.ext output rfl⟩
  obtain ⟨visits, executes, -, -, carried⟩ :=
    sets_carried_out renderer counterLoop "12".toList scope state quiet success
  obtain ⟨tag, member, place⟩ : ∃ tag ∈ setTags counterLoop, tag.start.offset = 42 := by decide +kernel
  obtain ⟨path, out⟩ := carried tag member
  rw [place] at out
  obtain ⟨loop, found, outer, -, -, value, ⟨reached, -, answer⟩, times⟩ :=
    out.directly 0 (around_counterLoop out.around)
  obtain ⟨loop', one, -, head⟩ := exists_loop_counterLoop
  rw [one] at found
  cases found
  rw [head] at answer
  cases (evaluate_items .none reached).symm.trans answer
  have sole : Sole "n" "n + 1".toList 42 0 counterLoop := by decide +kernel
  have next : ∀ n < 3, Integer.add? (Int64.ofNat n) 1 = some (Int64.ofNat (n + 1)) := by decide
  have raised := out.counter "n" "n + 1".toList sole (by decide) (fun n => .int (Int64.ofNat n)) rfl
    fun n small reached bound => evaluate_next .none bound (next n (by rwa [times] at small))
  rw [times] at raised
  exact ⟨quiet, state, success, visits, executes, times, raised⟩

/-- **A set statement is not carried out as often as control reaches it**: in a loop it is carried out
once more than there are items, and in a branch also if that is not chosen. -/
theorem set_ahead_of_control :
    let after (source : String) (bindings : List (String × Value)) : Scope :=
      ((renderText ⟨evaluate .none, []⟩ source.toList).run
        (Scope.ofContext (Context.ofList bindings))).2.scope
    ¬ (∀ items : List Value,
        ((after "\x7b% for x in xs %\x7d\x7b% set n = n + 1 %\x7d\x7b% endfor %\x7d"
          [("n", .int 0), ("xs", .array items)]).get? "n").map Value.text =
            some (Value.ofNat items.length).text) ∧
      ¬ (after "\x7b% if false %\x7d\x7b% set m = 1 %\x7d\x7b% endif %\x7d" []).get? "m" = none := by
  intro after
  constructor
  · intro exactly
    exact absurd (exactly [.int 1, .int 2]) (by decide +kernel)
  · intro never
    have bound : ((after "\x7b% if false %\x7d\x7b% set m = 1 %\x7d\x7b% endif %\x7d" []).get? "m").isSome := by
      decide +kernel
    rw [never] at bound
    cases bound

end Rendering
end TextTemplate
