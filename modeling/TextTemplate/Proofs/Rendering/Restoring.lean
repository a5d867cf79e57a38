/-
**Loops restore the scope.**

A loop binds its variable and `loop` for each item, and its body may assign to any names. When the
loop ends, with a result or with an error, both names have the bindings back that they had before. As
long as no value brings tags of its own, the only assignments that change other names are those of the
text.

* `Spares`: a rendering that leaves a name as it was, whether it fails or not;
* `spares_runLoop`: **a loop spares its own names, whatever its body does**;
* `Covers.repetition`: a repetition of a body, without a guard, where all values are stretches of text;
* `spares_repetition`: **a repetition spares the names that are not assigned to**, by induction on its
  depth;
* `loops_restore_scope`: **the expansion of loops changes no binding but by assignments.**
-/

import TextTemplate.Proofs.Rendering.Course

namespace TextTemplate
namespace Rendering

/-! ### Renderings that spare a name -/

/-- **A rendering spares a name**: it leaves the name with its binding, or unbound, whether it fails or
not. -/
def Spares {α : Type} (name : String) (rendering : Rendering α) : Prop :=
  ∀ before, ((ExceptT.run rendering).run before).2.scope.get? name = before.scope.get? name

section Spares

variable {α β : Type} {name : String}

theorem KeepsScope.spares {rendering : Rendering α} (keeps : KeepsScope rendering) (name : String) :
    Spares name rendering :=
  fun before => congrArg (Scope.get? · name) (keeps before)

/-- **Steps one after the other spare a name** if each of them does. -/
theorem Spares.bind {first : Rendering α} {next : α → Rendering β} (spares : Spares name first)
    (later : ∀ {before value after}, Gives first before value after → Spares name (next value)) :
    Spares name (first >>= next) := by
  intro before
  rw [run_bind]
  have same := spares before
  rcases done : (ExceptT.run first).run before with ⟨error | value, between⟩
  · rw [done] at same
    exact same
  · rw [done] at same
    exact (later done between).trans same

theorem Spares.mapM {make : α → Rendering β} {items : List α}
    (spares : ∀ item ∈ items, Spares name (make item)) : Spares name (items.mapM make) := by
  induction items with
  | nil => exact (keepsScope_pure _).spares name
  | cons item items ih =>
    obtain ⟨first, later⟩ := List.forall_mem_cons.mp spares
    rw [List.mapM_cons]
    exact first.bind fun _ => (ih later).bind fun _ => (keepsScope_pure _).spares name

theorem Spares.forM {make : α → Rendering PUnit} {items : List α}
    (spares : ∀ item ∈ items, Spares name (make item)) : Spares name (items.forM make) := by
  induction items with
  | nil => exact (keepsScope_pure _).spares name
  | cons item items ih =>
    obtain ⟨first, later⟩ := List.forall_mem_cons.mp spares
    exact first.bind fun _ => ih later

theorem spares_changeScope {change : Scope → Scope}
    (same : ∀ scope, (change scope).get? name = scope.get? name) : Spares name (changeScope change) :=
  fun before => same before.scope

variable {renderer : Renderer}

/-- An assignment to another name. -/
theorem spares_assign {assignment : Assignment} (other : assignment.name ≠ name) :
    Spares name (assign renderer assignment) := by
  refine ((keepsScope_ask renderer _).spares name).bind fun _ => spares_changeScope fun scope => ?_
  rw [Scope.get?_set, if_neg other]

/-! ### One loop -/

/-- The turns of a loop spare the names that the body spares, apart from those of the loop. -/
theorem spares_repeatBody {body : Rendering Text} (spares : Spares name body) {own : String}
    (notOwn : own ≠ name) (notLoop : loopName ≠ name) (length index : Nat)
    (done : List Text) (items : List Value) :
    Spares name (repeatBody body own length index done items) := by
  induction items generalizing index done with
  | nil => exact (keepsScope_pure _).spares name
  | cons item items ih =>
    have entered : Spares name (enterItem own index length item) := by
      refine spares_changeScope fun scope => ?_
      rw [Scope.get?_set, Scope.get?_set, if_neg notOwn, if_neg notLoop]
    exact entered.bind fun _ => spares.bind fun _ => ih _ _

/-- **A loop spares its own names, whatever its body does**, and the names that its body spares. -/
theorem spares_runLoop {body : Rendering Text} {head : LoopHead}
    (spared : name = head.name ∨ name = loopName ∨ Spares name body) :
    Spares name (runLoop renderer body head) := by
  refine ((keepsScope_ask renderer head.iterable).spares name).bind fun {_ value _} _ => ?_
  intro before
  -- the names get back what they are bound to here
  show ((ExceptT.run (do
    let outcome ← attempt (repeatBody body head.name value.items.length 0 [] value.items)
    changeScope fun scope => (scope.restore loopName (before.scope.get? loopName)).restore head.name
      (before.scope.get? head.name)
    settle outcome)).run before).2.scope.get? name = _
  rw [run_attempt_settle, Scope.get?_restore, Scope.get?_restore]
  by_cases isOwn : head.name = name
  · rw [if_pos isOwn, isOwn]
  · by_cases isLoop : loopName = name
    · rw [if_neg isOwn, if_pos isLoop, isLoop]
    · rw [if_neg isOwn, if_neg isLoop]
      have spares : Spares name body :=
        (spared.resolve_left (Ne.symm isOwn)).resolve_left (Ne.symm isLoop)
      exact spares_repeatBody spares isOwn isLoop _ 0 [] _ before

end Spares

/-! ### Composed texts -/

/-- The contract that allows everything, for what a rendering gives. -/
def anything : Contract where
  keeps _ := True
  allows _ := True
  anyScope _ _ := trivial

theorem covers_anything (renderer : Renderer) (neighbours : Neighbours)
    (inside : TagKind → Text → Prop) : Covers anything renderer neighbours inside where
  asks _ expression _ before _ := by
    rw [run_ask]
    rcases answer : renderer.evaluator expression before.scope with error | value
    · exact ⟨trivial, trivial⟩
    · exact ⟨⟨before.scope, answer⟩, trivial⟩
  scans _ _ := trivial

theorem Meets.of_gives {α : Type} {good : α → Prop} {rendering : Rendering α} {value : α}
    {before after : RenderState} (meets : Meets anything good rendering)
    (gives : Gives rendering before value after) : good value := by
  have admitted := (meets before trivial).1
  rwa [gives] at admitted

namespace Covers

variable {contract : Contract} {renderer : Renderer} {neighbours : Neighbours}
  {inside : TagKind → Text → Prop} (covers : Covers contract renderer neighbours inside)
  (values : StretchValues neighbours renderer)
include covers values

/-- **The passes over a composed text** give a stretch of text where all values are, if the repetitions
of shorter texts do. -/
theorem passes {text : Text} (composed : Composed neighbours inside true true text)
    {repetition : Text → Rendering Text}
    (turns : ∀ body, Composed neighbours inside true true body → body.length < text.length →
      Meets contract (Stretch neighbours true true) (repetition body)) :
    Meets contract (Stretch neighbours true true) (passes renderer repetition text) :=
  (covers.runAssignments composed).bind fun _ _ =>
    (covers.expandLoops composed turns).bind fun _ expanded =>
      (covers.branchLoop expanded (Nat.lt_succ_self _)).bind fun _ chosen =>
        (covers.substitute chosen).mono fun _ stretch => stretch values

/-- **A repetition of a loop's body** gives a stretch of text where all values are, if its depth is
enough or may be exceeded. -/
theorem repetition {depth : Nat} {body : Text} (composed : Composed neighbours inside true true body)
    (deep : contract.allows .tooDeep ∨ body.length < depth) :
    Meets contract (Stretch neighbours true true) (repetition renderer depth body) := by
  induction depth generalizing body with
  | zero => exact meets_throw _ (deep.resolve_right (Nat.not_lt_zero _))
  | succ depth ih =>
    refine (covers.passes values composed fun inner composed' shorter =>
      ih composed' (deep.imp_right fun _ => by omega)).bind fun text stretch => ?_
    -- the rendered text has no loops
    rw [expandLoops_of_unopened stretch.unopened]
    exact (covers.tagsOf (Composed.of_stretch stretch)).bind fun _ _ => meets_pure stretch

end Covers

/-! ### All loops of a text -/

section Loops

variable {renderer : Renderer} {name : String} {tags : List Tag}

/-- No tag assigns to a name. -/
def Unassigned (name : String) (tags : List Tag) : Prop :=
  ∀ tag ∈ tags, ∀ assignment ∈ tag.assignments, assignment.name ≠ name

variable (unassigned : Unassigned name tags) {front back : Bool} {text : Text}
  (composed : Composed Neighbours.quiet (Among tags) front back text)
include unassigned composed

/-- **The assignments of a text spare the names that its tags do not assign to.** -/
theorem spares_runAssignments : Spares name (runAssignments renderer text) := by
  refine ((keepsScope_statementsOf text).spares name).bind fun {_ statements _} gives => ?_
  obtain ⟨all, scanned, among⟩ := scan_of_gives_statementsOf gives
  refine Spares.forM fun assignment member => spares_assign ?_
  obtain ⟨tag, listed, held⟩ := List.mem_flatMap.mp member
  obtain ⟨tag', member', kind, body⟩ := composed.inside_of_mem scanned (among.mem listed)
  have same : tag'.assignments = tag.assignments := by
    unfold Tag.assignments Tag.directive? Tag.inner
    rw [kind, body]
  exact unassigned tag' member' assignment (same ▸ held)

omit unassigned in
/-- **The loops of a text spare a name** if the repetitions of their bodies do. -/
theorem spares_expandLoops {repetition : Text → Rendering Text}
    (turns : ∀ body, Composed Neighbours.quiet (Among tags) true true body →
      Spares name (repetition body)) : Spares name (expandLoops renderer repetition text) := by
  refine Spares.bind ?_ fun _ => (keepsScope_pure _).spares name
  refine ((keepsScope_statementsOf text).spares name).bind fun {_ statements _} gives => ?_
  obtain ⟨all, scanned, among⟩ := scan_of_gives_statementsOf gives
  refine Spares.mapM fun loop member => ?_
  obtain ⟨opening, closing, -⟩ := tags_of_mem_outermostLoops member
  have body := composed.slice scanned ⟨_, among.mem opening, rfl⟩ ⟨_, among.mem closing, rfl⟩
  exact (spares_runLoop (Or.inr (Or.inr (turns _ body)))).bind fun _ =>
    (keepsScope_pure _).spares name

end Loops

section Repetition

variable {renderer : Renderer} {name : String} {tags : List Tag}
  (values : StretchValues Neighbours.quiet renderer) (unassigned : Unassigned name tags)
include values unassigned

/-- **A repetition of a loop's body spares the names that are not assigned to.** -/
theorem spares_repetition {depth : Nat} {body : Text}
    (composed : Composed Neighbours.quiet (Among tags) true true body) :
    Spares name (repetition renderer depth body) := by
  induction depth generalizing body with
  | zero => exact (keepsScope_throw _).spares name
  | succ depth ih =>
    have rendered : Spares name (passes renderer (repetition renderer depth) body) := by
      refine (spares_runAssignments unassigned composed).bind fun _ => ?_
      refine (spares_expandLoops composed fun _ composed' => ih composed').bind fun _ => ?_
      refine ((keepsScope_chooseBranches renderer _).spares name).bind fun _ => ?_
      exact (keepsScope_substitute renderer _).spares name
    refine rendered.bind fun gives => ?_
    have stretch := ((covers_anything renderer Neighbours.quiet (Among tags)).passes values composed
      fun _ composed' _ => (covers_anything renderer _ _).repetition values composed'
        (Or.inl trivial)).of_gives gives
    rw [expandLoops_of_unopened stretch.unopened]
    exact ((keepsScope_tagsOf _).spares name).bind fun _ => (keepsScope_pure _).spares name

end Repetition

/-! ### Values without braces -/

/-- A text without an opening brace is quiet. -/
theorem quiet_of_notMem {text : Text} (plain : '{' ∉ text) : Quiet text := by
  induction text with
  | nil => exact quiet_nil
  | cons c text ih =>
    obtain ⟨other, plain'⟩ := not_or.mp (mt List.mem_cons.mpr plain)
    refine List.isChain_cons.mpr ⟨fun d _ => ?_, ih plain'⟩
    exact if_neg (Ne.symm other)

/-- The loops of a source that cannot be scanned are not expanded. -/
theorem run_expandLoops_of_fault {renderer : Renderer} {source : Text} {error : ScanError}
    (fault : scan source = .error error) (repetition : Text → Rendering Text) (scope : Scope) :
    (expandLoops renderer repetition source).run scope = (.error (.malformed error), ⟨scope, []⟩) := by
  unfold Rendering.run expandLoops loopEdits
  rw [run_bind, run_bind, run_statementsOf_of_fault fault]

/-- The tags of a text assign to no name that is not assigned to in it. -/
theorem unassigned_of_notMem {source : Text} {tags : List Tag} (scanned : scan source = .ok tags)
    {name : String} (unassigned : name ∉ (textAssignments source).map Assignment.name) :
    Unassigned name tags := by
  intro tag member assignment held same
  refine unassigned (List.mem_map.mpr ⟨assignment, ?_, same⟩)
  rw [textAssignments, setTags, flatMap_assignments_filter, textStatements, scanned]
  refine List.mem_flatMap.mpr ⟨tag, List.mem_filter.mpr ⟨member, ?_⟩, held⟩
  -- a tag with assignments is a statement
  rcases kind : tag.kind with - | -
  · have none : tag.directive? = none := by
      unfold Tag.directive?
      rw [kind]
    rw [Tag.assignments, none] at held
    exact absurd held List.not_mem_nil
  · rfl

/-- **Loops restore the scope.** Where the texts of all values are without an opening brace, the loops of
any source are expanded, with a result or with an error, so that a name no set statement of the source
assigns to has the binding that it had before; a depth as great as the source is long is not exceeded.
Every single loop gives its variable and `loop` their bindings back, whatever its body does and whether
it fails or not. -/
theorem loops_restore_scope (renderer : Renderer) :
    ((∀ expression scope value, renderer.evaluator expression scope = .ok value → '{' ∉ value.text) →
      ∀ source depth scope,
        (∀ name, name ∉ (textAssignments source).map Assignment.name →
          ((expandLoops renderer (repetition renderer depth) source).run scope).2.scope.get? name =
            scope.get? name) ∧
        (source.length ≤ depth →
          ((expandLoops renderer (repetition renderer depth) source).run scope).1 ≠
            .error .tooDeep)) ∧
    ∀ (body : Rendering Text) (head : LoopHead),
      Spares head.name (runLoop renderer body head) ∧ Spares loopName (runLoop renderer body head) := by
  refine ⟨fun plain source depth scope => ?_, fun body head =>
    ⟨spares_runLoop (Or.inl rfl), spares_runLoop (Or.inr (Or.inl rfl))⟩⟩
  have values : StretchValues Neighbours.quiet renderer := fun expression scope value answer =>
    stretch_quiet_iff.mpr (quiet_of_notMem (plain expression scope value answer))
  rcases scanned : scan source with error | tags
  · rw [run_expandLoops_of_fault scanned]
    exact ⟨fun _ _ => rfl, fun _ same => by cases same⟩
  · have composed := (drawn_of_scan scanned).composed
    refine ⟨fun name unassigned => ?_, fun deep => ?_⟩
    · exact spares_expandLoops composed (fun _ composed' =>
        spares_repetition values (unassigned_of_notMem scanned unassigned) composed') ⟨scope, []⟩
    · have covers : Covers (safety .bound source) renderer Neighbours.quiet (Among tags) :=
        covers_safety scanned
      have meets := covers.expandLoops composed fun _ composed' shorter =>
        covers.repetition values composed' (Or.inr (Nat.lt_of_lt_of_le shorter deep))
      exact ((safe_iff_meets.mpr meets).run scope).1

/-- An evaluator that knows a list and a number, and fails for all other expressions. -/
def listEvaluator : Evaluator := fun expression _ =>
  if expression = ['x', 's'] then .ok (.array [.bool true, .null])
  else if expression = ['1'] then .ok (.ofNat 1)
  else .error (.custom "no value")

theorem notMem_text_of_listEvaluator (expression : Text) (scope : Scope) (value : Value)
    (answer : listEvaluator expression scope = .ok value) : '{' ∉ value.text := by
  unfold listEvaluator at answer
  split at answer
  · cases answer
    decide +kernel
  split at answer
  · cases answer
    decide +kernel
  · cases answer

/-- A loop in a loop over the same variable, which is assigned to and then not found. Both names get
back what they were bound to; the other name that is assigned to keeps its new value. -/
theorem loops_restore_scope_on_error :
    let renderer : Renderer := ⟨listEvaluator, []⟩
    let source := ("\x7b% for x in xs %\x7d\x7b% set y = 1, loop = 1 %\x7d\x7b% for x in xs %\x7d" ++
      "\x7b\x7b oops \x7d\x7d\x7b% endfor %\x7d\x7b% endfor %\x7d").toList
    let scope : Scope := ⟨[("x", .bool false)]⟩
    let ended := (expandLoops renderer (repetition renderer source.length) source).run scope
    ended.1 = .error (.eval "oops".toList (.custom "no value")) ∧
      ended.2.scope.get? "x" = scope.get? "x" ∧ (ended.2.scope.get? "y").map Value.text = some ['1'] ∧
        Spares loopName
          (runLoop renderer (repetition renderer source.length source) ⟨"x", ['x', 's']⟩) := by
  intro renderer source scope ended
  have restores := (loops_restore_scope renderer).1 notMem_text_of_listEvaluator source source.length
    scope
  exact ⟨by decide +kernel, restores.1 "x" (by decide +kernel), by decide +kernel,
    ((loops_restore_scope renderer).2 _ _).2⟩

end Rendering
end TextTemplate
