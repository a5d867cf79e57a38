/-
**What a rendering carries out.**

Only assignments and loops change the scope. So what a rendering leaves in the scope is told by the
texts that it renders, one after the other: the source, and then the bodies of its loops, once for
each item. All assignments of a text are carried out when it is rendered, before its loops are.

* `Visit`: one rendering of a text, with the turns of the loops around it;
* `Executes`: **the visits of a rendering of a text**, and the scope that they leave;
* `KeepsScope`: choosing branches and putting out values change no binding;
* `executes_of_gives_render`: **a rendering with quiet loops executes what its source says**.
-/

import TextTemplate.Proofs.Rendering.Safety

namespace TextTemplate

/-! ### What stands in a text -/

/-- The statements of a text, none if it cannot be scanned. -/
def textStatements (text : Text) : List Tag :=
  match scan text with
  | .ok tags => tags.filter fun tag => tag.kind = .statement
  | .error _ => []

/-- The set statements of a text that hold assignments, those in loops and in branches included. -/
def setTags (text : Text) : List Tag :=
  (textStatements text).filter fun tag => !tag.assignments.isEmpty

/-- The assignments of a text. -/
def textAssignments (text : Text) : List Assignment :=
  (setTags text).flatMap Tag.assignments

/-- The outermost loops of a text. -/
def textLoops (text : Text) : List (Enclosure LoopHead) :=
  Rendering.outermostLoops (textStatements text)

namespace Rendering

/-! ### Visits -/

/-- **One rendering of a text**: the turns of loops that it belongs to, the outermost first, where the
set statements stand in the source that it carries out, and in which scope it reaches each of the
outermost loops of the text. A turn says which of the outermost loops of the text around it is in which
of its items. -/
structure Visit where
  turns : List (Nat × Nat)
  sets : List Nat
  reached : List Scope

/-- Which loops a visit is in. -/
def Visit.loops (visit : Visit) : List Nat :=
  visit.turns.map Prod.fst

/-- **A loop of the text of a visit runs over the items of a value**: of what it iterates over, in the
scope in which the visit reaches it. -/
def Visit.RunsOver (renderer : Renderer) (visit : Visit) (number : Nat) (loop : Enclosure LoopHead)
    (value : Value) : Prop :=
  ∃ scope, visit.reached[number]? = some scope ∧
    renderer.evaluator loop.info.iterable scope = .ok value

/-- A visit as seen from outside of a loop. -/
def Visit.within (loop item : Nat) (visit : Visit) : Visit :=
  { visit with turns := (loop, item) :: visit.turns }

/-- The visits that are made from one scope on, and the scope that they leave. -/
abbrev Course := Scope → List Visit → Scope → Prop

/-- Assignments that are carried out one after the other. -/
inductive Assigns (renderer : Renderer) : List Assignment → Scope → Scope → Prop
  | done (scope : Scope) : Assigns renderer [] scope scope
  | assign {assignment : Assignment} {rest : List Assignment} {before after : Scope} {value : Value}
      (answer : renderer.evaluator assignment.expression before = .ok value)
      (later : Assigns renderer rest (before.set assignment.name value) after) :
      Assigns renderer (assignment :: rest) before after

/-- **The turns of a loop**, one for each item from `index` on. -/
inductive Turns (body : Course) (loop : Nat) (name : String) (length : Nat) :
    (index : Nat) → List Value → Course
  | done (index : Nat) (scope : Scope) : Turns body loop name length index [] scope [] scope
  | turn {index : Nat} {item : Value} {items : List Value} {before between after : Scope}
      {visits rest : List Visit}
      (visited : body ((before.set loopName (loopInfo index length)).set name item) visits between)
      (later : Turns body loop name length (index + 1) items between rest after) :
      Turns body loop name length index (item :: items) before
        (visits.map (Visit.within loop index) ++ rest) after

/-- **Loops one after the other**, the first of which has the given number, and the scopes in which they
are reached. The names of a loop get back the bindings that they had before it. -/
inductive Loops (renderer : Renderer) (body : Span → Course) :
    (number : Nat) → List (Enclosure LoopHead) → (reached : List Scope) → Course
  | done (number : Nat) (scope : Scope) : Loops renderer body number [] [] scope [] scope
  | loop {number : Nat} {loop : Enclosure LoopHead} {loops : List (Enclosure LoopHead)}
      {reached : List Scope} {before between after : Scope} {value : Value} {visits rest : List Visit}
      (answer : renderer.evaluator loop.info.iterable before = .ok value)
      (turns : Turns (body loop.body) number loop.info.name value.items.length 0 value.items before
        visits between)
      (later : Loops renderer body (number + 1) loops reached
        ((between.restore loopName (before.get? loopName)).restore loop.info.name
          (before.get? loop.info.name)) rest after) :
      Loops renderer body number (loop :: loops) (before :: reached) before (visits ++ rest) after

/-- **The visits of a rendering of a text** that stands at `start` in the source and whose loops are
nested less than `depth` deep: all its assignments are carried out, and then its loops. -/
def Executes (renderer : Renderer) : (depth start : Nat) → Text → Course
  | 0, _, _ => fun _ _ _ => False
  | depth + 1, start, text => fun before visits after =>
    ∃ between reached inner, Assigns renderer (textAssignments text) before between ∧
      Loops renderer (fun span => Executes renderer depth (start + span.start) (span.of text)) 0
        (textLoops text) reached between inner after ∧
      visits = ⟨[], (setTags text).map fun tag => start + tag.start.offset, reached⟩ :: inner

/-! ### Renderings that change no binding -/

/-- A rendering leaves the scope as it was, whether it fails or not. -/
def KeepsScope {α : Type} (rendering : Rendering α) : Prop :=
  ∀ before, ((ExceptT.run rendering).run before).2.scope = before.scope

section Keeps

variable {α β : Type}

theorem keepsScope_pure (value : α) : KeepsScope (pure value : Rendering α) :=
  fun _ => rfl

theorem keepsScope_throw (error : TemplateError) : KeepsScope (throw error : Rendering α) :=
  fun _ => rfl

theorem KeepsScope.bind {first : Rendering α} {next : α → Rendering β} (keeps : KeepsScope first)
    (later : ∀ value, KeepsScope (next value)) : KeepsScope (first >>= next) := by
  intro before
  rw [run_bind]
  have same := keeps before
  generalize (ExceptT.run first).run before = outcome at same ⊢
  obtain ⟨error | value, between⟩ := outcome
  · exact same
  · exact (later value between).trans same

/-- To keep the scope is kept by putting renderings together. -/
theorem congruence_keepsScope : Congruence fun _ first _ => KeepsScope first where
  pure := keepsScope_pure
  throw := keepsScope_throw
  bind := KeepsScope.bind

theorem KeepsScope.of_gives {rendering : Rendering α} (keeps : KeepsScope rendering)
    {before after : RenderState} {value : α} (gives : Gives rendering before value after) :
    after.scope = before.scope := by
  have same := keeps before
  rwa [gives] at same

variable (renderer : Renderer)

theorem keepsScope_ask (expression : Text) : KeepsScope (ask renderer expression) := by
  intro before
  rw [run_ask]
  cases renderer.evaluator expression before.scope <;> rfl

theorem keepsScope_tagsOf (text : Text) : KeepsScope (tagsOf text) :=
  congruence_keepsScope.tagsOf text

theorem keepsScope_statementsOf (text : Text) : KeepsScope (statementsOf text) :=
  congruence_keepsScope.statementsOf text

/-- **Choosing branches** changes no binding. -/
theorem keepsScope_chooseBranches (text : Text) : KeepsScope (chooseBranches renderer text) :=
  @Congruence.chooseBranches _ congruence_keepsScope renderer renderer (keepsScope_ask renderer) text

/-- **Putting out values** changes no binding. -/
theorem keepsScope_substitute (text : Text) : KeepsScope (substitute renderer text) :=
  @Congruence.substitute _ congruence_keepsScope renderer renderer (keepsScope_ask renderer) rfl text

theorem keepsScope_guardedSubstitute (text : Text) : KeepsScope (guardedSubstitute renderer text) := by
  refine (keepsScope_substitute renderer text).bind fun result => ?_
  split
  · exact keepsScope_pure _
  · exact keepsScope_throw _

end Keeps

/-! ### The courses of renderings -/

variable {renderer : Renderer} {before after : RenderState}

theorem Safe.of_gives {α : Type} {fault : Fault} {source : Text} {good : α → Prop}
    {rendering : Rendering α} (safe : Safe fault source good rendering)
    (asked : AskedFrom source before) {value : α} (gives : Gives rendering before value after) :
    good value ∧ AskedFrom source after := by
  have holds := safe before asked
  rwa [gives] at holds

/-- The scope is left as a course says, where a rendering succeeds. -/
def Carries (source : Text) (rendering : Rendering Text) (course : Course) : Prop :=
  ∀ before text after, AskedFrom source before → Gives rendering before text after →
    ∃ visits, course before.scope visits after.scope

/-- An expression that is evaluated has an answer, and is remembered. -/
theorem gives_ask_iff {expression : Text} {value : Value} :
    Gives (ask renderer expression) before value after ↔
      renderer.evaluator expression before.scope = .ok value ∧
        after = { before with asked := expression :: before.asked } := by
  unfold Gives
  rw [run_ask]
  rcases renderer.evaluator expression before.scope with error | answer
  · constructor
    · intro gives
      cases gives
    · rintro ⟨answer, -⟩
      cases answer
  · constructor
    · intro gives
      cases gives
      exact ⟨rfl, rfl⟩
    · rintro ⟨same, rfl⟩
      cases same
      rfl

theorem gives_changeScope_iff {change : Scope → Scope} {value : Unit} :
    Gives (changeScope change) before value after ↔
      after = { before with scope := change before.scope } := by
  constructor
  · intro gives
    cases gives
    rfl
  · rintro rfl
    rfl

/-- The statements of a text are those that the scanner finds. -/
theorem gives_statementsOf {text : Text} {statements : List Tag}
    (gives : Gives (statementsOf text) before statements after) :
    textStatements text = statements ∧ after = before := by
  obtain ⟨tags, between, found, made⟩ := gives_bind_iff.mp gives
  obtain ⟨scanned, rfl⟩ := gives_tagsOf_iff.mp found
  obtain ⟨rfl, rfl⟩ := gives_pure_iff.mp made
  rw [textStatements, scanned]
  exact ⟨rfl, rfl⟩

/-- Assignments that succeed. -/
theorem assigns_of_gives {assignments : List Assignment} {value : PUnit}
    (gives : Gives (assignments.forM (assign renderer)) before value after) :
    Assigns renderer assignments before.scope after.scope := by
  induction assignments generalizing before with
  | nil =>
    obtain ⟨-, rfl⟩ := gives_pure_iff.mp gives
    exact Assigns.done _
  | cons assignment assignments ih =>
    obtain ⟨_, between, assigned, rest⟩ := gives_bind_iff.mp gives
    obtain ⟨value, evaluated, asks, binds⟩ := gives_bind_iff.mp assigned
    obtain ⟨answer, rfl⟩ := gives_ask_iff.mp asks
    obtain rfl := gives_changeScope_iff.mp binds
    exact Assigns.assign answer (ih rest)

/-- A statement without assignments adds none. -/
theorem flatMap_assignments_filter (tags : List Tag) :
    (tags.filter fun tag => !tag.assignments.isEmpty).flatMap Tag.assignments =
      tags.flatMap Tag.assignments := by
  induction tags with
  | nil => rfl
  | cons tag tags ih =>
    rw [List.filter_cons, List.flatMap_cons, ← ih]
    split
    · rfl
    · rename_i empty
      rw [Bool.not_eq_true, Bool.not_eq_false', List.isEmpty_iff] at empty
      rw [empty, List.nil_append]

/-- **The assignments of a text** are carried out. -/
theorem assigns_of_gives_runAssignments {text : Text} {value : PUnit}
    (gives : Gives (runAssignments renderer text) before value after) :
    Assigns renderer (textAssignments text) before.scope after.scope := by
  obtain ⟨statements, between, found, made⟩ := gives_bind_iff.mp gives
  obtain ⟨rfl, rfl⟩ := gives_statementsOf found
  rw [textAssignments, setTags, flatMap_assignments_filter]
  exact assigns_of_gives made

section Loops

variable {source : Text} {fault : Fault}

/-- **The turns of a loop** are made one after the other. -/
theorem turns_of_gives_repeatBody {body : Rendering Text} {course : Course}
    (safe : Safe fault source Quiet body) (carries : Carries source body course) {loop : Nat}
    {name : String} {length index : Nat} {done : List Text} {items : List Value} {text : Text}
    (asked : AskedFrom source before)
    (gives : Gives (repeatBody body name length index done items) before text after) :
    ∃ visits, Turns course loop name length index items before.scope visits after.scope := by
  induction items generalizing before index done with
  | nil =>
    obtain ⟨-, rfl⟩ := gives_pure_iff.mp gives
    exact ⟨[], Turns.done index _⟩
  | cons item items ih =>
    obtain ⟨_, entered, enters, turn⟩ := gives_bind_iff.mp gives
    obtain rfl := gives_changeScope_iff.mp enters
    obtain ⟨output, between, rendered, rest⟩ := gives_bind_iff.mp turn
    have same : AskedFrom source
        ⟨(before.scope.set loopName (loopInfo index length)).set name item, before.asked⟩ := asked
    obtain ⟨visits, visited⟩ := carries _ output between same rendered
    obtain ⟨more, later⟩ := ih (safe.of_gives same rendered).2 rest
    exact ⟨_, Turns.turn visited later⟩

/-- A loop that succeeds has a value for its items, and gives its names their bindings back. -/
theorem gives_runLoop {body : Rendering Text} {head : LoopHead} {text : Text}
    (gives : Gives (runLoop renderer body head) before text after) :
    ∃ value inside, renderer.evaluator head.iterable before.scope = .ok value ∧
      Gives (repeatBody body head.name value.items.length 0 [] value.items)
        { before with asked := head.iterable :: before.asked } text inside ∧
      after.scope = (inside.scope.restore loopName (before.scope.get? loopName)).restore head.name
        (before.scope.get? head.name) := by
  obtain ⟨value, asked, evaluated, -⟩ := gives_bind_iff.mp gives
  obtain ⟨answer, rfl⟩ := gives_ask_iff.mp evaluated
  rcases repeated : (ExceptT.run (repeatBody body head.name value.items.length 0 [] value.items)).run
    { before with asked := head.iterable :: before.asked } with ⟨outcome, inside⟩
  have ended := run_runLoop answer repeated
  rw [Gives, ended] at gives
  cases gives
  exact ⟨value, inside, answer, repeated, rfl⟩

/-- **Loops one after the other** are carried out. -/
theorem loops_of_gives {text : Text} {repetition : Text → Rendering Text} {body : Span → Course}
    {loops : List (Enclosure LoopHead)}
    (within : ∀ loop ∈ loops, loop.info.iterable <:+: source)
    (safe : ∀ loop ∈ loops, Safe fault source Quiet (repetition (loop.body.of text)))
    (carries : ∀ loop ∈ loops, Carries source (repetition (loop.body.of text)) (body loop.body))
    {number : Nat} {edits : List Edit} (asked : AskedFrom source before)
    (gives : Gives (loops.mapM fun loop => do
      return Edit.mk loop.span (← runLoop renderer (repetition (loop.body.of text)) loop.info))
        before edits after) :
    ∃ reached visits, Loops renderer body number loops reached before.scope visits after.scope := by
  induction loops generalizing before number edits with
  | nil =>
    obtain ⟨-, rfl⟩ := gives_pure_iff.mp gives
    exact ⟨[], [], Loops.done number _⟩
  | cons loop loops ih =>
    obtain ⟨within, within'⟩ := List.forall_mem_cons.mp within
    obtain ⟨safe, safe'⟩ := List.forall_mem_cons.mp safe
    obtain ⟨carries, carries'⟩ := List.forall_mem_cons.mp carries
    rw [List.mapM_cons] at gives
    obtain ⟨edit, between, made, gives⟩ := gives_bind_iff.mp gives
    obtain ⟨edits', between', rest, gives⟩ := gives_bind_iff.mp gives
    obtain ⟨-, rfl⟩ := gives_pure_iff.mp gives
    obtain ⟨output, ended, looped, made⟩ := gives_bind_iff.mp made
    obtain ⟨-, rfl⟩ := gives_pure_iff.mp made
    obtain ⟨-, asked'⟩ := (safe_runLoop safe within).of_gives asked looped
    obtain ⟨value, inside, answer, repeated, restored⟩ := gives_runLoop looped
    have askedHead : AskedFrom source { before with asked := loop.info.iterable :: before.asked } :=
      List.forall_mem_cons.mpr ⟨within, asked⟩
    obtain ⟨visits, turns⟩ := turns_of_gives_repeatBody safe carries askedHead repeated
    obtain ⟨reached, more, later⟩ :
        ∃ reached more, Loops renderer body (number + 1) loops reached _ more _ :=
      ih within' safe' carries' asked' rest
    rw [restored] at later
    exact ⟨before.scope :: reached, visits ++ more, Loops.loop answer turns later⟩

end Loops

section Passes

variable {source : Text} {tags : List Tag} (ofSource : scan source = .ok tags)
include ofSource

/-- **The passes over a drawn text** carry out its assignments and its loops. The last pass only has to
keep the scope. -/
theorem executes_of_gives_passes {fault : Fault} {depth start : Nat} {next text out : Text}
    (drawn : Drawn tags next text) {repetition : Text → Rendering Text} {final : Text → Rendering Text}
    (turns : ∀ body, Drawn tags ['{'] body → body.length < text.length →
      Safe fault source Quiet (repetition body))
    (carries : ∀ body, Drawn tags ['{'] body → body.length < text.length →
      ∀ start, Carries source (repetition body) (Executes renderer depth start body))
    (keeps : ∀ chosen, KeepsScope (final chosen)) (asked : AskedFrom source before)
    (gives : Gives (do
      runAssignments renderer text
      let expanded ← expandLoops renderer repetition text
      let chosen ← chooseBranches renderer expanded
      final chosen) before out after) :
    ∃ visits, Executes renderer (depth + 1) start text before.scope visits after.scope := by
  obtain ⟨_, assigned, assigns, passed⟩ := gives_bind_iff.mp gives
  obtain ⟨expanded, looped, expands, passed'⟩ := gives_bind_iff.mp passed
  obtain ⟨chosen, branched, chooses, finishes⟩ := gives_bind_iff.mp passed'
  have assigns' := assigns_of_gives_runAssignments assigns
  have safe : Safe fault source (fun _ => True) (runAssignments renderer text) :=
    safe_runAssignments ofSource drawn
  obtain ⟨-, asked'⟩ := safe.of_gives asked assigns
  obtain ⟨edits, looped', edited, expanded'⟩ := gives_bind_iff.mp expands
  obtain ⟨-, rfl⟩ := gives_pure_iff.mp expanded'
  obtain ⟨statements, between, found, made⟩ := gives_bind_iff.mp edited
  obtain ⟨all, scanned, among⟩ := scan_of_gives_statementsOf found
  obtain ⟨rfl, rfl⟩ := gives_statementsOf found
  have bodies : ∀ loop ∈ textLoops text, Drawn tags ['{'] (loop.body.of text) ∧
      (loop.body.of text).length < text.length ∧ loop.info.iterable <:+: source :=
    fun loop member => loop_of_drawn ofSource drawn scanned among member
  have turns' : ∀ loop ∈ textLoops text, Safe fault source Quiet (repetition (loop.body.of text)) :=
    fun loop member => turns _ (bodies loop member).1 (bodies loop member).2.1
  have carries' : ∀ loop ∈ textLoops text, Carries source (repetition (loop.body.of text))
      (Executes renderer depth (start + loop.body.start) (loop.body.of text)) :=
    fun loop member => carries _ (bodies loop member).1 (bodies loop member).2.1 _
  obtain ⟨reached, visits, loops⟩ : ∃ reached visits,
      Loops renderer (fun span => Executes renderer depth (start + span.start) (span.of text)) 0
        (textLoops text) reached _ visits _ :=
    loops_of_gives (fun loop member => (bodies loop member).2.2) turns' carries' asked' made
  have kept : after.scope = looped'.scope :=
    ((keeps chosen).of_gives finishes).trans ((keepsScope_chooseBranches renderer _).of_gives chooses)
  rw [kept]
  exact ⟨_, _, reached, _, assigns', loops, rfl⟩

/-- **A repetition of a loop's body** executes what the body says. -/
theorem carries_guardedRepetition {depth start : Nat} {body : Text} (drawn : Drawn tags ['{'] body)
    (shallow : body.length < depth) :
    Carries source (guardedRepetition renderer depth body) (Executes renderer depth start body) := by
  induction depth generalizing body start with
  | zero => exact absurd shallow (Nat.not_lt_zero _)
  | succ depth ih =>
    intro before out after asked gives
    obtain ⟨rendered, between, passed, again⟩ := gives_bind_iff.mp gives
    have guard : Fault.bound = .refusal → renderer.QuietValues := fun same => Fault.noConfusion same
    have turns : ∀ inner, Drawn tags ['{'] inner → inner.length < body.length →
        Safe .bound source Quiet (guardedRepetition renderer depth inner) :=
      fun inner drawn' shorter => safe_guardedRepetition ofSource guard drawn' (by omega)
    obtain ⟨quiet, -⟩ := (safe_guardedPasses ofSource guard drawn turns).of_gives asked passed
    -- the rendered text has no loops
    rw [expandLoops_of_unopened (List.isChain_append.mp quiet).1] at again
    have kept : after.scope = between.scope :=
      ((keepsScope_tagsOf rendered).bind fun _ => keepsScope_pure _).of_gives again
    rw [kept]
    exact executes_of_gives_passes ofSource drawn turns
      (fun inner drawn' shorter start => ih drawn' (by omega)) (keepsScope_guardedSubstitute renderer)
      asked passed

end Passes

/-- **A rendering with quiet loops executes what its source says**: all assignments of the source, and
then its loops, whose bodies are rendered once for each item. -/
theorem executes_of_gives_render {source out : Text} {scope : Scope} {state : RenderState}
    (quiet : QuietLoops renderer source scope)
    (success : (renderText renderer source).run scope = (.ok out, state)) :
    ∃ tags visits, scan source = .ok tags ∧
      Executes renderer (source.length + 1) 0 source scope visits state.scope := by
  rw [renderText, (run_of_quietLoops quiet (Nat.le_add_right _ _)).1] at success
  rcases scanned : scan source with error | tags
  · rw [guardedRender, run_passes_of_fault scanned] at success
    cases success
  · have drawn := drawn_of_scan scanned
    have guard : Fault.bound = .refusal → renderer.QuietValues := fun same => Fault.noConfusion same
    have turns : ∀ body, Drawn tags ['{'] body → body.length < source.length →
        Safe .bound source Quiet (guardedRepetition renderer source.length body) :=
      fun body drawn' shorter => safe_guardedRepetition scanned guard drawn' shorter
    have asked : AskedFrom source ⟨scope, []⟩ := fun expression absent => absurd absent List.not_mem_nil
    obtain ⟨visits, executes⟩ := executes_of_gives_passes scanned drawn turns
      (fun body drawn' shorter start => carries_guardedRepetition scanned drawn' shorter)
      (keepsScope_substitute renderer) asked success
    exact ⟨tags, visits, rfl, executes⟩

end Rendering
end TextTemplate
