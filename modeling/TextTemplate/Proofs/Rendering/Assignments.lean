/-
**Statements with several assignments.**

A `set` statement is divided at its commas, and each part at its first equals sign. What the parser
accepts as an expression is passed over by the one search, and stands behind the other one: so the
assignments of a statement are those that it is written from.

* `setHead`: the inside of a statement that is written from assignments;
* `assignments_setHead`: **the statement holds these assignments**, with blanks taken off the
  expressions;
* `Proceeds`: assignments that are carried out, up to the first one that fails;
* `runAssignments_setHead`: **the statement carries out its assignments**, and changes no other binding.
-/

import TextTemplate.Proofs.Expressions.Fronts
import TextTemplate.Proofs.Rendering.Variables
import TextTemplate.Proofs.Rendering.Written

namespace TextTemplate

instance (c d : Char) : Decidable (Loose c d) :=
  decidable_of_iff (opens? c d = none ∧ closes? c d = none)
    ⟨fun ⟨noOpener, noCloser⟩ => ⟨noOpener, noCloser⟩, fun loose => ⟨loose.noOpener, loose.noCloser⟩⟩

/-! ### Blanks behind an expression -/

/-- Blanks behind an expression do not matter. -/
theorem parseExpr_of_append_blanks {text blanks : Text} {expr : Expr}
    (blank : blanks.all Text.isBlank = true) (ok : parseExpr (text ++ blanks) = .ok expr) :
    parseExpr text = .ok expr := by
  obtain ⟨next, derives, ended⟩ := parseExpr_eq_ok_iff.mp ok
  have nothing : blanks.trimStart = [] := trimStart_of_all_isBlank blank
  have parts : (Cursor.ofText (text ++ blanks)).Parts (Cursor.ofText text) blanks :=
    ⟨Cursor.At.of_rest rfl, (detached_of_all_isBlank blank).unjoined text⟩
  obtain ⟨next', derives', parts'⟩ := derives.front parts (by rw [nothing]; exact Nat.zero_le _)
  refine parseExpr_eq_ok_iff.mpr ⟨next', derives', ?_⟩
  have whole : Text.trimStart (next'.rest ++ blanks) = [] := parts'.stands.symm.trans ended
  by_contra visible
  rw [Text.trimStart_append_of_ne_nil visible] at whole
  exact visible (List.append_eq_nil_iff.mp whole).1

/-- An expression is more than blanks. -/
theorem trim_ne_nil_of_parseExpr {text : Text} {expr : Expr} (ok : parseExpr text = .ok expr) :
    text.trim ≠ [] := by
  intro nothing
  obtain ⟨front, back, whole, before, behind⟩ := Text.exists_stripWhile Text.isBlank text
  have blank : text.all Text.isBlank = true := by
    refine List.all_eq_true.mpr fun c member => ?_
    have stripped : text.stripWhile Text.isBlank = [] := nothing
    rw [whole, stripped, List.nil_append, List.mem_append] at member
    exact member.elim (before c) (behind c)
  have nothing' : parseExpr [] = .ok expr := parseExpr_of_append_blanks blank ok
  have fails : (parseExpr []).toOption.isNone = true := by decide +kernel
  rw [nothing'] at fails
  cases fails

/-! ### Parts between commas -/

/-- What is joined by commas and blanks is joined by commas, with blanks in front of the parts. -/
theorem intercalate_comma_blank (part : Text) (parts : List Text) :
    [',', ' '].intercalate (part :: parts) = [','].intercalate (part :: parts.map (' ' :: ·)) := by
  induction parts generalizing part with
  | nil => rfl
  | cons other parts ih =>
    rw [List.intercalate_cons_cons, ih, List.map_cons, List.intercalate_cons_cons]
    cases parts <;> simp [List.intercalate_cons_cons]

/-- What is joined begins with the first part and ends with the last one. -/
theorem exists_intercalate_concat (separator : Text) (parts : List Text) :
    ∃ front, ∀ last, separator.intercalate (parts ++ [last]) = front ++ last := by
  induction parts with
  | nil => exact ⟨[], fun last => List.intercalate_singleton⟩
  | cons part parts ih =>
    obtain ⟨front, joined⟩ := ih
    refine ⟨part ++ separator ++ front, fun last => ?_⟩
    cases parts with
    | nil => simp [List.intercalate_cons_cons, ← joined last]
    | cons other parts =>
      rw [List.cons_append, List.cons_append, List.intercalate_cons_cons, ← List.cons_append, joined,
        List.append_assoc, List.append_assoc, List.append_assoc]

/-! ### Statements that are written from assignments -/

namespace Assignment

/-- The text of an assignment. -/
def written (assignment : Assignment) : Text :=
  assignment.name.toList ++ " = ".toList ++ assignment.expression

/-- An assignment without blanks around its expression. -/
def trimmed (assignment : Assignment) : Assignment :=
  ⟨assignment.name, assignment.expression.trim⟩

/-- **An assignment that can be read**: of a text that is an expression to a variable. -/
structure Readable (assignment : Assignment) : Prop where
  bound : isVariable assignment.name.toList = true
  parses : ∃ expr, parseExpr assignment.expression = .ok expr

namespace Readable

variable {assignment : Assignment} {gap : Text}

/-- A search for a comma passes over a written assignment, and over blanks in front of it. -/
theorem passes (readable : Readable assignment) (blank : gap.all Text.isBlank = true) :
    Passes 0 (gap ++ assignment.written) := by
  obtain ⟨expr, ok⟩ := readable.parses
  have front : gap.all isNeutral = true := List.all_eq_true.mpr fun c member =>
    isNeutral_of_isBlank c (List.all_eq_true.mp blank c member)
  have name : assignment.name.toList.all isNeutral = true := List.all_eq_true.mpr fun c member =>
    (isNeutral_of_continuesVariable (continuesVariable_of_mem readable.bound member)).1
  exact (Passes.of_all_neutral front).append (((Passes.of_all_neutral name).append
    (Passes.of_all_neutral (by decide))).append (passes_of_parseExpr ok))

theorem ofText?_written (readable : Readable assignment) (blank : gap.all Text.isBlank = true) :
    Assignment.ofText? (gap ++ assignment.written) = some assignment.trimmed := by
  obtain ⟨expr, ok⟩ := readable.parses
  rw [written, ofText?_assignment blank readable.bound (trim_ne_nil_of_parseExpr ok),
    String.ofList_toList]
  rfl

end Readable

end Assignment

/-- The argument of a `set` statement, with commas and blanks between the assignments. -/
def setArgument (assignments : List Assignment) : Text :=
  [',', ' '].intercalate (assignments.map Assignment.written)

/-- **An argument is divided into the assignments that it is written from.** -/
theorem assignments_setArgument {items : List Assignment} (filled : items ≠ [])
    (readable : ∀ item ∈ items, item.Readable) :
    assignments (setArgument items) = items.map Assignment.trimmed := by
  have none : ([] : Text).all Text.isBlank = true := rfl
  have blank : [' '].all Text.isBlank = true := by decide
  cases items with
  | nil => contradiction
  | cons first more =>
    obtain ⟨begins, later⟩ := List.forall_mem_cons.mp readable
    have parts : setArgument (first :: more) =
        [','].intercalate (first.written :: more.map fun item => ' ' :: item.written) := by
      rw [setArgument, List.map_cons, intercalate_comma_blank, List.map_map]
      rfl
    have passes : ∀ part ∈ first.written :: more.map fun item => ' ' :: item.written,
        Passes 0 part := by
      refine List.forall_mem_cons.mpr ⟨begins.passes none, fun part member => ?_⟩
      obtain ⟨item, among, rfl⟩ := List.mem_map.mp member
      exact (later item among).passes blank
    have read : Assignment.ofText? first.written = some first.trimmed := begins.ofText?_written none
    have reads : (more.map fun item => ' ' :: item.written).filterMap Assignment.ofText? =
        more.map Assignment.trimmed := by
      rw [List.filterMap_map, ← List.filterMap_eq_map]
      exact List.filterMap_congr fun item among => (later item among).ofText?_written blank
    rw [assignments, parts, splitTopLevel_intercalate (List.cons_ne_nil _ _) passes,
      List.filterMap_cons_some read, reads, List.map_cons]

/-- An argument begins with a name. -/
theorem head?_setArgument {items : List Assignment} (readable : ∀ item ∈ items, item.Readable) :
    ∀ c ∈ (setArgument items).head?, Text.isBlank c = false := by
  cases items with
  | nil => exact fun c first => nomatch first
  | cons item items =>
    have bound := (readable item List.mem_cons_self).bound
    obtain ⟨rest, whole⟩ : ∃ rest, setArgument (item :: items) = item.written ++ rest := by
      rw [setArgument, List.map_cons]
      cases items with
      | nil => exact ⟨[], by rw [List.map_nil, List.intercalate_singleton, List.append_nil]⟩
      | cons other items =>
        exact ⟨_, by rw [List.map_cons, List.intercalate_cons_cons, List.append_assoc]⟩
    cases name : item.name.toList with
    | nil =>
      rw [name] at bound
      cases bound
    | cons d name' =>
      intro c first
      rw [whole, Assignment.written, name] at first
      cases first
      exact isBlank_of_continuesVariable (continuesVariable_of_mem bound (by simp [name]))

theorem getLast?_dropRightWhile (text : Text) :
    ∀ c ∈ (text.dropRightWhile Text.isBlank).getLast?, Text.isBlank c = false := by
  intro c last
  have stops := List.head?_dropWhile_not Text.isBlank text.reverse
  rw [Text.dropRightWhile, List.getLast?_reverse] at last
  rw [last] at stops
  exact stops

/-- Blanks behind the last expression do not matter. -/
theorem exists_tight {items : List Assignment} (filled : items ≠ [])
    (readable : ∀ item ∈ items, item.Readable) :
    ∃ tight blanks, setArgument items = setArgument tight ++ blanks ∧
      blanks.all Text.isBlank = true ∧ tight ≠ [] ∧ (∀ item ∈ tight, item.Readable) ∧
      tight.map Assignment.trimmed = items.map Assignment.trimmed ∧
      (setArgument tight).trim = setArgument tight := by
  obtain ⟨front, last, rfl⟩ := (List.eq_nil_or_concat' items).resolve_left filled
  obtain ⟨blanks, whole, blank⟩ := Text.exists_dropRightWhile Text.isBlank last.expression
  have blank := List.all_eq_true.mpr blank
  let core : Assignment := ⟨last.name, last.expression.dropRightWhile Text.isBlank⟩
  have trimmed : core.expression.trim = last.expression.trim := by
    rw [whole, Text.trim_append_blanks blank]
  have core_readable : core.Readable := by
    obtain ⟨bound, expr, ok⟩ := readable last (by simp)
    rw [whole] at ok
    exact ⟨bound, expr, parseExpr_of_append_blanks blank ok⟩
  have tight : ∀ item ∈ front ++ [core], item.Readable := by
    intro item member
    rcases List.mem_append.mp member with earlier | isLast
    · exact readable item (List.mem_append_left _ earlier)
    · cases List.mem_singleton.mp isLast
      exact core_readable
  obtain ⟨before, joined⟩ := exists_intercalate_concat [',', ' '] (front.map Assignment.written)
  have argument (item : Assignment) : setArgument (front ++ [item]) = before ++ item.written := by
    rw [setArgument, List.map_append, List.map_singleton, joined]
  refine ⟨front ++ [core], blanks, ?_, blank, by simp, tight, ?_, ?_⟩
  · rw [argument, argument, Assignment.written, Assignment.written, whole]
    simp only [core, List.append_assoc]
  · rw [List.map_append, List.map_append, List.map_singleton, List.map_singleton,
      Assignment.trimmed, trimmed]
    rfl
  · refine Text.trim_eq_self_iff.mpr ⟨head?_setArgument tight, ?_⟩
    have visible : core.expression ≠ [] := by
      intro nothing
      obtain ⟨expr, ok⟩ := core_readable.parses
      refine trim_ne_nil_of_parseExpr ok ?_
      rw [nothing]
      rfl
    rw [argument, Assignment.written, List.getLast?_append_of_ne_nil _ (by simp),
      List.getLast?_append_of_ne_nil _ visible]
    exact getLast?_dropRightWhile last.expression

/-! ### The tag of a statement -/

/-- The inside of a `set` statement. -/
def setHead (items : List Assignment) : Text :=
  "set".toList ++ ' ' :: setArgument items

/-- **The statement holds the assignments that it is written from**, without blanks around their
expressions. -/
theorem assignments_setHead {items : List Assignment} (filled : items ≠ [])
    (readable : ∀ item ∈ items, item.Readable) (here : Position) :
    (statementAt here (setHead items)).assignments = items.map Assignment.trimmed := by
  obtain ⟨tight, blanks, whole, blank, filled', readable', same, trimmed⟩ :=
    exists_tight filled readable
  have named : setArgument tight ≠ [] := by
    intro nothing
    have none := assignments_setArgument filled' readable'
    rw [nothing] at none
    exact filled' (List.map_eq_nil_iff.mp none.symm)
  -- the blanks behind the last expression are taken off with those in front of the delimiter
  have inner : Text.trim (' ' :: setHead items ++ [' ']) =
      Text.trim (' ' :: ("set".toList ++ ' ' :: setArgument tight) ++ [' ']) := by
    have joined : setHead items = "set".toList ++ ' ' :: setArgument tight ++ blanks := by
      rw [setHead, whole]
      simp
    rw [Text.trim_append_blank (by decide), Text.trim_append_blank (by decide), joined,
      ← List.cons_append, Text.trim_append_blanks blank]
  have directive : (statementAt here (setHead items)).directive? = some ("set", setArgument tight) := by
    rw [← directive?_argument here "set" (by decide) trimmed named]
    exact congrArg splitKeyword? inner
  rw [Tag.assignments, directive]
  show assignments (setArgument tight) = _
  rw [assignments_setArgument filled' readable', same]

/-- **Between texts without delimiters** none arises if a text without braces and percent signs stands
there. -/
theorem plain_around {front between rest : Text} (plain : Plain front) (bare : Bare between)
    (filled : between ≠ []) (plain' : Plain rest) : Plain (front ++ (between ++ rest)) := by
  have behind : Plain (between ++ rest) := by
    clear filled
    induction between with
    | nil => exact plain'
    | cons c between ih =>
      obtain ⟨notOpen, notClose, notPercent⟩ := bare c List.mem_cons_self
      exact List.isChain_cons.mpr ⟨fun d _ => Loose.of_ne d notOpen notClose notPercent,
        ih fun d member => bare d (List.mem_cons_of_mem c member)⟩
  refine List.isChain_append.mpr ⟨plain, behind, fun c _ d first => ?_⟩
  have member : d ∈ between := by
    rw [List.head?_append_of_ne_nil _ filled] at first
    exact List.mem_of_head? first
  obtain ⟨notOpen, notClose, notPercent⟩ := bare d member
  refine loose_iff.mpr ⟨fun kind opener => ?_, fun kind closer => notClose closer.2⟩
  cases kind
  · exact notOpen opener.2
  · exact notPercent opener.2

/-- **An assignment that can be written in a tag**: no delimiter stands in its expression. -/
structure Assignment.Writable (assignment : Assignment) : Prop extends assignment.Readable where
  plain : Plain assignment.expression

theorem Assignment.Writable.plain_written {assignment : Assignment} (writable : assignment.Writable) :
    Plain assignment.written := by
  have bare : Bare assignment.name.toList := by
    intro c member
    have continues := continuesVariable_of_mem writable.bound member
    refine ⟨?_, ?_, ?_⟩ <;> (rintro rfl; exact absurd continues (by decide +kernel))
  rw [written, List.append_assoc]
  exact plain_around (bare.plain ' ').left_of_append (by decide) (by decide) writable.plain

theorem plain_setArgument {items : List Assignment} (writable : ∀ item ∈ items, item.Writable) :
    Plain (setArgument items) := by
  induction items with
  | nil => exact List.isChain_nil
  | cons item items ih =>
    obtain ⟨first, later⟩ := List.forall_mem_cons.mp writable
    cases items with
    | nil =>
      rw [setArgument, List.map_singleton, List.intercalate_singleton]
      exact first.plain_written
    | cons other items =>
      rw [setArgument, List.map_cons, List.map_cons, List.intercalate_cons_cons, List.append_assoc]
      exact plain_around first.plain_written (by decide) (by decide) (ih later)

/-- **The scanner finds the tag of a written statement.** -/
theorem scan_setHead {items : List Assignment} (writable : ∀ item ∈ items, item.Writable) :
    scan (statementTag (setHead items)) = .ok [statementAt Position.start (setHead items)] := by
  have blank : Bare [' '] := by decide
  have keyword : Bare "set".toList := by decide
  have head : Plain (setHead items) :=
    plain_around (keyword.plain ' ').left_of_append blank (by decide) (plain_setArgument writable)
  have inside : Plain (' ' :: setHead items) :=
    plain_around List.isChain_nil blank (by decide) head
  have body : Plain ((' ' :: setHead items ++ [' ']) ++ ['%']) := by
    rw [List.append_assoc]
    exact plain_around inside blank (by decide) (List.isChain_singleton '%')
  exact (ReadAs.piece body).scan

/-! ### Carrying out a statement -/

namespace Rendering

variable {renderer : Renderer}

/-- **Assignments are carried out** in their order, each in the scope that the ones before it left, up to
the first one that fails; the expressions that are evaluated are remembered, the latest first. -/
inductive Proceeds (renderer : Renderer) (items : List Assignment) (before : Scope)
    (asked : List Text) : Except TemplateError PUnit → RenderState → Prop
  | all {after : Scope} (assigns : Assigns renderer items before after) :
    Proceeds renderer items before asked (.ok ())
      ⟨after, (items.map Assignment.expression).reverse ++ asked⟩
  | failed {done rest : List Assignment} {failing : Assignment} {after : Scope} {error : EvalError}
    (split : items = done ++ failing :: rest) (assigns : Assigns renderer done before after)
    (fails : renderer.evaluator failing.expression after = .error error) :
    Proceeds renderer items before asked (.error (.eval failing.expression error))
      ⟨after, failing.expression :: ((done.map Assignment.expression).reverse ++ asked)⟩

theorem run_assign_error {item : Assignment} {before : Scope} {asked : List Text} {error : EvalError}
    (answer : renderer.evaluator item.expression before = .error error) :
    (ExceptT.run (assign renderer item)).run ⟨before, asked⟩ =
      (.error (.eval item.expression error), ⟨before, item.expression :: asked⟩) := by
  rw [assign, run_bind, run_ask, answer]
  rfl

/-- **A list of assignments is carried out.** -/
theorem proceeds_forM (renderer : Renderer) (items : List Assignment) (before : Scope) (asked : List Text) :
    Proceeds renderer items before asked
      ((ExceptT.run (items.forM (assign renderer))).run ⟨before, asked⟩).1
      ((ExceptT.run (items.forM (assign renderer))).run ⟨before, asked⟩).2 := by
  induction items generalizing before asked with
  | nil => exact .all (.done before)
  | cons item items ih =>
    have steps : (item :: items).forM (assign renderer) =
        assign renderer item >>= fun _ => items.forM (assign renderer) := rfl
    rw [steps, run_bind]
    cases answer : renderer.evaluator item.expression before with
    | error error =>
      rw [run_assign_error answer]
      exact .failed rfl (.done before) answer
    | ok value =>
      have sets : (ExceptT.run (assign renderer item)).run ⟨before, asked⟩ =
          (.ok (), ⟨before.set item.name value, item.expression :: asked⟩) := gives_assign answer
      rw [sets]
      have later := ih (before.set item.name value) (item.expression :: asked)
      simp only
      generalize (ExceptT.run (items.forM (assign renderer))).run
        ⟨before.set item.name value, item.expression :: asked⟩ = result at later ⊢
      obtain ⟨outcome, after⟩ := result
      cases later with
      | all assigns =>
        have whole : Proceeds renderer (item :: items) before asked _ _ :=
          .all (.assign answer assigns)
        simpa using whole
      | failed split assigns fails =>
        have whole : Proceeds renderer (item :: items) before asked _ _ :=
          .failed (congrArg (item :: ·) split) (.assign answer assigns) fails
        simpa using whole

/-- Assignments keep the bindings of other names. -/
theorem Assigns.get?_of_notMem {items : List Assignment} {before after : Scope}
    (assigns : Assigns renderer items before after) {name : String}
    (other : ∀ item ∈ items, item.name ≠ name) : after.get? name = before.get? name := by
  induction assigns with
  | done scope => rfl
  | assign answer later ih =>
    obtain ⟨first, rest⟩ := List.forall_mem_cons.mp other
    rw [ih rest, Scope.get?_set, if_neg first]

theorem Proceeds.get?_of_notMem {items : List Assignment} {before : Scope} {asked : List Text}
    {outcome : Except TemplateError PUnit} {after : RenderState}
    (proceeds : Proceeds renderer items before asked outcome after) {name : String}
    (other : ∀ item ∈ items, item.name ≠ name) : after.scope.get? name = before.get? name := by
  cases proceeds with
  | all assigns => exact assigns.get?_of_notMem other
  | failed split assigns fails =>
    exact assigns.get?_of_notMem fun item member => other item (by simp [split, member])

/-- **A written statement carries out its assignments**, with blanks taken off the expressions, and
changes no other binding. -/
theorem runAssignments_setHead (renderer : Renderer) {items : List Assignment} (filled : items ≠ [])
    (writable : ∀ item ∈ items, item.Writable) (scope : Scope) :
    ∃ outcome after, (runAssignments renderer (statementTag (setHead items))).run scope =
        (outcome, after) ∧
      Proceeds renderer (items.map Assignment.trimmed) scope [] outcome after ∧
      ∀ name, (∀ item ∈ items, item.name ≠ name) → after.scope.get? name = scope.get? name := by
  have found : runAssignments renderer (statementTag (setHead items)) =
      (items.map Assignment.trimmed).forM (assign renderer) := by
    have held := assignments_setHead filled (fun item member => (writable item member).toReadable)
      Position.start
    have all : ([statementAt Position.start (setHead items)].filter
        fun tag => tag.kind = .statement) = [statementAt Position.start (setHead items)] := rfl
    rw [runAssignments, statementsOf_of_scan (scan_setHead writable), pure_bind, all,
      List.flatMap_singleton, held]
  have proceeds := proceeds_forM renderer (items.map Assignment.trimmed) scope []
  rw [← found] at proceeds
  refine ⟨_, _, rfl, proceeds, fun name other => proceeds.get?_of_notMem fun item member => ?_⟩
  obtain ⟨item', among, rfl⟩ := List.mem_map.mp member
  exact other item' among

/-- Commas and equals signs in brackets, in quotes and in a comparison divide nothing. -/
theorem runAssignments_of_quoted_separators :
    let items : List Assignment := [⟨"né", "[1, 'a,b = c'] ".toList⟩,
      ⟨"$y", "  5 % 2 <= f(n, '\\'=,')".toList⟩, ⟨"z", "$y == '='".toList⟩]
    let renderer : Renderer := ⟨evaluate .none, []⟩
    statementTag (setHead items) = ("\x7b% set né = [1, 'a,b = c'] , $y =   5 % 2 <= " ++
        "f(n, '\\'=,'), z = $y == '=' %\x7d").toList ∧
      ∃ outcome after, (runAssignments renderer (statementTag (setHead items))).run ⟨[]⟩ =
          (outcome, after) ∧
        Proceeds renderer [⟨"né", "[1, 'a,b = c']".toList⟩,
          ⟨"$y", "5 % 2 <= f(n, '\\'=,')".toList⟩, ⟨"z", "$y == '='".toList⟩] ⟨[]⟩ [] outcome after := by
  intro items renderer
  have bound : items.all (fun item => isVariable item.name.toList) = true := by decide +kernel
  have parses : ∀ item ∈ items, ∃ expr, parseExpr item.expression = .ok expr := by decide +kernel
  have plain : ∀ item ∈ items, Plain item.expression := by decide +kernel
  have writable : ∀ item ∈ items, item.Writable := fun item member =>
    ⟨⟨List.all_eq_true.mp bound item member, parses item member⟩, plain item member⟩
  have trimmed : items.map Assignment.trimmed = [⟨"né", "[1, 'a,b = c']".toList⟩,
      ⟨"$y", "5 % 2 <= f(n, '\\'=,')".toList⟩, ⟨"z", "$y == '='".toList⟩] := by decide +kernel
  obtain ⟨outcome, after, ran, proceeds, -⟩ :=
    runAssignments_setHead renderer (List.cons_ne_nil _ _) writable ⟨[]⟩
  rw [trimmed] at proceeds
  exact ⟨by decide +kernel, outcome, after, ran, proceeds⟩

end Rendering

end TextTemplate
