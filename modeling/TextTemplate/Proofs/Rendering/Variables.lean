/-
**The names that a template binds.**

A `set` statement and a loop bind names that may have letters of any script, but an expression reads
ASCII names only.

* `Binds`: one step of a rendering binds a name to a value;
* `ReadsBack`: what an expression makes of a name, if it should give a value;
* `binds_readsBack`: **a name that is bound is read back just if it is ASCII**, unless it is a word of
  the expressions.
-/

import TextTemplate.Proofs.Expressions.Foreign
import TextTemplate.Proofs.Rendering.Course
import TextTemplate.Proofs.Rendering.Directives

namespace TextTemplate

/-! ### The characters of variables -/

/-- The ASCII characters of variables are those of names. -/
theorem continuesName_of_continuesVariable {c : Char} (continues : continuesVariable c = true)
    (ascii : c.toNat < 0x80) : continuesName c = true := by
  have low : ∀ word ∈ Text.wordRanges, word.1 < 0x80 →
      word ∈ [(0x30, 0x39), (0x41, 0x5a), (0x5f, 0x5f), (0x61, 0x7a)] := by decide +kernel
  have names : ∀ code < 0x80, (0x30 ≤ code ∧ code ≤ 0x39) ∨ (0x41 ≤ code ∧ code ≤ 0x5a) ∨
      code = 0x5f ∨ (0x61 ≤ code ∧ code ≤ 0x7a) → continuesName (Char.ofNat code) = true := by
    decide +kernel
  rw [continuesVariable, Bool.or_eq_true, beq_iff_eq] at continues
  rcases continues with letter | rfl
  · obtain ⟨word, member, first, last⟩ := Text.inRanges_iff.mp letter
    have among := low word member (Nat.lt_of_le_of_lt first ascii)
    rw [← Char.ofNat_toNat c]
    refine names c.toNat ascii ?_
    simp only [List.mem_cons, List.not_mem_nil, or_false] at among
    rcases among with rfl | rfl | rfl | rfl <;> simp only at first last <;> omega
  · rfl

/-- **A variable is a name, or a foreign character goes on with a name.** -/
theorem isVariable_cases {text : Text} (bound : isVariable text = true) :
    ((∀ c ∈ text, c.toNat < 0x80) ∧ IsName text) ∨
      ∃ name c rest, text = name ++ c :: rest ∧ IsName name ∧ Foreign c := by
  cases text with
  | nil => cases bound
  | cons c text =>
    obtain ⟨begins, continues⟩ := Bool.and_eq_true_iff.mp bound
    have continues := List.all_eq_true.mp continues
    have first : continuesName c = true := continuesName_of_beginsName begins
    let ascii : Char → Bool := fun d => d.toNat < 0x80
    have front : ∀ d ∈ text.takeWhile ascii, continuesName d = true := by
      intro d member
      have low : ascii d = true := List.mem_takeWhile_imp member
      exact continuesName_of_continuesVariable (continues d (List.takeWhile_subset ascii member))
        (of_decide_eq_true low)
    have name : IsName (c :: text.takeWhile ascii) :=
      ⟨⟨c, rfl, begins⟩, List.forall_mem_cons.mpr ⟨first, front⟩⟩
    cases behind : text.dropWhile ascii with
    | nil =>
      have all := List.dropWhile_eq_nil_iff.mp behind
      rw [List.takeWhile_eq_self_iff.mpr all] at name
      have code := asciiCode_of_continuesName first
      exact .inl ⟨List.forall_mem_cons.mpr
        ⟨by omega, fun d member => of_decide_eq_true (all d member)⟩, name⟩
    | cons d rest =>
      have stops := List.head?_dropWhile_not ascii text
      rw [behind] at stops
      have whole : text = text.takeWhile ascii ++ d :: rest := by
        rw [← behind, List.takeWhile_append_dropWhile]
      have member : d ∈ text := by
        rw [whole]
        simp
      refine .inr ⟨c :: text.takeWhile ascii, d, rest, congrArg (c :: ·) whole, name, ?_, ?_⟩
      · exact Nat.not_lt.mp (of_decide_eq_false stops)
      · exact isBlank_of_continuesVariable (continues d member)

/-- **A variable is read as a name just if it is ASCII**, unless it is a word of the expressions. -/
theorem parseExpr_variable_iff {name : String} (bound : isVariable name.toList = true)
    (free : name ∉ literalWords ++ operatorWords) {expr : Expr} :
    parseExpr name.toList = .ok expr ↔
      (∀ c ∈ name.toList, c.toNat < 0x80) ∧ expr = .name name := by
  rcases isVariable_cases bound with ⟨ascii, valid⟩ | ⟨front, c, rest, whole, valid, foreign⟩
  · have written : (Style.fewest ⟨false, false⟩).written (.name name) = name.toList := rfl
    have parsed := parseExpr_written (Style.fewest ⟨false, false⟩) (Writable.name valid free)
    rw [written] at parsed
    rw [parsed]
    exact ⟨fun same => ⟨ascii, (Except.ok.inj same).symm⟩, fun ⟨_, same⟩ => congrArg _ same.symm⟩
  · constructor
    · intro ok
      rw [whole] at ok
      exact absurd ok (parseExpr_ne_ok_of_foreign foreign valid expr)
    · rintro ⟨ascii, -⟩
      exact absurd foreign.beyond (Nat.not_le.mpr (ascii c (by simp [whole])))

/-! ### The names that statements bind -/

theorem Assignment.isVariable_name {text : Text} {assignment : Assignment}
    (read : Assignment.ofText? text = some assignment) : isVariable assignment.name.toList = true := by
  unfold Assignment.ofText? at read
  split at read
  · split at read
    · rename_i both
      cases read
      simpa using (Bool.and_eq_true_iff.mp both).1
    · cases read
  · cases read

theorem Tag.isVariable_assigned {tag : Tag} {assignment : Assignment}
    (member : assignment ∈ tag.assignments) : isVariable assignment.name.toList = true := by
  unfold Tag.assignments at member
  split at member
  · obtain ⟨part, -, read⟩ := List.mem_filterMap.mp member
    exact Assignment.isVariable_name read
  · exact absurd member List.not_mem_nil

theorem LoopHead.isVariable_name {argument : Text} {head : LoopHead}
    (read : LoopHead.ofArgument? argument = some head) : isVariable head.name.toList = true := by
  cases argument with
  | nil => cases read
  | cons c text =>
    unfold LoopHead.ofArgument? at read
    obtain ⟨_, begins, read⟩ := Option.bind_eq_some_iff.mp read
    obtain ⟨rest, passed, read⟩ := Option.bind_eq_some_iff.mp read
    obtain ⟨rest', dropped, read⟩ := Option.bind_eq_some_iff.mp read
    obtain ⟨rest'', passed', read⟩ := Option.bind_eq_some_iff.mp read
    obtain ⟨_, -, made⟩ := Option.bind_eq_some_iff.mp read
    cases made
    have begins : beginsVariable c = true := by
      by_contra other
      simp [guard, other] at begins
    simp [isVariable, begins]

theorem isVariable_of_loopRole {tag : Tag} {head : LoopHead} (opens : loopRole tag = .opens head) :
    isVariable head.name.toList = true := by
  unfold loopRole at opens
  split at opens
  · split at opens
    · rename_i read
      cases opens
      exact LoopHead.isVariable_name read
    · cases opens
  · cases opens
  · cases opens

/-! ### Reading back -/

namespace Rendering

/-- **A step of a rendering binds a name to a value**: an assignment, or a loop that takes an item. -/
inductive Binds (renderer : Renderer) :
    RenderState → String → Value → RenderState → Prop
  | assigned {tag : Tag} {assignment : Assignment} {value : Value} {before after : RenderState}
    (listed : assignment ∈ tag.assignments)
    (answer : renderer.evaluator assignment.expression before.scope = .ok value)
    (gives : Gives (assign renderer assignment) before () after) :
    Binds renderer before assignment.name value after
  | entered {tag : Tag} {head : LoopHead} {index length : Nat} {item : Value}
    {before after : RenderState} (opens : loopRole tag = .opens head)
    (gives : Gives (enterItem head.name index length item) before () after) :
    Binds renderer before head.name item after

/-- **A name is read back just if it is ASCII**; else it is malformed as an expression. -/
structure ReadsBack (extensions : Extensions) (scope : Scope) (name : String) (value : Value) :
    Prop where
  ascii : (∀ c ∈ name.toList, c.toNat < 0x80) → evaluate extensions name.toList scope = .ok value
  malformed : (∃ c ∈ name.toList, 0x80 ≤ c.toNat) →
    ∃ error, evaluate extensions name.toList scope = .error (.malformed error)

variable {renderer : Renderer} {before after : RenderState} {name : String} {value : Value}

theorem Binds.isVariable (binds : Binds renderer before name value after) :
    isVariable name.toList = true := by
  cases binds with
  | assigned listed answer gives => exact Tag.isVariable_assigned listed
  | entered opens gives => exact isVariable_of_loopRole opens

theorem Binds.get? (binds : Binds renderer before name value after) :
    after.scope.get? name = some value := by
  cases binds with
  | assigned listed answer gives =>
    obtain ⟨value', between, asks, sets⟩ := gives_bind_iff.mp gives
    obtain ⟨answer', rfl⟩ := gives_ask_iff.mp asks
    obtain rfl := gives_changeScope_iff.mp sets
    cases answer.symm.trans answer'
    simp
  | entered opens gives =>
    obtain rfl := gives_changeScope_iff.mp gives
    simp

/-- **A name that is bound is read back just if it is ASCII**, unless it is a word of the
expressions. -/
theorem binds_readsBack (extensions : Extensions) (binds : Binds renderer before name value after)
    (free : name ∉ literalWords ++ operatorWords) :
    ReadsBack extensions after.scope name value := by
  have parsed {expr : Expr} : parseExpr name.toList = .ok expr ↔ _ :=
    parseExpr_variable_iff binds.isVariable free
  constructor
  · intro ascii
    rw [evaluate, parsed.mpr ⟨ascii, rfl⟩]
    show Except.ok ((after.scope.get? name).getD .null) = .ok value
    rw [binds.get?, Option.getD_some]
  · rintro ⟨c, member, beyond⟩
    cases outcome : parseExpr name.toList with
    | ok expr => exact absurd ((parsed.mp outcome).1 c member) (Nat.not_lt.mpr beyond)
    | error error =>
      refine ⟨error, ?_⟩
      rw [evaluate, outcome]
      rfl

/-- An assignment succeeds if its expression has a value. -/
theorem gives_assign {assignment : Assignment}
    (answer : renderer.evaluator assignment.expression before.scope = .ok value) :
    Gives (assign renderer assignment) before ()
      ⟨before.scope.set assignment.name value, assignment.expression :: before.asked⟩ :=
  gives_bind_iff.mpr ⟨value, _, gives_ask_iff.mpr ⟨answer, rfl⟩, gives_changeScope_iff.mpr rfl⟩

/-- A name with a dollar sign and a digit is read back. -/
theorem readsBack_of_dollar_sign :
    let renderer : Renderer := ⟨fun _ _ => .ok (.int 2), []⟩
    let before : RenderState := ⟨Scope.ofContext Context.empty, []⟩
    ∃ after, Binds renderer before "$x1" (.int 2) after ∧
      evaluate .none "$x1".toList after.scope = .ok (.int 2) := by
  intro renderer before
  let tag : Tag := ⟨.statement, ⟨0, 0, 0⟩, ⟨19, 0, 19⟩, " set $x1 = 1 + 1 ".toList⟩
  have listed : ⟨"$x1", "1 + 1".toList⟩ ∈ tag.assignments := by decide +kernel
  have binds : Binds renderer before "$x1" (.int 2) _ := .assigned listed rfl (gives_assign rfl)
  have ascii : "$x1".toList.all (fun c => c.toNat < 0x80) = true := by decide
  exact ⟨_, binds, (binds_readsBack .none binds (by decide)).ascii fun c member =>
    of_decide_eq_true (List.all_eq_true.mp ascii c member)⟩

/-- **A name that is not ASCII is bound, but no expression reads it.** -/
theorem bound_name_not_read :
    let renderer : Renderer := ⟨fun _ _ => .ok (.int 1), []⟩
    let before : RenderState := ⟨Scope.ofContext Context.empty, []⟩
    let set : Tag := ⟨.statement, ⟨0, 0, 0⟩, ⟨17, 0, 16⟩, " set né = 1 ".toList⟩
    let loop : Tag := ⟨.statement, ⟨0, 0, 0⟩, ⟨20, 0, 19⟩, " for né in [1] ".toList⟩
    "né" ∉ literalWords ++ operatorWords ∧ ⟨"né", "1".toList⟩ ∈ set.assignments ∧
      loopRole loop = .opens ⟨"né", "[1]".toList⟩ ∧
      (∃ after, Gives (assign renderer ⟨"né", "1".toList⟩) before () after ∧
        evaluate .none "né".toList after.scope ≠ .ok (.int 1)) ∧
      ∃ after, Gives (enterItem "né" 0 1 (.int 1)) before () after ∧
        evaluate .none "né".toList after.scope ≠ .ok (.int 1) := by
  intro renderer before set loop
  have unread : ∀ scope, evaluate .none "né".toList scope ≠ .ok (.int 1) := by
    intro scope read
    have failed : (parseExpr "né".toList).toBool = false := by decide +kernel
    cases outcome : parseExpr "né".toList with
    | ok expr =>
      rw [outcome] at failed
      cases failed
    | error error =>
      rw [evaluate, outcome] at read
      cases read
  exact ⟨by decide, by decide +kernel, by decide +kernel, ⟨_, gives_assign rfl, unread _⟩,
    ⟨_, gives_changeScope_iff.mpr rfl, unread _⟩⟩

end Rendering

end TextTemplate
