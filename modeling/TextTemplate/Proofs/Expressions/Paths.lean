/-
**Members in expressions and in filters.**

An expression asks a value for a member and that for another one, and a filter follows a path of names
through a value. Both go the same way, but for one thing: an expression may ask a list or a text for its
length, which no path leads to.

* `followPath_eq_foldl`: a path is followed step by step, null having no members;
* `field_eq_memberAt`, `field_length`: a member in an expression is **the next step of a path or a
  length**;
* `AsksLength`: the last name of a path asks a list or a text for its length;
* `evaluate_members_iff`: **when an expression and a path lead to the same value**.
-/

import TextTemplate.Expr.Eval
import TextTemplate.Proofs.Expressions.RoundTrip
import TextTemplate.Proofs.Separators

namespace TextTemplate

open TextTemplate.Filter (pathStep? followPath lookupPath)

/-! ### Members of values -/

/-- The name of the length of a list or a text. -/
def lengthName : Text :=
  ['l', 'e', 'n', 'g', 't', 'h']

namespace Value

/-- Whether a value has a length that an expression may ask for. -/
def hasLength : Value → Bool
  | .array _ | .string _ => true
  | _ => false

/-- The member of a value that a path leads to in one step. -/
def memberAt (target : Value) (part : Text) : Value :=
  (pathStep? target part).getD .null

/-- The members of a value one after the other, as an expression asks for them. -/
def fields (target : Value) (parts : List Text) : Value :=
  parts.foldl (fun target part => target.field (String.ofList part)) target

variable {target : Value} {part : Text}

/-- **A member in an expression is the next step of a path**, unless it is a length. -/
theorem field_eq_memberAt (plain : ¬ (target.hasLength = true ∧ part = lengthName)) :
    target.field (String.ofList part) = target.memberAt part := by
  have other (long : target.hasLength = true) : String.ofList part ≠ "length" := by
    intro same
    have spelled : part = lengthName := by
      rw [← String.toList_ofList (l := part), same]
      rfl
    exact plain ⟨long, spelled⟩
  cases target with
  | array items =>
    unfold field memberAt pathStep?
    rw [String.toList_ofList]
    cases readNatural? part with
    | none => exact if_neg (other rfl)
    | some index => rfl
  | string s => exact if_neg (other rfl)
  | _ => rfl

/-- A length is a number that no path leads to. -/
theorem field_length (long : target.hasLength = true) :
    (∃ n, target.field (String.ofList lengthName) = .ofNat n) ∧ target.memberAt lengthName = .null := by
  cases target with
  | array items => exact ⟨⟨items.length, rfl⟩, rfl⟩
  | string s => exact ⟨⟨s.length, rfl⟩, rfl⟩
  | _ => cases long

/-- A number has no members, and it is not null. -/
theorem field_ofNat (n : Nat) (name : String) : (ofNat n).field name = .null ∧ ofNat n ≠ .null := by
  unfold ofNat
  cases Integer.checked? n <;> exact ⟨rfl, fun same => Value.noConfusion same⟩

end Value

open Value

/-! ### Paths -/

/-- **A path is followed step by step.** -/
theorem followPath_eq_foldl (target : Value) (parts : List Text) :
    followPath target parts = parts.foldl memberAt target := by
  have nothing (parts : List Text) : parts.foldl memberAt .null = .null := by
    induction parts with
    | nil => rfl
    | cons part parts ih => exact ih
  induction parts generalizing target with
  | nil => rfl
  | cons part parts ih =>
    rw [followPath, List.foldl_cons, memberAt]
    cases pathStep? target part with
    | none => exact (nothing parts).symm
    | some member => exact ih member

/-- **The last name asks for a length**: it is that of the length, and the path before it leads to a list or
a text. -/
def AsksLength (target : Value) (parts : List Text) : Prop :=
  ∃ front, parts = front ++ [lengthName] ∧ (followPath target front).hasLength = true

theorem asksLength_concat_iff {target : Value} {parts : List Text} {part : Text} :
    AsksLength target (parts ++ [part]) ↔
      (followPath target parts).hasLength = true ∧ part = lengthName := by
  constructor
  · rintro ⟨front, same, long⟩
    obtain ⟨rfl, last⟩ := List.append_inj' same rfl
    exact ⟨long, List.singleton_inj.mp last⟩
  · rintro ⟨long, rfl⟩
    exact ⟨parts, rfl, long⟩

/-- **The members one after the other are where the path leads**, unless a length is asked for; then there is
a number at the end of the one way, and nothing at that of the other. -/
theorem fields_cases (target : Value) (parts : List Text) :
    (target.fields parts = followPath target parts ∧ ¬ AsksLength target parts) ∨
      (∃ n, target.fields parts = .ofNat n) ∧ followPath target parts = .null ∧
        AsksLength target parts := by
  induction parts using List.reverseRecOn with
  | nil => exact .inl ⟨rfl, fun ⟨front, empty, _⟩ => by simp at empty⟩
  | append_singleton parts part ih =>
    have next : target.fields (parts ++ [part]) = (target.fields parts).field (String.ofList part) :=
      List.foldl_concat ..
    have next' : followPath target (parts ++ [part]) = (followPath target parts).memberAt part := by
      rw [followPath_eq_foldl, followPath_eq_foldl, List.foldl_concat]
    rw [next, next', asksLength_concat_iff]
    rcases ih with ⟨same, -⟩ | ⟨⟨n, number⟩, nothing, -⟩
    · rw [same]
      by_cases asks : (followPath target parts).hasLength = true ∧ part = lengthName
      · obtain ⟨long, rfl⟩ := asks
        obtain ⟨number, nothing⟩ := field_length long
        exact .inr ⟨number, nothing, long, rfl⟩
      · exact .inl ⟨field_eq_memberAt asks, asks⟩
    · rw [number, nothing, (field_ofNat n _).1]
      exact .inl ⟨rfl, fun ⟨long, _⟩ => by cases long⟩

theorem fields_eq_followPath_iff (target : Value) (parts : List Text) :
    target.fields parts = followPath target parts ↔ ¬ AsksLength target parts := by
  rcases fields_cases target parts with ⟨same, plain⟩ | ⟨⟨n, number⟩, nothing, asks⟩
  · exact iff_of_true same plain
  · rw [number, nothing]
    exact iff_of_false (field_ofNat n "").2 fun plain => plain asks

/-! ### Expressions -/

/-- A name and the names of members, each behind a point. -/
def membersText (name : Text) (parts : List Text) : Text :=
  name ++ parts.flatMap ('.' :: ·)

/-- The expression of a member of a member of something. -/
def membersOf (target : Expr) (parts : List Text) : Expr :=
  parts.foldl (fun target part => .field target (String.ofList part)) target

/-- **The names of members**: nonempty texts of characters that continue a name. -/
def AreComponents (parts : List Text) : Prop :=
  ∀ part ∈ parts, part ≠ [] ∧ part.all continuesName = true

section Expressions

variable {target : Expr} {parts : List Text}

theorem writable_membersOf (writable : Writable target) (components : AreComponents parts) :
    Writable (membersOf target parts) := by
  induction parts generalizing target with
  | nil => exact writable
  | cons part parts ih =>
    obtain ⟨filled, continues⟩ := components part List.mem_cons_self
    rw [List.all_eq_true] at continues
    have first : Writable (.field target (String.ofList part)) := by
      refine .field writable ?_ ?_ <;> rwa [String.toList_ofList]
    exact ih first fun part member => components part (List.mem_cons_of_mem _ member)

/-- A whole expression is in no parentheses. -/
theorem written_fewest (spelling : Spelling) (expr : Expr) :
    (Style.fewest spelling).written expr = (Style.fewest spelling).bare expr := by
  have tight : decide (Level.conditional.looseness < expr.level.looseness) = false := by
    cases expr.level <;> rfl
  unfold Style.written Style.text Style.placed
  rw [tight]
  rfl

/-- An operand that is no number stands before a point as it is. -/
theorem bare_membersOf (spelling : Spelling) (operand : target.level = .operand)
    (noNumber : target.isNumber = false) :
    (Style.fewest spelling).bare (membersOf target parts) =
      membersText ((Style.fewest spelling).bare target) parts := by
  induction parts generalizing target with
  | nil => exact (List.append_nil _).symm
  | cons part parts ih =>
    have first : (Style.fewest spelling).bare (.field target (String.ofList part)) =
        (Style.fewest spelling).bare target ++ '.' :: part := by
      rw [Style.bare, Style.beforePoint, noNumber, Style.placed, operand, String.toList_ofList]
      rfl
    have whole := @ih (.field target (String.ofList part)) rfl rfl
    rw [first] at whole
    rw [membersText, List.flatMap_cons, ← List.append_assoc]
    exact whole

theorem evalExpr_membersOf {extensions : Extensions} {scope : Scope} {value : Value}
    (evaluated : evalExpr extensions scope target = .ok value) :
    evalExpr extensions scope (membersOf target parts) = .ok (value.fields parts) := by
  induction parts generalizing target value with
  | nil => exact evaluated
  | cons part parts ih =>
    have first : evalExpr extensions scope (.field target (String.ofList part)) =
        .ok (value.field (String.ofList part)) := by
      rw [evalExpr, evaluated]
      rfl
    exact ih first

end Expressions

/-- The parts of a path are its names. -/
theorem lookupPath_intercalate {parts : List Text} (components : AreComponents parts) (target : Value) :
    lookupPath (['.'].intercalate parts) target = followPath target parts := by
  have whole : ∀ part ∈ parts, '.' ∉ part := fun part member inside =>
    absurd (List.all_eq_true.mp (components part member).2 '.' inside) (by decide)
  have filled : parts.filter (fun part => !part.isEmpty) = parts := by
    refine List.filter_eq_self.mpr fun part member => ?_
    rw [Bool.not_eq_true', List.isEmpty_eq_false_iff]
    exact (components part member).1
  by_cases empty : parts = []
  · subst empty
    rfl
  · rw [lookupPath, Text.splitOn_intercalate empty whole, filled]

/-- **When an expression and a path lead to the same value.** The names of members behind the name of a
value, in an expression, and the path of the same names through that value, in a filter, give the same,
except where the last name asks a list or a text for its length. -/
theorem evaluate_members_iff {extensions : Extensions} {scope : Scope} {name : String}
    (valid : IsName name.toList) (free : name ∉ literalWords ++ operatorWords) {value : Value}
    (bound : scope.get? name = some value) {parts : List Text} (components : AreComponents parts) :
    evaluate extensions (membersText name.toList parts) scope =
        .ok (lookupPath (['.'].intercalate parts) value) ↔
      ¬ AsksLength value parts := by
  have named : evalExpr extensions scope (.name name) = .ok value := by
    rw [evalExpr, bound]
    rfl
  have written : (Style.fewest ⟨false, false⟩).written (membersOf (.name name) parts) =
      membersText name.toList parts := by
    rw [written_fewest, bare_membersOf _ rfl rfl]
    rfl
  have parsed : parseExpr (membersText name.toList parts) = .ok (membersOf (.name name) parts) := by
    rw [← written]
    exact parseExpr_written _ (writable_membersOf (.name valid free) components)
  have evaluated : evaluate extensions (membersText name.toList parts) scope =
      .ok (value.fields parts) := by
    rw [evaluate, parsed]
    exact evalExpr_membersOf named
  rw [evaluated, lookupPath_intercalate components, Except.ok.injEq]
  exact fields_eq_followPath_iff value parts

/-- A map in a list in a map, whose entry is named after the length. -/
theorem evaluate_members_of_nested_map :
    let value := Value.map [("rows", .array [.null, .map [("length", .string "long")]])]
    evaluate .none "x.rows.1.length".toList ⟨[("x", value)]⟩ =
      .ok (lookupPath "rows.1.length".toList value) := by
  intro value
  have components : AreComponents ["rows".toList, "1".toList, lengthName] := by
    unfold AreComponents
    decide
  have plain : ¬ AsksLength value (["rows".toList, "1".toList] ++ [lengthName]) := by
    rw [asksLength_concat_iff]
    rintro ⟨long, -⟩
    cases long
  exact (@evaluate_members_iff .none ⟨[("x", value)]⟩ "x" (by decide) (by decide) value rfl _
    components).mpr plain

/-- **No path leads to the length of a list**, which an expression gives, and so a filter drops a list that
is not empty. -/
theorem no_path_to_length :
    let scope := Scope.ofContext (Context.ofList [("x", .array [.int 1]),
      ("xs", .array [.array [.int 1]])])
    evaluate .none "x.length".toList scope = .ok (.int 1) ∧
      lookupPath "length".toList (.array [.int 1]) = .null ∧
      evalExpr .none scope (.filter (.name "xs") "selectattr" [.literal (.string "length")]) =
        .ok (.array []) := by
  exact ⟨rfl, rfl, rfl⟩

end TextTemplate
