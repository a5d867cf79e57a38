/-
**Templates as trees.**

A tree says what the tags of a template mean to each other: which text a loop repeats and between
which texts a condition chooses. `printNodes` is the template that a tree is written as.

* `Node`, `Others`: the trees; the others of a condition are what is taken where it does not hold;
* `Node.WellFormed`: texts without delimiters, names, and expressions that can be parsed;
* `loopRecord`: what a loop tells its body about an item;
* `rendered`: **what a tree renders to in stages**: all assignments, then the outermost loops, each
  of whose bodies is rendered in the same stages, then the conditions, then the output.
-/

import TextTemplate.Proofs.Expressions.Names
import TextTemplate.Rendering.Render

namespace TextTemplate

/-! ### Trees -/

mutual

/-- A part of a template. -/
inductive Node where
  | text (text : Text)
  /-- The value of an expression. -/
  | output (expression : Text)
  | assign (name : Text) (expression : Text)
  /-- A body that is repeated for each item of a value. -/
  | loop (name : Text) (iterable : Text) (body : List Node)
  /-- A body that is taken if a condition holds, and what is taken else. -/
  | choice (condition : Text) (body : List Node) (others : Others)

/-- What is taken where a condition does not hold. -/
inductive Others where
  | nothing
  | otherwise (body : List Node)
  /-- A further condition. -/
  | choice (condition : Text) (body : List Node) (others : Others)

end

/-! ### How a tree is written -/

/-- A statement tag with blanks inside of the delimiters. -/
def statementTag (inner : Text) : Text :=
  TagKind.statement.opener ++ (' ' :: inner ++ [' ']) ++ TagKind.statement.closer

/-- An expression tag with blanks inside of the delimiters. -/
def expressionTag (inner : Text) : Text :=
  TagKind.expression.opener ++ (' ' :: inner ++ [' ']) ++ TagKind.expression.closer

/-- The inside of the tag of an assignment. -/
def assignHead (name expression : Text) : Text :=
  "set ".toList ++ name ++ " = ".toList ++ expression

/-- The inside of the tag of a loop. -/
def loopHead (name iterable : Text) : Text :=
  "for ".toList ++ name ++ " in ".toList ++ iterable

mutual

/-- The text of a part of a template. -/
def Node.print : Node → Text
  | .text text => text
  | .output expression => expressionTag expression
  | .assign name expression => statementTag (assignHead name expression)
  | .loop name iterable body =>
    statementTag (loopHead name iterable) ++ printNodes body ++ statementTag "endfor".toList
  | .choice condition body others =>
    statementTag ("if ".toList ++ condition) ++ printNodes body ++ others.print ++
      statementTag "endif".toList

/-- The text of parts one behind the other. -/
def printNodes : List Node → Text
  | [] => []
  | node :: nodes => node.print ++ printNodes nodes

/-- The text of what is taken where a condition does not hold. -/
def Others.print : Others → Text
  | .nothing => []
  | .otherwise body => statementTag "else".toList ++ printNodes body
  | .choice condition body others =>
    statementTag ("elif ".toList ++ condition) ++ printNodes body ++ others.print

end

theorem printNodes_append (front rest : List Node) :
    printNodes (front ++ rest) = printNodes front ++ printNodes rest := by
  induction front with
  | nil => rfl
  | cons node front ih => rw [List.cons_append, printNodes, printNodes, ih, List.append_assoc]

theorem printNodes_singleton (node : Node) : printNodes [node] = node.print :=
  List.append_nil _

/-! ### Well-formed trees -/

/-- A text without braces and percent signs. -/
def Bare (text : Text) : Prop :=
  ∀ c ∈ text, c ≠ '{' ∧ c ≠ '}' ∧ c ≠ '%'

instance (text : Text) : Decidable (Bare text) :=
  List.decidableBAll (fun c => c ≠ '{' ∧ c ≠ '}' ∧ c ≠ '%') text

/-- An expression without blanks around it and without the characters of delimiters. -/
structure IsExpression (text : Text) : Prop where
  bare : Bare text
  trimmed : text.trim = text
  parses : ∃ expr, parseExpr text = .ok expr

instance (text : Text) : Decidable (∃ expr, parseExpr text = .ok expr) :=
  match parseExpr text with
  | .ok expr => .isTrue ⟨expr, rfl⟩
  | .error _ => .isFalse fun ⟨_, ok⟩ => nomatch ok

instance (text : Text) : Decidable (IsExpression text) :=
  decidable_of_iff (Bare text ∧ text.trim = text ∧ ∃ expr, parseExpr text = .ok expr)
    ⟨fun ⟨bare, trimmed, parses⟩ => ⟨bare, trimmed, parses⟩,
      fun valid => ⟨valid.bare, valid.trimmed, valid.parses⟩⟩

mutual

/-- **A tree is well-formed** if its texts hold no delimiters, its names are names and its
expressions can be parsed. -/
def Node.WellFormed : Node → Prop
  | .text text => Bare text
  | .output expression => IsExpression expression
  | .assign name expression => IsName name ∧ IsExpression expression
  | .loop name iterable body => IsName name ∧ IsExpression iterable ∧ WellFormedNodes body
  | .choice condition body others =>
    IsExpression condition ∧ WellFormedNodes body ∧ others.WellFormed

/-- All parts are well-formed. -/
def WellFormedNodes : List Node → Prop
  | [] => True
  | node :: nodes => node.WellFormed ∧ WellFormedNodes nodes

/-- What is taken where a condition does not hold is well-formed. -/
def Others.WellFormed : Others → Prop
  | .nothing => True
  | .otherwise body => WellFormedNodes body
  | .choice condition body others =>
    IsExpression condition ∧ WellFormedNodes body ∧ others.WellFormed

end

mutual

def Node.decideWellFormed : (node : Node) → Decidable node.WellFormed
  | .text text => inferInstanceAs (Decidable (Bare text))
  | .output expression => inferInstanceAs (Decidable (IsExpression expression))
  | .assign name expression => inferInstanceAs (Decidable (IsName name ∧ IsExpression expression))
  | .loop name iterable body =>
    have := decideWellFormedNodes body
    inferInstanceAs (Decidable (IsName name ∧ IsExpression iterable ∧ WellFormedNodes body))
  | .choice condition body others =>
    have := decideWellFormedNodes body
    have := others.decideWellFormed
    inferInstanceAs (Decidable (IsExpression condition ∧ WellFormedNodes body ∧ others.WellFormed))

def decideWellFormedNodes : (nodes : List Node) → Decidable (WellFormedNodes nodes)
  | [] => .isTrue trivial
  | node :: nodes =>
    have := node.decideWellFormed
    have := decideWellFormedNodes nodes
    inferInstanceAs (Decidable (node.WellFormed ∧ WellFormedNodes nodes))

def Others.decideWellFormed : (others : Others) → Decidable others.WellFormed
  | .nothing => .isTrue trivial
  | .otherwise body => decideWellFormedNodes body
  | .choice condition body others =>
    have := decideWellFormedNodes body
    have := others.decideWellFormed
    inferInstanceAs (Decidable (IsExpression condition ∧ WellFormedNodes body ∧ others.WellFormed))

end

instance (nodes : List Node) : Decidable (WellFormedNodes nodes) :=
  decideWellFormedNodes nodes

theorem wellFormedNodes_append {front rest : List Node} (valid : WellFormedNodes front)
    (valid' : WellFormedNodes rest) : WellFormedNodes (front ++ rest) := by
  induction front with
  | nil => exact valid'
  | cons node front ih => exact ⟨valid.1, ih valid.2⟩

/-! ### What a tree renders to -/

mutual

/-- The assignments of a part in order of the text, those in loops and in conditions included. -/
def Node.assignments : Node → List Assignment
  | .text _ | .output _ => []
  | .assign name expression => [⟨String.ofList name, expression⟩]
  | .loop _ _ body => assignmentsOf body
  | .choice _ body others => assignmentsOf body ++ others.assignments

/-- The assignments of some parts in order of the text. -/
def assignmentsOf : List Node → List Assignment
  | [] => []
  | node :: nodes => node.assignments ++ assignmentsOf nodes

/-- The assignments in what is taken where a condition does not hold. -/
def Others.assignments : Others → List Assignment
  | .nothing => []
  | .otherwise body => assignmentsOf body
  | .choice _ body others => assignmentsOf body ++ others.assignments

end

/-- **The values of expressions are written without delimiters.** -/
def Renderer.PlainValues (renderer : Renderer) : Prop :=
  ∀ expression scope value, renderer.evaluator expression scope = .ok value → Bare value.text

/-- What `loop` tells the body of a loop about an item, from the items before it and behind it: its
number from the front and from the back, counted from one and from zero, whether it is the first or
the last one, and how many items there are. -/
def loopRecord (before behind : List Value) : Value :=
  .map [("index", .ofNat (before.length + 1)), ("index0", .ofNat before.length),
    ("revindex", .ofNat (behind.length + 1)), ("revindex0", .ofNat behind.length),
    ("first", .bool before.isEmpty), ("last", .bool behind.isEmpty),
    ("length", .ofNat (before.length + 1 + behind.length))]

/-- **The numbers of a loop's items** are those of the items before and behind them. -/
theorem loopInfo_eq_loopRecord (before : List Value) (item : Value) (behind : List Value) :
    loopInfo before.length (before ++ item :: behind).length = loopRecord before behind := by
  have length : (before ++ item :: behind).length = before.length + 1 + behind.length := by
    rw [List.length_append, List.length_cons, Nat.add_assoc, Nat.add_comm 1]
  have left : before.length + 1 + behind.length - before.length = behind.length + 1 := by omega
  have first : (before.length == 0) = before.isEmpty := by
    cases before <;> rfl
  have last : (before.length + 1 == before.length + 1 + behind.length) = behind.isEmpty := by
    cases behind <;> simp
  rw [loopInfo, length, left, Nat.add_sub_cancel, first, last, loopRecord]

namespace Rendering

/-- Binds names to the values of expressions, one after the other. -/
def bindAll (renderer : Renderer) (assignments : List Assignment) : Rendering Unit :=
  assignments.forM fun assignment => do
    let value ← ask renderer assignment.expression
    changeScope fun scope => scope.set assignment.name value

/-- Repeats a rendering for each item behind some others, with the name bound to the item and `loop` to
its record. -/
def eachItem (name : String) (body : Rendering Text) :
    (before : List Value) → List Value → Rendering (List Text)
  | _, [] => return []
  | before, item :: behind => do
    changeScope fun scope => (scope.set "loop" (loopRecord before behind)).set name item
    let text ← body
    return text :: (← eachItem name body (before ++ [item]) behind)

/-- Repeats a rendering for each item of a value. The name of the item and `loop` get back the bindings
that they had before, also after a failure. -/
def forEach (renderer : Renderer) (name : String) (iterable : Text) (body : Rendering Text) :
    Rendering Text := do
  let items := (← ask renderer iterable).items
  let before ← scope
  let outcome ← attempt (eachItem name body [] items)
  changeScope fun scope =>
    (scope.restore "loop" (before.get? "loop")).restore name (before.get? name)
  return (← settle outcome).flatten

mutual

/-- Replaces the conditions in a part by what is taken. -/
def chooseNode (renderer : Renderer) : Node → Rendering (List Node)
  | .choice condition body others => do
    if ← holds renderer (Condition.ofText condition) then chooseNodes renderer body
    else chooseOthers renderer others
  | node => return [node]

/-- Replaces the conditions in some parts by what is taken. -/
def chooseNodes (renderer : Renderer) : List Node → Rendering (List Node)
  | [] => return []
  | node :: nodes => do
    return (← chooseNode renderer node) ++ (← chooseNodes renderer nodes)

/-- What is taken where a condition does not hold. -/
def chooseOthers (renderer : Renderer) : Others → Rendering (List Node)
  | .nothing => return []
  | .otherwise body => chooseNodes renderer body
  | .choice condition body others => do
    if ← holds renderer (Condition.ofText condition) then chooseNodes renderer body
    else chooseOthers renderer others

end

/-- The output of a part, once loops and conditions are replaced. -/
def outputNode (renderer : Renderer) : Node → Rendering Text
  | .text text => return text
  | .output expression => do return (← ask renderer expression).text
  | .assign .. | .loop .. | .choice .. => return []

/-- The output of some parts. -/
def outputNodes (renderer : Renderer) (nodes : List Node) : Rendering Text := do
  return (← nodes.mapM (outputNode renderer)).flatten

mutual

/-- Replaces the outermost loops in a part, wherever they stand, by the texts that they render
to. -/
def expandNode (renderer : Renderer) : Node → Rendering (List Node)
  | .loop name iterable body => do
    let text ← forEach renderer (String.ofList name) iterable do
      bindAll renderer (assignmentsOf body)
      let expanded ← expandNodes renderer body
      outputNodes renderer (← chooseNodes renderer expanded)
    return [.text text]
  | .choice condition body others => do
    let body ← expandNodes renderer body
    return [.choice condition body (← expandOthers renderer others)]
  | node => return [node]

/-- Replaces the outermost loops in some parts. -/
def expandNodes (renderer : Renderer) : List Node → Rendering (List Node)
  | [] => return []
  | node :: nodes => do
    return (← expandNode renderer node) ++ (← expandNodes renderer nodes)

/-- Replaces the outermost loops in what is taken where a condition does not hold. -/
def expandOthers (renderer : Renderer) : Others → Rendering Others
  | .nothing => return .nothing
  | .otherwise body => do return .otherwise (← expandNodes renderer body)
  | .choice condition body others => do
    let body ← expandNodes renderer body
    return .choice condition body (← expandOthers renderer others)

end

/-- **What a tree renders to.** The assignments of the whole tree come first; then each outermost
loop gives way to the texts that its body renders to for the items, then each condition to what is
taken, and the output is made of what is left. -/
def rendered (renderer : Renderer) (nodes : List Node) : Rendering Text := do
  bindAll renderer (assignmentsOf nodes)
  let expanded ← expandNodes renderer nodes
  outputNodes renderer (← chooseNodes renderer expanded)

/-- The body of a loop is rendered as a tree of its own. -/
theorem expandNode_loop (renderer : Renderer) (name iterable : Text) (body : List Node) :
    expandNode renderer (.loop name iterable body) = do
      let text ← forEach renderer (String.ofList name) iterable (rendered renderer body)
      return [.text text] := rfl

end Rendering
end TextTemplate
