/-
**The outermost loops and groups of a written tree.**

The tags of a tree match as the tree is nested, whatever is open before them and whatever stands behind
them. So what `pairTags` and `groupBranches` list for the tags of a part is known part by part, and
the outermost items of the whole are those of its parts one behind the other.

* `Layered`: items in a stretch of a text, and those of them that no other one encloses;
* `Outlined`: tags for which items are listed, wherever they stand, and the outermost of these;
* `outlined_loops`: **the outermost loops of a tree**, and `outlined_groups`: its outermost groups.
-/

import TextTemplate.Proofs.Edits.Nesting
import TextTemplate.Proofs.Rendering.Written

namespace TextTemplate

/-! ### Layers -/

/-- Whether a different span of a list encloses the span of an item. -/
def isEnclosed {α : Type} (span : α → Span) (items : List α) (item : α) : Bool :=
  items.any fun other => span other != span item && (span other).encloses (span item)

/-- Other items do not matter to an item that none of them encloses. -/
theorem isEnclosed_of_apart {α : Type} {span : α → Span} {others : List α} {item : α}
    (apart : ∀ other ∈ others, (span other).encloses (span item) = false) (items : List α) :
    isEnclosed span (items ++ others) item = isEnclosed span items item ∧
      isEnclosed span (others ++ items) item = isEnclosed span items item := by
  have none : others.any (fun other => span other != span item &&
      (span other).encloses (span item)) = false := by
    rw [List.any_eq_false]
    intro other member
    simp [apart other member]
  rw [isEnclosed, isEnclosed, isEnclosed, List.any_append, List.any_append, none, Bool.or_false,
    Bool.false_or]
  exact ⟨rfl, rfl⟩

/-- **Items in a stretch of a text**, of which `tops` are those that no other one encloses, in order
of their starts. -/
structure Layered {α : Type} (span : α → Span) (start stop : Nat) (items tops : List α) : Prop where
  ordered : start ≤ stop
  within : ∀ item ∈ items, start ≤ (span item).start ∧ (span item).start < (span item).stop ∧
    (span item).stop ≤ stop
  outer : items.filter (fun item => !isEnclosed span items item) = tops
  ascending : tops.Pairwise fun a b => (span a).start < (span b).start

namespace Layered

variable {α : Type} {span : α → Span} {start between stop : Nat} {items items' tops tops' : List α}

theorem nil (ordered : start ≤ stop) : Layered span start stop [] [] :=
  ⟨ordered, fun _ member => absurd member List.not_mem_nil, rfl, List.Pairwise.nil⟩

theorem mem_items (layered : Layered span start stop items tops) {item : α} (top : item ∈ tops) :
    item ∈ items := by
  rw [← layered.outer] at top
  exact (List.mem_filter.mp top).1

/-- **Stretches one behind the other** have the outermost items of both. -/
theorem append (first : Layered span start between items tops)
    (second : Layered span between stop items' tops') :
    Layered span start stop (items ++ items') (tops ++ tops') := by
  have apart : ∀ item ∈ items, ∀ other ∈ items', (span other).encloses (span item) = false ∧
      (span item).encloses (span other) = false := by
    intro item member other member'
    have before := first.within item member
    have behind := second.within other member'
    rw [Bool.eq_false_iff, Bool.eq_false_iff, ne_eq, ne_eq, Span.encloses_iff, Span.encloses_iff]
    omega
  have front : ∀ item ∈ items,
      isEnclosed span (items ++ items') item = isEnclosed span items item := fun item member =>
    (isEnclosed_of_apart (fun other member' => (apart item member other member').1) items).1
  have back : ∀ item ∈ items',
      isEnclosed span (items ++ items') item = isEnclosed span items' item := fun item member =>
    (isEnclosed_of_apart (fun other member' => (apart other member' item member).2) items').2
  refine ⟨Nat.le_trans first.ordered second.ordered, fun item member => ?_, ?_, ?_⟩
  · have ordered := first.ordered
    have ordered' := second.ordered
    rcases List.mem_append.mp member with inside | inside
    · have placed := first.within item inside
      omega
    · have placed := second.within item inside
      omega
  · rw [List.filter_append, ← first.outer, ← second.outer]
    congr 1
    · exact List.filter_congr fun item member => by rw [front item member]
    · exact List.filter_congr fun item member => by rw [back item member]
  · refine List.pairwise_append.mpr ⟨first.ascending, second.ascending, fun a top b top' => ?_⟩
    have before := first.within a (first.mem_items top)
    have behind := second.within b (second.mem_items top')
    omega

/-- **An item around a stretch** is the only outermost one. -/
theorem around (layered : Layered span start stop items tops) (top : α)
    (before : (span top).start < start) (behind : stop < (span top).stop) :
    Layered span (span top).start (span top).stop (items ++ [top]) [top] := by
  have ordered := layered.ordered
  have enclosed : ∀ item ∈ items, isEnclosed span (items ++ [top]) item = true := by
    intro item member
    have placed := layered.within item member
    have other : span top ≠ span item := fun same => by
      have start := congrArg Span.start same
      omega
    rw [isEnclosed, List.any_append, List.any_cons, Bool.or_eq_true, Bool.or_eq_true,
      Bool.and_eq_true, bne_iff_ne, Span.encloses_iff]
    exact Or.inr (Or.inl ⟨other, by omega, by omega⟩)
  have free : isEnclosed span (items ++ [top]) top = false := by
    rw [isEnclosed, List.any_eq_false]
    intro item member
    rw [Bool.and_eq_true, bne_iff_ne, Span.encloses_iff]
    rcases List.mem_append.mp member with inside | last
    · have placed := layered.within item inside
      omega
    · cases List.mem_singleton.mp last
      exact fun both => both.1 rfl
  refine ⟨by omega, fun item member => ?_, ?_, List.pairwise_singleton _ _⟩
  · rcases List.mem_append.mp member with inside | last
    · have placed := layered.within item inside
      omega
    · cases List.mem_singleton.mp last
      omega
  · have none : items.filter (fun item => !isEnclosed span (items ++ [top]) item) = [] := by
      rw [List.filter_eq_nil_iff]
      intro item member
      rw [enclosed item member]
      decide
    rw [List.filter_append, none, List.filter_cons_of_pos (by rw [free]; rfl)]
    rfl

theorem outermost_eq (layered : Layered span start stop items tops) :
    outermost span items = tops := by
  have sorted : tops.Pairwise fun a b => decide ((span a).start ≤ (span b).start) = true :=
    layered.ascending.imp fun less => decide_eq_true (Nat.le_of_lt less)
  show (items.filter fun item => !isEnclosed span items item).mergeSort _ = tops
  rw [layered.outer]
  exact List.mergeSort_of_pairwise sorted

end Layered

/-! ### Outlines -/

theorem offset_le_after (here : Position) (text : Text) : here.offset ≤ (here.after text).offset := by
  rw [Position.after_offset]
  exact Nat.le_add_right _ _

theorem offset_lt_after (here : Position) {text : Text} (filled : text ≠ []) :
    here.offset < (here.after text).offset := by
  have positive : text.byteSize ≠ 0 := fun empty => filled (Text.byteSize_eq_zero_iff.mp empty)
  rw [Position.after_offset]
  omega

theorem offset_lt_after_statementTag (here : Position) (inner : Text) :
    here.offset < (here.after (statementTag inner)).offset :=
  offset_lt_after here (by simp [statementTag, TagKind.opener])

theorem offset_lt_after_expressionTag (here : Position) (inner : Text) :
    here.offset < (here.after (expressionTag inner)).offset :=
  offset_lt_after here (by simp [expressionTag, TagKind.opener])

/-- The statement tags of a list. -/
abbrev statementsIn (tags : List Tag) : List Tag :=
  tags.filter fun tag => tag.kind = .statement

theorem statementsIn_append (tags tags' : List Tag) :
    statementsIn (tags ++ tags') = statementsIn tags ++ statementsIn tags' :=
  List.filter_append _ _

theorem statementsIn_cons (here : Position) (inner : Text) (tags : List Tag) :
    statementsIn (statementAt here inner :: tags) = statementAt here inner :: statementsIn tags :=
  rfl

/-- **What is listed for the tags of a text**, whatever is open before them and stands behind them, and
the outermost items of it. `listed` lists the items of a list of tags with some items open. -/
def Outlined {α β : Type} (listed : List β → List Tag → List α) (span : α → Span) (here : Position)
    (text : Text) (tags : List Tag) (tops : List α) : Prop :=
  ∃ items, (∀ opened rest, listed opened (statementsIn tags ++ rest) = items ++ listed opened rest) ∧
    Layered span here.offset (here.after text).offset items tops

namespace Outlined

variable {α β : Type} {listed : List β → List Tag → List α} {span : α → Span} {here : Position}
  {text text' : Text} {tags tags' : List Tag} {tops tops' : List α}

theorem nil (here : Position) (text : Text) : Outlined listed span here text [] [] :=
  ⟨[], fun _ _ => rfl, Layered.nil (offset_le_after here text)⟩

theorem append (first : Outlined listed span here text tags tops)
    (second : Outlined listed span (here.after text) text' tags' tops') :
    Outlined listed span here (text ++ text') (tags ++ tags') (tops ++ tops') := by
  obtain ⟨items, lists, layered⟩ := first
  obtain ⟨items', lists', layered'⟩ := second
  rw [Outlined, Position.after_append]
  refine ⟨items ++ items', fun opened rest => ?_, layered.append layered'⟩
  rw [statementsIn_append, List.append_assoc, lists, lists', List.append_assoc]

/-- A tag for which nothing is listed. -/
theorem neither {tag : Tag} (here : Position) (text : Text)
    (passed : ∀ opened rest, listed opened (tag :: rest) = listed opened rest) :
    Outlined listed span here text [tag] [] := by
  refine ⟨[], fun opened rest => ?_, Layered.nil (offset_le_after here text)⟩
  by_cases statement : tag.kind = .statement
  · rw [statementsIn, List.filter_cons_of_pos (by simp [statement])]
    exact passed opened rest
  · rw [statementsIn, List.filter_cons_of_neg (by simp [statement])]
    rfl

theorem outermost_eq (outlined : Outlined listed span here text tags tops) {opened : List β}
    (nothing : listed opened [] = []) :
    outermost span (listed opened (statementsIn tags)) = tops := by
  obtain ⟨items, lists, layered⟩ := outlined
  have whole := lists opened []
  rw [List.append_nil, nothing, List.append_nil] at whole
  rw [whole]
  exact layered.outermost_eq

end Outlined

/-! ### Loops -/

/-- The loop that is written around a text. -/
def loopAt (here : Position) (name iterable text : Text) : Enclosure LoopHead :=
  let inside := here.after (statementTag (loopHead name iterable))
  ⟨⟨String.ofList name, iterable⟩, statementAt here (loopHead name iterable),
    statementAt (inside.after text) "endfor".toList⟩

mutual

/-- The outermost loops of a part that begins at `here`. -/
def Node.loops (here : Position) : Node → List (Enclosure LoopHead)
  | .text _ | .output _ | .assign .. => []
  | .loop name iterable body => [loopAt here name iterable (printNodes body)]
  | .choice condition body others =>
    let inside := here.after (statementTag ("if ".toList ++ condition))
    loopsOfNodes inside body ++ others.loops (inside.after (printNodes body))

/-- The outermost loops of parts one behind the other. -/
def loopsOfNodes (here : Position) : List Node → List (Enclosure LoopHead)
  | [] => []
  | node :: nodes => node.loops here ++ loopsOfNodes (here.after node.print) nodes

/-- The outermost loops in what is taken where a condition does not hold. -/
def Others.loops (here : Position) : Others → List (Enclosure LoopHead)
  | .nothing => []
  | .otherwise body => loopsOfNodes (here.after (statementTag "else".toList)) body
  | .choice condition body others =>
    let inside := here.after (statementTag ("elif ".toList ++ condition))
    loopsOfNodes inside body ++ others.loops (inside.after (printNodes body))

end

/-- The outermost loops that the tags of a text enclose. -/
abbrev LoopsIn (here : Position) (text : Text) (tags : List Tag) (tops : List (Enclosure LoopHead)) :
    Prop :=
  Outlined (pairTags loopRole) Enclosure.span here text tags tops

theorem loopRole_of_directive? {tag : Tag} {keyword : String} {argument : Text}
    (found : tag.directive? = some (keyword, argument)) (notFor : keyword ≠ "for")
    (notEndfor : keyword ≠ "endfor") : loopRole tag = .neither := by
  unfold loopRole
  rw [found]
  split
  · rename_i same
    cases same
    exact absurd rfl notFor
  · rename_i same
    cases same
    exact absurd rfl notEndfor
  · rfl

namespace LoopsIn

variable {here : Position} {text inner : Text} {tags : List Tag} {tops : List (Enclosure LoopHead)}

theorem other {keyword : String} {argument : Text}
    (found : (statementAt here inner).directive? = some (keyword, argument))
    (notFor : keyword ≠ "for") (notEndfor : keyword ≠ "endfor") :
    LoopsIn here (statementTag inner) [statementAt here inner] [] :=
  Outlined.neither here _ fun _ _ =>
    pairTags_neither (loopRole_of_directive? found notFor notEndfor)

/-- The tags of a loop around some text enclose that text. -/
theorem loop {name iterable : Text} (named : IsName name) (iterates : IsExpression iterable)
    (inside : LoopsIn (here.after (statementTag (loopHead name iterable))) text tags tops) :
    LoopsIn here (statementTag (loopHead name iterable) ++ (text ++ statementTag "endfor".toList))
      ([statementAt here (loopHead name iterable)] ++ (tags ++
        [statementAt ((here.after (statementTag (loopHead name iterable))).after text)
          "endfor".toList]))
      [loopAt here name iterable text] := by
  obtain ⟨items, lists, layered⟩ := inside
  have opens := loopRole_loopHead here named iterates
  have closes (here : Position) : loopRole (statementAt here "endfor".toList) = .closes := by
    simp only [loopRole, directive?_word here "endfor" (by decide)]
  refine ⟨items ++ [loopAt here name iterable text], fun opened rest => ?_, ?_⟩
  · simp only [statementsIn_append, statementsIn_cons, List.filter_nil, List.append_assoc,
      List.cons_append, List.nil_append]
    rw [pairTags_opens opens, lists, pairTags_closes (closes _)]
    rfl
  · rw [Position.after_append, Position.after_append]
    exact layered.around (loopAt here name iterable text) (offset_lt_after_statementTag here _)
      (offset_lt_after_statementTag _ _)

end LoopsIn

mutual

theorem outlined_loopsOfNode (node : Node) (valid : node.WellFormed) (here : Position) :
    LoopsIn here node.print (node.tags here) (node.loops here) := by
  match node with
  | .text text => exact Outlined.nil here text
  | .output expression =>
    exact Outlined.neither here _ fun _ _ => pairTags_neither rfl
  | .assign name expression =>
    exact LoopsIn.other (directive?_assignHead here valid.1 valid.2) (by decide) (by decide)
  | .loop name iterable body =>
    obtain ⟨named, iterates, inner⟩ := valid
    simp only [Node.print, Node.tags, Node.loops, List.append_assoc]
    exact LoopsIn.loop named iterates (outlined_loops body inner _)
  | .choice condition body others =>
    obtain ⟨conditional, inner, others'⟩ := valid
    have opens := LoopsIn.other (directive?_if here conditional) (by decide) (by decide)
    have closes (here : Position) :=
      LoopsIn.other (directive?_word here "endif" (by decide)) (by decide) (by decide)
    have whole := opens.append ((outlined_loops body inner _).append
      ((outlined_loopsOfOthers others others' _).append (closes _)))
    rw [List.nil_append, List.append_nil] at whole
    simp only [Node.print, Node.tags, Node.loops, List.append_assoc]
    exact whole

/-- **The outermost loops of a tree** are the outermost loops that its tags enclose. -/
theorem outlined_loops (nodes : List Node) (valid : WellFormedNodes nodes) (here : Position) :
    LoopsIn here (printNodes nodes) (tagsOfNodes here nodes) (loopsOfNodes here nodes) := by
  match nodes with
  | [] => exact Outlined.nil here []
  | node :: nodes =>
    exact (outlined_loopsOfNode node valid.1 here).append (outlined_loops nodes valid.2 _)

theorem outlined_loopsOfOthers (others : Others) (valid : others.WellFormed) (here : Position) :
    LoopsIn here others.print (others.tags here) (others.loops here) := by
  match others with
  | .nothing => exact Outlined.nil here []
  | .otherwise body =>
    have begins := LoopsIn.other (directive?_word here "else" (by decide)) (by decide) (by decide)
    exact begins.append (outlined_loops body valid _)
  | .choice condition body others =>
    obtain ⟨conditional, inner, others'⟩ := valid
    have begins := LoopsIn.other (directive?_elif here conditional) (by decide) (by decide)
    simp only [Others.print, Others.tags, Others.loops, List.append_assoc]
    exact begins.append ((outlined_loops body inner _).append
      (outlined_loopsOfOthers others others' _))

end

/-! ### Groups of branches -/

/-- The group whose first branch is `text`, and whose other branches lie in the text behind it. -/
def groupAt (here : Position) (condition text behind : Text) (branches : List Branch) : BranchGroup :=
  let inside := here.after (statementTag ("if ".toList ++ condition))
  let next := inside.after text
  ⟨⟨here.offset, ((next.after behind).after (statementTag "endif".toList)).offset⟩,
    ⟨.holds condition, ⟨inside.offset, next.offset⟩⟩ :: branches⟩

mutual

/-- The outermost groups of a part that begins at `here`. -/
def Node.groups (here : Position) : Node → List BranchGroup
  | .text _ | .output _ | .assign .. => []
  | .loop name iterable body =>
    groupsOfNodes (here.after (statementTag (loopHead name iterable))) body
  | .choice condition body others =>
    let inside := here.after (statementTag ("if ".toList ++ condition))
    [groupAt here condition (printNodes body) others.print
      (others.branches (inside.after (printNodes body)))]

/-- The outermost groups of parts one behind the other. -/
def groupsOfNodes (here : Position) : List Node → List BranchGroup
  | [] => []
  | node :: nodes => node.groups here ++ groupsOfNodes (here.after node.print) nodes

/-- The branches of what is taken where a condition does not hold. -/
def Others.branches (here : Position) : Others → List Branch
  | .nothing => []
  | .otherwise body =>
    let inside := here.after (statementTag "else".toList)
    [⟨.always, ⟨inside.offset, (inside.after (printNodes body)).offset⟩⟩]
  | .choice condition body others =>
    let inside := here.after (statementTag ("elif ".toList ++ condition))
    let behind := inside.after (printNodes body)
    ⟨.holds condition, ⟨inside.offset, behind.offset⟩⟩ :: others.branches behind

end

section Steps

variable {tag : Tag} {tags : List Tag} {argument : Text} {group : OpenGroup}
  {opened : List OpenGroup}

theorem groupBranches_if (found : tag.directive? = some ("if", argument)) :
    groupBranches opened (tag :: tags) =
      groupBranches (.ofTag tag (.ofArgument argument) :: opened) tags := by
  simp only [groupBranches, found]

theorem groupBranches_elif (found : tag.directive? = some ("elif", argument)) :
    groupBranches (group :: opened) (tag :: tags) =
      groupBranches (group.next tag (.ofArgument argument) :: opened) tags := by
  simp only [groupBranches, found]

theorem groupBranches_else (found : tag.directive? = some ("else", argument)) :
    groupBranches (group :: opened) (tag :: tags) =
      groupBranches (group.next tag .always :: opened) tags := by
  simp only [groupBranches, found]

theorem groupBranches_endif (found : tag.directive? = some ("endif", argument)) :
    groupBranches (group :: opened) (tag :: tags) = group.close tag :: groupBranches opened tags := by
  simp only [groupBranches, found]

theorem groupBranches_other {keyword : String} (found : tag.directive? = some (keyword, argument))
    (other : keyword ∉ ["if", "elif", "else", "endif"]) :
    groupBranches opened (tag :: tags) = groupBranches opened tags := by
  rw [groupBranches.eq_def]
  simp only [found]
  split <;> simp_all

theorem groupBranches_expression (expression : tag.directive? = none) :
    groupBranches opened (tag :: tags) = groupBranches opened tags := by
  simp only [groupBranches, expression]

end Steps

/-- The outermost groups that the tags of a text divide. -/
abbrev GroupsIn (here : Position) (text : Text) (tags : List Tag) (tops : List BranchGroup) : Prop :=
  Outlined groupBranches BranchGroup.span here text tags tops

/-- **Tags that divide a group** which is open before them into further branches, up to the tag behind
them that closes it. -/
def DividedIn (here : Position) (text : Text) (tags : List Tag) (branches : List Branch) : Prop :=
  ∃ items tops, Layered BranchGroup.span here.offset (here.after text).offset items tops ∧
    ∀ (group : OpenGroup) opened rest, groupBranches (group :: opened)
        (statementsIn tags ++ statementAt (here.after text) "endif".toList :: rest) =
      items ++ ⟨⟨group.start, ((here.after text).after (statementTag "endif".toList)).offset⟩,
        (⟨group.guard, ⟨group.bodyStart, here.offset⟩⟩ :: group.finished).reverse ++ branches⟩ ::
          groupBranches opened rest

theorem GroupsIn.other {here : Position} {inner : Text} {keyword : String} {argument : Text}
    (found : (statementAt here inner).directive? = some (keyword, argument))
    (other : keyword ∉ ["if", "elif", "else", "endif"]) :
    GroupsIn here (statementTag inner) [statementAt here inner] [] :=
  Outlined.neither here _ fun _ _ => groupBranches_other found other

namespace DividedIn

variable {here : Position} {text inner text' : Text} {tags tags' : List Tag}
  {tops : List BranchGroup} {branches : List Branch} {guard : Guard}

theorem nothing (here : Position) : DividedIn here [] [] [] := by
  refine ⟨[], [], Layered.nil (Nat.le_refl _), fun group opened rest => ?_⟩
  rw [List.append_nil]
  exact groupBranches_endif (directive?_word here "endif" (by decide))

/-- Another branch, behind a tag that begins it. -/
theorem branch (next : ∀ group opened rest,
      groupBranches (group :: opened) (statementAt here inner :: rest) =
        groupBranches (group.next (statementAt here inner) guard :: opened) rest)
    (inside : GroupsIn (here.after (statementTag inner)) text tags tops)
    (behind : DividedIn ((here.after (statementTag inner)).after text) text' tags' branches) :
    DividedIn here (statementTag inner ++ (text ++ text'))
      ([statementAt here inner] ++ (tags ++ tags'))
      (⟨guard, ⟨(here.after (statementTag inner)).offset,
        ((here.after (statementTag inner)).after text).offset⟩⟩ :: branches) := by
  obtain ⟨items, lists, layered⟩ := inside
  obtain ⟨items', tops', layered', divides⟩ := behind
  rw [DividedIn, Position.after_append, Position.after_append]
  refine ⟨items ++ items', tops ++ tops', ?_, fun group opened rest => ?_⟩
  · exact (Layered.nil (offset_le_after here _)).append (layered.append layered')
  · simp only [statementsIn_append, statementsIn_cons, List.append_assoc, List.cons_append,
      List.nil_append]
    rw [next, lists, divides]
    simp only [OpenGroup.next, OpenGroup.endBranch, List.reverse_cons, List.append_assoc,
      List.singleton_append]
    rfl

end DividedIn

/-- The tags of a condition around its branches are one group. -/
theorem GroupsIn.choice {here : Position} {condition text text' : Text} {tags tags' : List Tag}
    {tops : List BranchGroup} {branches : List Branch} (valid : IsExpression condition)
    (inside : GroupsIn (here.after (statementTag ("if ".toList ++ condition))) text tags tops)
    (behind : DividedIn ((here.after (statementTag ("if ".toList ++ condition))).after text) text'
      tags' branches) :
    GroupsIn here (statementTag ("if ".toList ++ condition) ++
        (text ++ (text' ++ statementTag "endif".toList)))
      ([statementAt here ("if ".toList ++ condition)] ++ (tags ++ (tags' ++
        [statementAt (((here.after (statementTag ("if ".toList ++ condition))).after text).after text')
          "endif".toList])))
      [groupAt here condition text text' branches] := by
  obtain ⟨items, lists, layered⟩ := inside
  obtain ⟨items', tops', layered', divides⟩ := behind
  refine ⟨items ++ items' ++ [groupAt here condition text text' branches],
    fun opened rest => ?_, ?_⟩
  · simp only [statementsIn_append, statementsIn_cons, List.filter_nil, List.append_assoc,
      List.cons_append, List.nil_append]
    rw [groupBranches_if (directive?_if here valid), lists, divides, valid.guard]
    rfl
  · simp only [Position.after_append]
    exact (layered.append layered').around (groupAt here condition text text' branches)
      (offset_lt_after_statementTag here _) (offset_lt_after_statementTag _ _)

mutual

theorem outlined_groupsOfNode (node : Node) (valid : node.WellFormed) (here : Position) :
    GroupsIn here node.print (node.tags here) (node.groups here) := by
  match node with
  | .text text => exact Outlined.nil here text
  | .output expression =>
    exact Outlined.neither here _ fun _ _ => groupBranches_expression rfl
  | .assign name expression =>
    exact GroupsIn.other (directive?_assignHead here valid.1 valid.2) (by decide)
  | .loop name iterable body =>
    obtain ⟨named, iterates, inner⟩ := valid
    have opens := GroupsIn.other (directive?_loopHead here named iterates) (by decide)
    have closes (here : Position) :=
      GroupsIn.other (directive?_word here "endfor" (by decide)) (by decide)
    have whole := opens.append ((outlined_groups body inner _).append (closes _))
    rw [List.nil_append, List.append_nil] at whole
    simp only [Node.print, Node.tags, Node.groups, List.append_assoc]
    exact whole
  | .choice condition body others =>
    obtain ⟨conditional, inner, others'⟩ := valid
    simp only [Node.print, Node.tags, Node.groups, List.append_assoc]
    exact GroupsIn.choice conditional (outlined_groups body inner _)
      (dividedIn_others others others' _)

/-- **The outermost groups of a tree** are the outermost groups that its tags enclose. -/
theorem outlined_groups (nodes : List Node) (valid : WellFormedNodes nodes) (here : Position) :
    GroupsIn here (printNodes nodes) (tagsOfNodes here nodes) (groupsOfNodes here nodes) := by
  match nodes with
  | [] => exact Outlined.nil here []
  | node :: nodes =>
    exact (outlined_groupsOfNode node valid.1 here).append (outlined_groups nodes valid.2 _)

theorem dividedIn_others (others : Others) (valid : others.WellFormed) (here : Position) :
    DividedIn here others.print (others.tags here) (others.branches here) := by
  match others with
  | .nothing => exact DividedIn.nothing here
  | .otherwise body =>
    have next (group : OpenGroup) (opened : List OpenGroup) (rest : List Tag) :
        groupBranches (group :: opened) (statementAt here "else".toList :: rest) =
          groupBranches (group.next (statementAt here "else".toList) .always :: opened) rest :=
      groupBranches_else (directive?_word here "else" (by decide))
    have whole := DividedIn.branch next (outlined_groups body valid _) (DividedIn.nothing _)
    simp only [List.append_nil] at whole
    exact whole
  | .choice condition body others =>
    obtain ⟨conditional, inner, others'⟩ := valid
    simp only [Others.print, Others.tags, Others.branches, List.append_assoc]
    refine DividedIn.branch (fun _ _ _ => ?_) (outlined_groups body inner _)
      (dividedIn_others others others' _)
    rw [groupBranches_elif (directive?_elif here conditional), conditional.guard]

end

end TextTemplate
