/-
**What the tags of a tree say.**

A tag of a tree is written with blanks inside of its delimiters and between its words. What the
passes read from it is what the tree was built from.

* `directive?_argument`, `directive?_word`: the keyword and the argument of a statement tag;
* `assignments_assignHead`: **the tag of an assignment holds that assignment** and no other;
* `loopRole_loopHead`: **the tag of a loop opens that loop**.
-/

import TextTemplate.Proofs.Expressions.Brackets
import TextTemplate.Proofs.Rendering.Tree
import TextTemplate.Proofs.Tags.Decomposition

namespace TextTemplate

/-! ### Blanks around a text -/

namespace Text

theorem trim_cons_blank {c : Char} (blank : isBlank c = true) (text : Text) :
    trim (c :: text) = text.trim := by
  simp only [trim, stripWhile, List.dropWhile_cons, blank, if_true]

theorem trim_append_blank {c : Char} (blank : isBlank c = true) (text : Text) :
    trim (text ++ [c]) = text.trim := by
  simp only [trim, stripWhile, dropRightWhile, List.dropWhile_append]
  split
  · rename_i allBlank
    rw [List.isEmpty_iff.mp allBlank, List.dropWhile_cons_of_pos blank]
    rfl
  · rw [List.reverse_append, List.reverse_singleton, List.singleton_append,
      List.dropWhile_cons_of_pos blank]

theorem trim_blanks_append {blanks : Text} (blank : blanks.all isBlank = true) (text : Text) :
    trim (blanks ++ text) = text.trim := by
  induction blanks with
  | nil => rfl
  | cons c blanks ih =>
    obtain ⟨first, rest⟩ := Bool.and_eq_true_iff.mp blank
    rw [List.cons_append, trim_cons_blank first, ih rest]

theorem trim_append_blanks {blanks : Text} (blank : blanks.all isBlank = true) (text : Text) :
    trim (text ++ blanks) = text.trim := by
  induction blanks generalizing text with
  | nil => rw [List.append_nil]
  | cons c blanks ih =>
    obtain ⟨first, rest⟩ := Bool.and_eq_true_iff.mp blank
    rw [List.append_cons, ih rest, trim_append_blank first]

theorem dropWhile_eq_self_iff_head? {p : Char → Bool} {text : Text} :
    text.dropWhile p = text ↔ ∀ c ∈ text.head?, p c = false := by
  cases text with
  | nil => simp
  | cons c text =>
    rw [List.dropWhile_eq_self_iff]
    simp

/-- A text has no blanks around it if it neither begins nor ends with one. -/
theorem trim_eq_self_iff {text : Text} :
    text.trim = text ↔
      (∀ c ∈ text.head?, isBlank c = false) ∧ ∀ c ∈ text.getLast?, isBlank c = false := by
  have back : dropRightWhile isBlank text = text ↔ ∀ c ∈ text.getLast?, isBlank c = false := by
    rw [dropRightWhile, List.reverse_eq_iff, dropWhile_eq_self_iff_head?, List.head?_reverse]
  rw [← dropWhile_eq_self_iff_head?, ← back]
  constructor
  · intro same
    have front : text.dropWhile isBlank = text := by
      have shorter : text.length ≤ (text.dropWhile isBlank).length := by
        have dropped := (List.dropWhile_sublist (l := (text.dropWhile isBlank).reverse)
          isBlank).length_le
        rw [List.length_reverse] at dropped
        calc text.length = text.trim.length := by rw [same]
          _ = ((text.dropWhile isBlank).reverse.dropWhile isBlank).length := by
            rw [trim, stripWhile, dropRightWhile, List.length_reverse]
          _ ≤ (text.dropWhile isBlank).length := dropped
      exact (List.dropWhile_sublist isBlank).eq_of_length_le shorter
    refine ⟨front, ?_⟩
    rw [trim, stripWhile, front] at same
    exact same
  · rintro ⟨front, back⟩
    rw [trim, stripWhile, front, back]

/-- Without blanks at the start of the first text and around the second, there are none around both.
-/
theorem trim_append {front text : Text} (first : ∃ c ∈ front.head?, isBlank c = false)
    (tight : text.trim = text) (filled : text ≠ []) : (front ++ text).trim = front ++ text := by
  obtain ⟨c, isFirst, notBlank⟩ := first
  obtain ⟨rest, rfl⟩ := List.head?_eq_some_iff.mp isFirst
  rw [trim_eq_self_iff]
  constructor
  · intro d isFirst
    cases isFirst
    exact notBlank
  · rw [List.getLast?_append_of_ne_nil _ filled]
    exact (trim_eq_self_iff.mp tight).2

end Text

/-! ### Names -/

theorem continuesVariable_of_continuesName {c : Char} (continues : continuesName c = true) :
    continuesVariable c = true := by
  have inRange (range : Nat × Nat) (member : range ∈ Text.wordRanges) (low : range.1 ≤ c.toNat)
      (high : c.toNat ≤ range.2) : continuesVariable c = true := by
    have word : Text.isWordChar c = true := Text.inRanges_iff.mpr ⟨range, member, low, high⟩
    rw [continuesVariable, word, Bool.true_or]
  rcases asciiCode_of_continuesName continues with digit | upper | underscore | lower | dollar
  · exact inRange (0x30, 0x39) (by decide) digit.1 digit.2
  · exact inRange (0x41, 0x5a) (by decide) upper.1 upper.2
  · exact inRange (0x5f, 0x5f) (by decide) (Nat.le_of_eq underscore.symm) (Nat.le_of_eq underscore)
  · exact inRange (0x61, 0x7a) (by decide) lower.1 lower.2
  · have same : c = '$' := Char.toNat_inj.mp dollar
    rw [continuesVariable, same, beq_self_eq_true, Bool.or_true]

theorem isBlank_of_continuesVariable {c : Char} (continues : continuesVariable c = true) :
    Text.isBlank c = false := by
  have apart : ∀ word ∈ Text.wordRanges, ∀ blank ∈ Text.blankRanges,
      word.2 < blank.1 ∨ blank.2 < word.1 := by decide +kernel
  rw [continuesVariable, Bool.or_eq_true, beq_iff_eq] at continues
  rcases continues with letter | rfl
  · obtain ⟨word, member, low, high⟩ := Text.inRanges_iff.mp letter
    rw [Bool.eq_false_iff]
    intro blank
    obtain ⟨range, member', low', high'⟩ := Text.inRanges_iff.mp blank
    have apart := apart word member range member'
    omega
  · rfl

theorem isNeutral_of_continuesVariable {c : Char} (continues : continuesVariable c = true) :
    isNeutral c = true ∧ c ≠ '=' := by
  have special : ['"', '\'', '(', '[', '\x7b', ')', ']', '\x7d', ',', '='].all
      (fun d => !continuesVariable d) = true := by decide +kernel
  have other : c ∉ ['"', '\'', '(', '[', '\x7b', ')', ']', '\x7d', ',', '='] := by
    intro member
    have none := List.all_eq_true.mp special c member
    rw [continues] at none
    cases none
  simp only [List.mem_cons, List.not_mem_nil, or_false, not_or] at other
  simp [isNeutral, Text.opensQuote, Text.opensBracket, Text.closesBracket, other]

section Variables

variable {name : Text} (bound : isVariable name = true)

include bound

theorem continuesVariable_of_mem {c : Char} (member : c ∈ name) : continuesVariable c = true := by
  cases name with
  | nil => exact absurd member List.not_mem_nil
  | cons d name =>
    obtain ⟨begins, continues⟩ := Bool.and_eq_true_iff.mp bound
    rcases List.mem_cons.mp member with rfl | later
    · exact continuesVariable_of_continuesName (continuesName_of_beginsName begins)
    · exact List.all_eq_true.mp continues c later

theorem trim_of_isVariable : name.trim = name := by
  have notBlank {c : Char} (member : c ∈ name) :=
    isBlank_of_continuesVariable (continuesVariable_of_mem bound member)
  rw [Text.trim_eq_self_iff]
  exact ⟨fun c isFirst => notBlank (List.mem_of_head? isFirst),
    fun c isLast => notBlank (List.mem_of_getLast? isLast)⟩

end Variables

namespace IsName

variable {name : Text}

theorem notBlank (valid : IsName name) : ∃ c ∈ name.head?, Text.isBlank c = false := by
  obtain ⟨c, isFirst, begins⟩ := valid.first
  exact ⟨c, isFirst, isBlank_of_continuesName (valid.all c (List.mem_of_head? isFirst))⟩

theorem isVariable (valid : IsName name) : isVariable name = true := by
  obtain ⟨c, isFirst, begins⟩ := valid.first
  obtain ⟨rest, rfl⟩ := List.head?_eq_some_iff.mp isFirst
  rw [TextTemplate.isVariable, Bool.and_eq_true, List.all_eq_true]
  exact ⟨begins, fun d member =>
    continuesVariable_of_continuesName (valid.all d (List.mem_cons_of_mem c member))⟩

theorem isNeutral (valid : IsName name) : name.all isNeutral = true :=
  List.all_eq_true.mpr fun c member => isNeutral_of_continuesName c (valid.all c member)

end IsName

theorem IsExpression.ne_nil {text : Text} (valid : IsExpression text) : text ≠ [] := by
  rintro rfl
  obtain ⟨expr, parses⟩ := valid.parses
  have fails : (parseExpr []).toOption.isNone = true := by decide +kernel
  rw [parses] at fails
  cases fails

theorem IsExpression.guard {text : Text} (valid : IsExpression text) :
    Guard.ofArgument text = .holds text := by
  rw [Guard.ofArgument, if_neg]
  rw [List.isEmpty_iff]
  exact valid.ne_nil

/-! ### Keywords -/

/-- The tag that is written as `statementTag inner`. -/
def statementAt (here : Position) (inner : Text) : Tag :=
  ⟨.statement, here, here.after (statementTag inner), ' ' :: inner ++ [' ']⟩

/-- The tag that is written as `expressionTag inner`. -/
def expressionAt (here : Position) (inner : Text) : Tag :=
  ⟨.expression, here, here.after (expressionTag inner), ' ' :: inner ++ [' ']⟩

theorem trim_between_blanks {inner : Text} (tight : inner.trim = inner) :
    Text.trim (' ' :: inner ++ [' ']) = inner := by
  have blank : Text.isBlank ' ' = true := by decide
  rw [Text.trim_append_blank blank, Text.trim_cons_blank blank, tight]

/-- The keyword of a statement and what follows it. -/
theorem splitKeyword?_append {keyword rest : Text}
    (begins : ∃ c ∈ keyword.head?, beginsKeyword c = true)
    (continues : ∀ c ∈ keyword, continuesKeyword c = true)
    (ends : ∀ c ∈ rest.head?, continuesKeyword c = false)
    (tight : (keyword ++ rest).trim = keyword ++ rest) :
    splitKeyword? (keyword ++ rest) = some (String.ofList keyword, rest.trim) := by
  obtain ⟨c, isFirst, begins⟩ := begins
  obtain ⟨word, rfl⟩ := List.head?_eq_some_iff.mp isFirst
  have word' : ∀ d ∈ word, continuesKeyword d = true :=
    fun d member => continues d (List.mem_cons_of_mem c member)
  have noMore : rest.takeWhile continuesKeyword = [] := by
    cases rest with
    | nil => rfl
    | cons d rest => rw [List.takeWhile_cons_of_neg (by rw [ends d rfl]; decide)]
  have behind : rest.dropWhile continuesKeyword = rest := Text.dropWhile_eq_self_iff_head?.mpr ends
  rw [splitKeyword?, tight]
  simp only [List.cons_append, begins, if_true, List.takeWhile_append_of_pos word',
    List.dropWhile_append_of_pos word', noMore, behind, List.append_nil]

/-- The words that begin the statements of a tree are keywords. -/
theorem controlKeyword_word {keyword : String} (control : keyword ∈ controlKeywords) :
    (∃ c ∈ keyword.toList.head?, beginsKeyword c = true ∧ Text.isBlank c = false) ∧
      (∀ c ∈ keyword.toList, continuesKeyword c = true) ∧
        Text.trim keyword.toList = keyword.toList := by
  have all : ∀ keyword ∈ controlKeywords,
      (keyword.toList.head?.any fun c => beginsKeyword c && !Text.isBlank c) = true ∧
        keyword.toList.all continuesKeyword = true ∧
          Text.trim keyword.toList = keyword.toList := by decide +kernel
  obtain ⟨first, rest, tight⟩ := all keyword control
  rw [Option.any_eq_true] at first
  simp only [Bool.and_eq_true, Bool.not_eq_true'] at first
  exact ⟨first, List.all_eq_true.mp rest, tight⟩

section Directive

variable (here : Position) (keyword : String) (control : keyword ∈ controlKeywords)
include control

theorem directive?_word :
    (statementAt here keyword.toList).directive? = some (keyword, []) := by
  obtain ⟨⟨c, isFirst, begins, -⟩, continues, tight⟩ := controlKeyword_word control
  have split : splitKeyword? (keyword.toList ++ []) =
      some (String.ofList keyword.toList, Text.trim []) :=
    splitKeyword?_append ⟨c, isFirst, begins⟩ continues (by simp) (by rw [List.append_nil, tight])
  rw [List.append_nil, String.ofList_toList] at split
  show splitKeyword? (Text.trim (' ' :: keyword.toList ++ [' '])) = _
  rw [trim_between_blanks tight, split]
  rfl

theorem directive?_argument {argument : Text} (tight : argument.trim = argument)
    (filled : argument ≠ []) :
    (statementAt here (keyword.toList ++ ' ' :: argument)).directive? =
      some (keyword, argument) := by
  obtain ⟨⟨c, isFirst, begins, notBlank⟩, continues, -⟩ := controlKeyword_word control
  have whole : Text.trim (keyword.toList ++ ' ' :: argument) = keyword.toList ++ ' ' :: argument := by
    have start : ∃ d ∈ (keyword.toList ++ [' ']).head?, Text.isBlank d = false :=
      ⟨c, by rw [List.head?_append, Option.mem_def.mp isFirst]; rfl, notBlank⟩
    have joined := Text.trim_append start tight filled
    rwa [List.append_assoc] at joined
  have ends : ∀ d ∈ (' ' :: argument).head?, continuesKeyword d = false := by
    intro d isNext
    cases isNext
    decide
  have split := splitKeyword?_append ⟨c, isFirst, begins⟩ continues ends whole
  rw [Text.trim_cons_blank (by decide), tight, String.ofList_toList] at split
  show splitKeyword? (Text.trim (' ' :: (keyword.toList ++ ' ' :: argument) ++ [' '])) = _
  rw [trim_between_blanks whole, split]

end Directive

/-! ### What the tags of a tree say -/

theorem assignHead_eq (name expression : Text) :
    assignHead name expression = "set".toList ++ ' ' :: (name ++ " = ".toList ++ expression) := by
  simp [assignHead]

theorem loopHead_eq (name iterable : Text) :
    loopHead name iterable = "for".toList ++ ' ' :: (name ++ " in ".toList ++ iterable) := by
  simp [loopHead]

section Heads

variable {name expression : Text} (here : Position)

theorem IsName.trim_append (valid : IsName name) (between : Text) (valid' : IsExpression expression) :
    (name ++ between ++ expression).trim = name ++ between ++ expression := by
  obtain ⟨c, isFirst, notBlank⟩ := valid.notBlank
  have start : ∃ d ∈ (name ++ between).head?, Text.isBlank d = false :=
    ⟨c, by rw [List.head?_append, Option.mem_def.mp isFirst]; rfl, notBlank⟩
  exact Text.trim_append start valid'.trimmed valid'.ne_nil

theorem directive?_assignHead (valid : IsName name) (valid' : IsExpression expression) :
    (statementAt here (assignHead name expression)).directive? =
      some ("set", name ++ " = ".toList ++ expression) := by
  rw [assignHead_eq]
  exact directive?_argument here "set" (by decide) (valid.trim_append _ valid') (by simp)

theorem directive?_loopHead (valid : IsName name) (valid' : IsExpression expression) :
    (statementAt here (loopHead name expression)).directive? =
      some ("for", name ++ " in ".toList ++ expression) := by
  rw [loopHead_eq]
  exact directive?_argument here "for" (by decide) (valid.trim_append _ valid') (by simp)

theorem directive?_if (valid : IsExpression expression) :
    (statementAt here ("if ".toList ++ expression)).directive? = some ("if", expression) := by
  have head : "if ".toList ++ expression = "if".toList ++ ' ' :: expression := by simp
  rw [head]
  exact directive?_argument here "if" (by decide) valid.trimmed valid.ne_nil

theorem directive?_elif (valid : IsExpression expression) :
    (statementAt here ("elif ".toList ++ expression)).directive? = some ("elif", expression) := by
  have head : "elif ".toList ++ expression = "elif".toList ++ ' ' :: expression := by simp
  rw [head]
  exact directive?_argument here "elif" (by decide) valid.trimmed valid.ne_nil

/-- A search for an equals sign passes over a text that holds none, no quotes and no brackets. -/
theorem findFrom_assignmentSeparator {part : Text}
    (plain : ∀ c ∈ part, isNeutral c = true ∧ c ≠ '=') (before rest : Text) :
    Text.findFrom Text.assignmentSeparator ⟨0, none⟩ before (part ++ rest) =
      Text.findFrom Text.assignmentSeparator ⟨0, none⟩ (part.reverse ++ before) rest := by
  induction part generalizing before with
  | nil => rfl
  | cons c part ih =>
    obtain ⟨neutral, notEquals⟩ := plain c List.mem_cons_self
    simp only [isNeutral, Bool.not_eq_true', Bool.or_eq_false_iff] at neutral
    obtain ⟨⟨⟨noQuote, noOpen⟩, noClose⟩, -⟩ := neutral
    have noSeparator : Text.assignmentSeparator before.head? (c :: (part ++ rest)) = none := by
      unfold Text.assignmentSeparator
      split
      · rename_i same
        exact absurd (List.cons.inj same).1 notEquals
      · rfl
    rw [List.cons_append, Text.findFrom_top (by simp [noQuote, noOpen, noClose]) noSeparator,
      ih (fun d member => plain d (List.mem_cons_of_mem c member))]
    simp

/-- An equals sign between blanks is the first one behind a name. -/
theorem findTopLevel_assignment {gap : Text} (blank : gap.all Text.isBlank = true)
    (bound : isVariable name = true) :
    Text.findTopLevel Text.assignmentSeparator (gap ++ (name ++ " = ".toList ++ expression)) =
      some (gap ++ (name ++ [' ']), ' ' :: expression) := by
  have plain : ∀ c ∈ gap ++ (name ++ [' ']), isNeutral c = true ∧ c ≠ '=' := by
    intro c member
    rcases List.mem_append.mp member with before | behind
    · have blank := List.all_eq_true.mp blank c before
      refine ⟨isNeutral_of_isBlank c blank, ?_⟩
      rintro rfl
      exact absurd blank (by decide)
    · rcases List.mem_append.mp behind with inside | behind
      · exact isNeutral_of_continuesVariable (continuesVariable_of_mem bound inside)
      · cases List.mem_singleton.mp behind
        decide
  have regroup : gap ++ (name ++ " = ".toList ++ expression) =
      (gap ++ (name ++ [' '])) ++ '=' :: ' ' :: expression := by
    simp
  have found : Text.assignmentSeparator ((gap ++ (name ++ [' '])).reverse ++ []).head?
      ('=' :: ' ' :: expression) = some (' ' :: expression) := by
    rw [← List.append_assoc, List.reverse_append]
    rfl
  rw [Text.findTopLevel, regroup, findFrom_assignmentSeparator plain,
    Text.findFrom_found (by decide) found, List.append_nil, List.reverse_reverse]

/-- **A part of a statement is read as the assignment that it is written from.** -/
theorem ofText?_assignment {gap : Text} (blank : gap.all Text.isBlank = true)
    (bound : isVariable name = true) (filled : expression.trim ≠ []) :
    Assignment.ofText? (gap ++ (name ++ " = ".toList ++ expression)) =
      some ⟨String.ofList name, expression.trim⟩ := by
  have named : Text.trim (gap ++ (name ++ [' '])) = name := by
    rw [← List.append_assoc, Text.trim_append_blank (by decide), Text.trim_blanks_append blank,
      trim_of_isVariable bound]
  have valued : Text.trim (' ' :: expression) = expression.trim :=
    Text.trim_cons_blank (by decide) expression
  have filled : expression.trim.isEmpty = false := List.isEmpty_eq_false_iff.mpr filled
  rw [Assignment.ofText?, findTopLevel_assignment blank bound]
  simp only [named, valued, bound, filled, Bool.not_false, Bool.and_self, if_true]

/-- **The tag of an assignment holds that assignment** and no other. -/
theorem assignments_assignHead (valid : IsName name) (valid' : IsExpression expression) :
    (statementAt here (assignHead name expression)).assignments =
      [⟨String.ofList name, expression⟩] := by
  obtain ⟨expr, parses⟩ := valid'.parses
  have passes : Passes 0 (name ++ " = ".toList ++ expression) := by
    refine Passes.append (Passes.append (Passes.of_all_neutral valid.isNeutral) ?_)
      (passes_of_parseExpr parses)
    exact Passes.of_all_neutral (by decide)
  have blank : ([] : Text).all Text.isBlank = true := rfl
  have read := ofText?_assignment blank valid.isVariable
    (by rw [valid'.trimmed]; exact valid'.ne_nil)
  rw [List.nil_append, valid'.trimmed] at read
  rw [Tag.assignments, directive?_assignHead here valid valid']
  show assignments _ = _
  rw [assignments, splitTopLevel_of_passes passes, List.filterMap_cons_some read]
  rfl

theorem passBlank?_blank {text : Text} (first : ∀ c ∈ text.head?, Text.isBlank c = false) :
    passBlank? (' ' :: text) = some text := by
  have blank : Text.isBlank ' ' = true := by decide
  have rest : Text.trimStart text = text := Text.dropWhile_eq_self_iff_head?.mpr first
  rw [passBlank?, if_pos blank, rest]

/-- The head of a loop behind its keyword. -/
theorem ofArgument?_loopHead (valid : IsName name) (valid' : IsExpression expression) :
    LoopHead.ofArgument? (name ++ " in ".toList ++ expression) =
      some ⟨String.ofList name, expression⟩ := by
  obtain ⟨c, isFirst, begins⟩ := valid.first
  obtain ⟨rest, rfl⟩ := List.head?_eq_some_iff.mp isFirst
  have continues : ∀ d ∈ rest, continuesVariable d = true := fun d member =>
    continuesVariable_of_continuesName (valid.all d (List.mem_cons_of_mem c member))
  have blank : continuesVariable ' ' = false := by decide +kernel
  have front : (rest ++ " in ".toList ++ expression).takeWhile continuesVariable = rest := by
    rw [List.append_assoc, List.takeWhile_append_of_pos continues]
    simp [blank]
  have behind : (rest ++ " in ".toList ++ expression).dropWhile continuesVariable =
      ' ' :: 'i' :: 'n' :: ' ' :: expression := by
    rw [List.append_assoc, List.dropWhile_append_of_pos continues]
    simp [blank]
  have word : passBlank? (' ' :: 'i' :: 'n' :: ' ' :: expression) =
      some ('i' :: 'n' :: ' ' :: expression) := by
    refine passBlank?_blank fun d isNext => ?_
    cases isNext
    decide
  have prefix' : Text.dropPrefix? ['i', 'n'] ('i' :: 'n' :: ' ' :: expression) =
      some (' ' :: expression) := by
    simp [Text.dropPrefix?]
  have argument : passBlank? (' ' :: expression) = some expression :=
    passBlank?_blank (Text.trim_eq_self_iff.mp valid'.trimmed).1
  have filled : (!expression.isEmpty) = true := by simp [valid'.ne_nil]
  refine Option.bind_eq_some_iff.mpr ⟨(), if_pos begins, ?_⟩
  refine Option.bind_eq_some_iff.mpr ⟨_, (congrArg passBlank? behind).trans word, ?_⟩
  refine Option.bind_eq_some_iff.mpr ⟨_, prefix', ?_⟩
  refine Option.bind_eq_some_iff.mpr ⟨_, argument, ?_⟩
  refine Option.bind_eq_some_iff.mpr ⟨(), if_pos filled, ?_⟩
  show some (LoopHead.mk (String.ofList (c :: (rest ++ " in ".toList ++ expression).takeWhile
    continuesVariable)) (Text.trim expression)) = _
  rw [front, valid'.trimmed]

/-- **The tag of a loop opens that loop.** -/
theorem loopRole_loopHead (valid : IsName name) (valid' : IsExpression expression) :
    loopRole (statementAt here (loopHead name expression)) =
      .opens ⟨String.ofList name, expression⟩ := by
  rw [loopRole, directive?_loopHead here valid valid']
  simp only [ofArgument?_loopHead valid valid']

end Heads

end TextTemplate
