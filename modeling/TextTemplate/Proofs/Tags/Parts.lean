/-
**What is read from a tag stands in it.**

The expressions of a tag are found by taking its body apart: blanks are taken off, a keyword is passed,
and the rest is cut at separators. Whatever comes of that is a contiguous part of the body.

* `Text.infix_of_mem_splitTopLevel`: the parts of a text between separators;
* `Tag.expression_within`, `iterable_within`: the expressions of assignments and loops;
* `Condition.part_within`: the parts of a condition.
-/

import Mathlib.Data.List.Infix
import Mathlib.Data.List.TakeWhile
import TextTemplate.Rendering.Render

namespace TextTemplate

/-! ### Parts of a text -/

namespace Text

/-- A text without its last characters is a front part of it. -/
theorem exists_dropRightWhile (p : Char → Bool) (text : Text) :
    ∃ back, text = text.dropRightWhile p ++ back ∧ ∀ c ∈ back, p c = true := by
  refine ⟨(text.reverse.takeWhile p).reverse, ?_, fun c member => ?_⟩
  · rw [dropRightWhile, ← List.reverse_append, List.takeWhile_append_dropWhile, List.reverse_reverse]
  · exact List.mem_takeWhile_imp (List.mem_reverse.mp member)

/-- A stripped text is a middle part of the text. -/
theorem exists_stripWhile (p : Char → Bool) (text : Text) :
    ∃ front back, text = front ++ (text.stripWhile p ++ back) ∧
      (∀ c ∈ front, p c = true) ∧ ∀ c ∈ back, p c = true := by
  obtain ⟨back, joined, ends⟩ := exists_dropRightWhile p (text.dropWhile p)
  refine ⟨text.takeWhile p, back, ?_, fun c member => List.mem_takeWhile_imp member, ends⟩
  rw [stripWhile, ← joined, List.takeWhile_append_dropWhile]

theorem trimStart_suffix (text : Text) : text.trimStart <:+ text :=
  List.dropWhile_suffix _

theorem trim_within (text : Text) : text.trim <:+: text := by
  have front : text.dropWhile isBlank <:+ text := List.dropWhile_suffix _
  have back : text.trim <+: text.dropWhile isBlank := by
    rw [trim, stripWhile, dropRightWhile, ← List.reverse_suffix, List.reverse_reverse]
    exact List.dropWhile_suffix _
  exact back.isInfix.trans front.isInfix

theorem dropPrefix?_suffix {front text rest : Text} (found : dropPrefix? front text = some rest) :
    rest <:+ text :=
  ⟨front, List.append_eq_of_isPrefixOf?_eq_some found⟩

/-- A separator whose rest is always an end of the text that it is found in. -/
def Separator.Passes (separator : Separator) : Prop :=
  ∀ before text rest, separator before text = some rest → rest <:+ text

theorem charSeparator_passes (c : Char) : (charSeparator c).Passes := by
  intro before text rest found
  cases text with
  | nil => cases found
  | cons d text =>
    rw [charSeparator] at found
    split at found
    · cases found
      exact List.suffix_cons _ _
    · cases found

theorem wordSeparator_passes (word : Text) : (wordSeparator word).Passes := by
  intro before text rest found
  cases text with
  | nil => cases found
  | cons c text =>
    simp only [wordSeparator] at found
    split at found
    · split at found
      · rename_i d behind dropped
        split at found
        · cases found
          have passed := (dropPrefix?_suffix dropped).trans (trimStart_suffix _)
          exact ((trimStart_suffix behind).trans (List.suffix_cons d behind)).trans passed
        · cases found
      · cases found
      · cases found
    · cases found

theorem assignmentSeparator_passes : assignmentSeparator.Passes := by
  intro before text rest found
  unfold assignmentSeparator at found
  split at found
  · obtain ⟨-, same⟩ := Option.ite_none_left_eq_some.mp found
    cases same
    exact List.suffix_cons _ _
  · cases found

section Separated

variable {separator : Separator} (passes : separator.Passes)
include passes

/-- The parts before and behind a separator are the two ends of the text. -/
theorem findFrom_parts {nesting : Nesting} {before text part rest : Text}
    (found : findFrom separator nesting before text = some (part, rest)) :
    ∃ between, before.reverse ++ text = part ++ (between ++ rest) := by
  fun_induction findFrom separator nesting before text with
  | case1 => cases found
  | case2 => cases found
  | case3 nesting before quote opened d text ih => simpa using ih found
  | case4 nesting before text quote opened plain ih => simpa using ih found
  | case5 nesting before c text quote opened plain other ih => simpa using ih found
  | case6 nesting before c text unquoted passed ih => simpa using ih found
  | case7 nesting before c text unquoted top rest' separates =>
    cases found
    obtain ⟨between, joined⟩ := passes _ _ _ separates
    exact ⟨between, by rw [joined]⟩
  | case8 nesting before c text unquoted top none ih => simpa using ih found

theorem findTopLevel_within {text part rest : Text}
    (found : findTopLevel separator text = some (part, rest)) : part <:+: text ∧ rest <:+: text := by
  obtain ⟨between, joined⟩ := findFrom_parts passes found
  have whole : text = part ++ (between ++ rest) := joined
  rw [whole]
  exact ⟨List.prefix_append _ _ |>.isInfix,
    ((List.suffix_append between rest).trans (List.suffix_append part _)).isInfix⟩

/-- **The parts of a text between separators** are contiguous parts of it. -/
theorem infix_of_mem_splitTopLevel {text part : Text} (member : part ∈ splitTopLevel separator text) :
    part <:+: text := by
  rw [splitTopLevel] at member
  generalize text.length = steps at member
  induction steps generalizing text with
  | zero =>
    rw [splitLoop, List.mem_singleton] at member
    exact member ▸ List.infix_rfl
  | succ steps ih =>
    rw [splitLoop] at member
    split at member
    · rename_i first rest found
      obtain ⟨first', rest'⟩ := findTopLevel_within passes found
      rcases List.mem_cons.mp member with rfl | later
      · exact first'
      · exact (ih later).trans rest'
    · rw [List.mem_singleton] at member
      exact member ▸ List.infix_rfl

end Separated

end Text

/-! ### What a tag holds -/

/-- The argument of a keyword. -/
theorem splitKeyword?_within {inside argument : Text} {keyword : String}
    (split : splitKeyword? inside = some (keyword, argument)) : argument <:+: inside := by
  unfold splitKeyword? at split
  split at split
  · cases split
  · rename_i c rest trimmed
    split at split
    · cases split
      have passed : rest.dropWhile continuesKeyword <:+: c :: rest :=
        ((List.dropWhile_suffix _).trans (List.suffix_cons c rest)).isInfix
      rw [← trimmed] at passed
      exact ((Text.trim_within _).trans passed).trans (Text.trim_within inside)
    · cases split

section Tags

variable {tag : Tag}

theorem Tag.inner_within (tag : Tag) : tag.inner <:+: tag.body :=
  Text.trim_within _

theorem Tag.directive?_within {keyword : String} {argument : Text}
    (directive : tag.directive? = some (keyword, argument)) : argument <:+: tag.body := by
  unfold Tag.directive? at directive
  split at directive
  · exact (splitKeyword?_within directive).trans tag.inner_within
  · cases directive

theorem Assignment.expression_within {text : Text} {assignment : Assignment}
    (read : Assignment.ofText? text = some assignment) : assignment.expression <:+: text := by
  unfold Assignment.ofText? at read
  split at read
  · rename_i name expression found
    split at read
    · cases read
      exact (Text.trim_within _).trans
        (Text.findTopLevel_within Text.assignmentSeparator_passes found).2
    · cases read
  · cases read

/-- **The expressions of assignments** stand in the tag. -/
theorem Tag.expression_within {assignment : Assignment} (member : assignment ∈ tag.assignments) :
    assignment.expression <:+: tag.body := by
  unfold Tag.assignments at member
  split at member
  · rename_i argument directive
    obtain ⟨part, among, read⟩ := List.mem_filterMap.mp member
    exact ((Assignment.expression_within read).trans
      (Text.infix_of_mem_splitTopLevel (Text.charSeparator_passes ',') among)).trans
        (Tag.directive?_within directive)
  · exact absurd member List.not_mem_nil

theorem passBlank?_suffix {text rest : Text} (passed : passBlank? text = some rest) :
    rest <:+ text := by
  cases text with
  | nil => cases passed
  | cons c text =>
    obtain ⟨-, same⟩ := Option.ite_none_right_eq_some.mp passed
    cases same
    exact (Text.trimStart_suffix text).trans (List.suffix_cons c text)

theorem LoopHead.iterable_within {argument : Text} {head : LoopHead}
    (read : LoopHead.ofArgument? argument = some head) : head.iterable <:+: argument := by
  cases argument with
  | nil => cases read
  | cons c text =>
    unfold LoopHead.ofArgument? at read
    obtain ⟨-, -, read⟩ := Option.bind_eq_some_iff.mp read
    obtain ⟨rest, passed, read⟩ := Option.bind_eq_some_iff.mp read
    obtain ⟨rest', dropped, read⟩ := Option.bind_eq_some_iff.mp read
    obtain ⟨rest'', passed', read⟩ := Option.bind_eq_some_iff.mp read
    obtain ⟨-, -, made⟩ := Option.bind_eq_some_iff.mp read
    cases made
    have whole : rest'' <:+ c :: text :=
      (passBlank?_suffix passed').trans ((Text.dropPrefix?_suffix dropped).trans
        ((passBlank?_suffix passed).trans
          ((List.dropWhile_suffix _).trans (List.suffix_cons c text))))
    exact (Text.trim_within _).trans whole.isInfix

/-- **The iterable of a loop** stands in the tag that opens the loop. -/
theorem iterable_within {head : LoopHead} (opens : loopRole tag = .opens head) :
    head.iterable <:+: tag.body := by
  unfold loopRole at opens
  split at opens
  · rename_i argument directive
    split at opens
    · rename_i head' read
      cases opens
      exact (LoopHead.iterable_within read).trans (Tag.directive?_within directive)
    · cases opens
  · cases opens
  · cases opens

end Tags

/-! ### Conditions -/

/-- The expressions that a condition may ask for. -/
def Condition.parts : Condition → List Text
  | .negation part => [part]
  | .conjunction parts => parts
  | .disjunction parts => parts
  | .single expression => [expression]

theorem negated?_suffix {text rest : Text} (negated : negated? text = some rest) : rest <:+ text := by
  unfold negated? at negated
  split at negated
  · rename_i c behind dropped
    obtain ⟨-, same⟩ := Option.ite_none_right_eq_some.mp negated
    cases same
    exact Text.dropPrefix?_suffix dropped
  · cases negated
  · cases negated

/-- **The parts of a condition** are contiguous parts of its text. -/
theorem Condition.part_within {text part : Text} (member : part ∈ (Condition.ofText text).parts) :
    part <:+: text := by
  have split : ∀ word, ∀ trimmed ∈ (text.trim.splitTopLevel (Text.wordSeparator word)).map Text.trim,
      trimmed <:+: text := by
    intro word trimmed among
    obtain ⟨piece, found, rfl⟩ := List.mem_map.mp among
    exact ((Text.trim_within _).trans
      (Text.infix_of_mem_splitTopLevel (Text.wordSeparator_passes word) found)).trans
        (Text.trim_within text)
  unfold Condition.ofText at member
  dsimp only at member
  split at member
  · rename_i rest negated
    rw [List.mem_singleton.mp member]
    exact ((Text.trim_within rest).trans (negated?_suffix negated).isInfix).trans (Text.trim_within text)
  · split at member
    · rename_i first second more parts
      exact split _ part (parts ▸ member)
    · split at member
      · rename_i first second more parts
        exact split _ part (parts ▸ member)
      · rw [List.mem_singleton.mp member]
        exact Text.trim_within text

end TextTemplate
