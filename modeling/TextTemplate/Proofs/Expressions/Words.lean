/-
**Words between operands.**

A search for `and` or `or` between blanks, outside of quotes and brackets, passes over the operands of
these words: a word of an operand is a name, a keyword or the name of a test, and no other one.

* `Expr.names`: the names of the variables and filters of an expression;
* `Clear`: the word does not stand behind blanks and in front of a blank;
* `Crosses`: a search for the word passes over what the parser reads, up to blanks at its end;
* `Derives.crosses`: **a search for a word passes over every operand** that has no variable and no
  filter of that name.
-/

import TextTemplate.Proofs.Expressions.Brackets

namespace TextTemplate

/-! ### The names of an expression -/

mutual

/-- The names of the variables and filters of an expression. -/
def Expr.names : Expr → List String
  | .literal _ => []
  | .array items => namesOfAll items
  | .name name => [name]
  | .field target _ => target.names
  | .index target index => target.names ++ index.names
  | .call callee args => callee.names ++ namesOfAll args
  | .filter target name args => name :: (target.names ++ namesOfAll args)
  | .not operand => operand.names
  | .and left right => left.names ++ right.names
  | .or left right => left.names ++ right.names
  | .compare _ left right => left.names ++ right.names
  | .member item container _ => item.names ++ container.names
  | .test target _ args _ => target.names ++ namesOfAll args
  | .arith _ left right => left.names ++ right.names
  | .neg operand => operand.names
  | .conditional value condition otherwise =>
    value.names ++ condition.names ++
      match otherwise with
      | some other => other.names
      | none => []

/-- The names of several expressions. -/
def namesOfAll : List Expr → List String
  | [] => []
  | expr :: exprs => expr.names ++ namesOfAll exprs

end

/-- The names of the value of a phrase. -/
def Phrase.names : Phrase → List String
  | .level _ expr | .more _ _ expr | .test _ expr | .operand expr => expr.names
  | .args exprs | .list _ exprs => namesOfAll exprs

/-- The names of the expression that a phrase goes on with. -/
def Phrase.kept : Phrase → List String
  | .more _ left _ => left.names
  | .test target _ => target.names
  | _ => []

theorem mem_of_firstSign? {α : Type} {signs : List (Text × α)} {here next : Cursor} {meaning : α}
    (found : firstSign? signs here = some (meaning, next)) :
    ∃ sign ∈ signs, sign.2 = meaning ∧ here.take? sign.1 = some next := by
  obtain ⟨sign, member, taken⟩ := List.exists_of_findSome?_eq_some found
  obtain ⟨next', taken, same⟩ := Option.map_eq_some_iff.mp taken
  cases same
  exact ⟨sign, member, rfl, taken⟩

/-- An operator has the names of its operands. -/
theorem names_of_operator? {level : Level} {here next : Cursor} {make : Expr → Expr → Expr}
    (found : operator? level here = some (make, next)) (left right : Expr) :
    (make left right).names = left.names ++ right.names := by
  unfold operator? at found
  split at found
  · obtain ⟨next', taken, same⟩ := Option.map_eq_some_iff.mp found
    cases same
    rfl
  · obtain ⟨next', taken, same⟩ := Option.map_eq_some_iff.mp found
    cases same
    rfl
  all_goals first
    | cases found
    | obtain ⟨sign, member, rfl, -⟩ := mem_of_firstSign? found
      simp only [List.mem_cons, List.not_mem_nil, or_false] at member
      rcases member with rfl | rfl | rfl | rfl | rfl | rfl <;> rfl

/-- What a phrase goes on with is a part of its value. -/
theorem Derives.kept_subset {phrase : Phrase} {here next : Cursor}
    (derives : Derives phrase here next) : phrase.kept ⊆ phrase.names := by
  induction derives with
  | field point named more ih =>
    intro name member
    exact ih member
  | index noPoint bracket inside closed more ih ih' =>
    intro name member
    exact ih' (List.mem_append_left _ member)
  | call noPoint noBracket bracket inside more ih ih' =>
    intro name member
    exact ih' (List.mem_append_left _ member)
  | filter noPoint noBracket noList pipe named listed more ih ih' =>
    intro name member
    exact ih' (List.mem_cons_of_mem _ (List.mem_append_left _ member))
  | operator loose sign second more ih ih' =>
    intro name member
    refine ih' ?_
    show name ∈ Expr.names _
    rw [names_of_operator? sign]
    exact List.mem_append_left _ member
  | tested noSign word test more ih ih' =>
    intro name member
    exact ih' (ih member)
  | member noSign noTest words second more ih ih' =>
    intro name member
    exact ih' (List.mem_append_left _ member)
  | stop loose stops => exact fun _ member => member
  | named negation known listed ih => exact fun _ member => List.mem_append_left _ member
  | compared negation unknown second ih => exact fun _ member => List.mem_append_left _ member
  | _ => exact List.nil_subset _

/-! ### Searching for a word -/

/-- **The word does not come next**: behind blanks, it does not stand in front of a blank. -/
def Clear (word text : Text) : Prop :=
  ∀ c rest, Text.dropPrefix? word text.trimStart = some (c :: rest) → Text.isBlank c = false

section Search

variable {word text gap part : Text}

theorem trimStart_of_all_isBlank (blank : gap.all Text.isBlank = true) : gap.trimStart = [] :=
  List.dropWhile_eq_nil_iff.mpr (List.all_eq_true.mp blank)

theorem clear_blanks (blank : gap.all Text.isBlank = true) :
    Clear word (gap ++ text) ↔ Clear word text := by
  rw [Clear, Text.trimStart_append_of_nil (trimStart_of_all_isBlank blank), Clear]

theorem wordSeparator_of_not_isBlank {c : Char} (visible : Text.isBlank c = false)
    (before : Option Char) (text : Text) : Text.wordSeparator word before (c :: text) = none := by
  simp [Text.wordSeparator, visible]

/-- Where the word does not come next, it is no separator. -/
theorem wordSeparator_of_clear (clear : Clear word text) (before : Option Char) :
    Text.wordSeparator word before text = none := by
  cases text with
  | nil => rfl
  | cons c text =>
    rw [Text.wordSeparator]
    split
    · split
      · rename_i d rest dropped
        rw [clear d rest dropped]
        rfl
      · rfl
      · rfl
    · rfl

theorem isNeutral_top {c : Char} (neutral : isNeutral c = true) :
    (Text.opensQuote c || Text.opensBracket c || Text.closesBracket c) = false := by
  simp only [isNeutral, Bool.not_eq_true'] at neutral
  exact (Bool.or_eq_false_iff.mp neutral).1

/-- Blanks are passed where the word does not come next. -/
theorem findFrom_blanks (blank : gap.all Text.isBlank = true) (clear : Clear word text)
    (before : Text) :
    Text.findFrom (Text.wordSeparator word) ⟨0, none⟩ before (gap ++ text) =
      Text.findFrom (Text.wordSeparator word) ⟨0, none⟩ (gap.reverse ++ before) text := by
  induction gap generalizing before with
  | nil => rfl
  | cons c gap ih =>
    have none' := wordSeparator_of_clear ((clear_blanks blank).mpr clear) before.head?
    obtain ⟨first, rest⟩ := Bool.and_eq_true_iff.mp blank
    have top := isNeutral_top (isNeutral_of_isBlank c first)
    rw [List.cons_append] at none' ⊢
    rw [Text.findFrom_top (by simp [top]) none', ih rest]
    simp

/-- Visible characters are passed. -/
theorem skips_of_visible (visible : part.all (fun c => isNeutral c && !Text.isBlank c) = true) :
    Text.Skips (Text.wordSeparator word) 0 part := by
  refine Text.Skips.of_all (fun c plain => ?_) visible
  obtain ⟨neutral, visible⟩ := Bool.and_eq_true_iff.mp plain
  refine Text.Skips.character (isNeutral_top neutral) fun _ before rest => ?_
  exact wordSeparator_of_not_isBlank (by simpa using visible) before rest

/-- The word does not come next where another one stands, or none. -/
theorem clear_of_takeWhile (continues : word.all continuesName = true)
    (visible : text.trimStart = text) (other : text.takeWhile continuesName ≠ word) :
    Clear word text := by
  intro c rest dropped
  by_contra blank
  rw [visible] at dropped
  have begins := Text.dropPrefix?_eq_some_iff.mp dropped
  refine other ?_
  rw [begins]
  refine takeWhile_append_of_endsName (List.all_eq_true.mp continues) fun d first => ?_
  cases first
  exact continuesName_of_isBlank (eq_true_of_ne_false blank)

end Search

/-! ### What a search for a word passes over -/

/-- **A search for a word passes over a part** of a text, up to blanks at its end; and if it is not
blank, the word does not come next at its beginning. -/
def Crosses (word : Text) (here next : Cursor) : Prop :=
  ∃ core gap, here.rest = core ++ (gap ++ next.rest) ∧ gap.all Text.isBlank = true ∧
    (core ≠ [] → Clear word here.rest) ∧
    ∀ before, Text.findFrom (Text.wordSeparator word) ⟨0, none⟩ before here.rest =
      Text.findFrom (Text.wordSeparator word) ⟨0, none⟩ (core.reverse ++ before) (gap ++ next.rest)

namespace Crosses

variable {word : Text} {here between next : Cursor}

theorem skipBlank (here : Cursor) : Crosses word here here.skipBlank := by
  have blank := List.all_eq_true.mpr fun c (member : c ∈ here.rest.takeWhile Text.isBlank) =>
    List.mem_takeWhile_imp member
  refine ⟨[], here.rest.takeWhile Text.isBlank, List.takeWhile_append_dropWhile.symm, blank,
    fun filled => ?_, fun before => ?_⟩
  · contradiction
  · exact congrArg _ List.takeWhile_append_dropWhile.symm

theorem trans (first : Crosses word here between) (second : Crosses word between next) :
    Crosses word here next := by
  obtain ⟨core, gap, rest, blank, clear, passed⟩ := first
  obtain ⟨core', gap', rest', blank', clear', passed'⟩ := second
  by_cases empty : core' = []
  · subst empty
    refine ⟨core, gap ++ gap', ?_, ?_, clear, fun before => ?_⟩
    · rw [rest, rest', List.append_assoc, List.nil_append]
    · rw [List.all_append, blank, blank', Bool.and_self]
    · rw [passed, rest', List.append_assoc, List.nil_append]
  · have clear' := clear' empty
    refine ⟨core ++ gap ++ core', gap', ?_, blank', fun _ => ?_, fun before => ?_⟩
    · rw [rest, rest']
      simp
    · by_cases empty' : core = []
      · rw [rest, empty', List.nil_append]
        exact (clear_blanks blank).mpr clear'
      · exact clear empty'
    · rw [passed, findFrom_blanks blank clear', passed']
      simp

/-- A part that is no blank, and where the word does not come next. -/
theorem of_skips {passed : Text} (rest : here.rest = passed ++ next.rest)
    (skips : Text.Skips (Text.wordSeparator word) 0 passed) (clear : Clear word here.rest) :
    Crosses word here next :=
  ⟨passed, [], rest, rfl, fun _ => clear, fun before => by
    rw [rest]
    exact skips 0 before next.rest (Nat.le_refl 0)⟩

end Crosses

/-! ### The tokens of operands -/

/-- The words of the grammar that stand in an operand. -/
def operandWords : List Text :=
  ['n', 'o', 't'] :: ['i', 's'] :: ['i', 'n'] :: testNames.map String.toList

/-- **The words that a condition is divided at.** -/
def IsConnective (word : Text) : Prop :=
  word = ['a', 'n', 'd'] ∨ word = ['o', 'r']

namespace IsConnective

variable {word : Text}

theorem continues (connective : IsConnective word) : word.all continuesName = true := by
  rcases connective with rfl | rfl <;> rfl

theorem ne_nil (connective : IsConnective word) : word ≠ [] := by
  rcases connective with rfl | rfl <;> exact List.cons_ne_nil _ _

theorem not_isDigit (connective : IsConnective word) {c : Char} {rest : Text}
    (digit : c.isDigit = true) : c :: rest ≠ word := by
  rintro rfl
  rcases connective with same | same
  all_goals
    rw [(List.cons.inj same).1] at digit
    cases digit

/-- The words stand for no literals. -/
theorem nameExpr_eq (connective : IsConnective word) :
    nameExpr (String.ofList word) = .name (String.ofList word) := by
  rcases connective with rfl | rfl <;> rfl

/-- The other words of the grammar. -/
theorem ne_of_mem (connective : IsConnective word) {word' : Text}
    (member : word' ∈ operandWords) : word' ≠ word := by
  rcases connective with rfl | rfl
  · have others : ∀ word' ∈ operandWords, word' ≠ ['a', 'n', 'd'] := by decide
    exact others word' member
  · have others : ∀ word' ∈ operandWords, word' ≠ ['o', 'r'] := by decide
    exact others word' member

end IsConnective

/-- A character of a sign: visible, and no part of a name. -/
def isSign (c : Char) : Bool :=
  isNeutral c && !Text.isBlank c && !continuesName c

theorem visible_of_continuesName (c : Char) (continues : continuesName c = true) :
    (isNeutral c && !Text.isBlank c) = true := by
  rw [isNeutral_of_continuesName c continues, isBlank_of_continuesName continues]
  rfl

theorem keyword?_eq_some_iff {here next : Cursor} {word : Text} : here.keyword? word = some next ↔
    here.take? word = some next ∧ next.sees continuesName = false := by
  rw [Cursor.keyword?]
  cases here.take? word with
  | none => simp
  | some next' =>
    by_cases sees : next'.sees continuesName = true
    · simp only [sees, if_true, reduceCtorEq, Option.some.injEq, false_iff, not_and]
      rintro rfl
      simp [sees]
    · simp only [sees, Bool.false_eq_true, if_false, Option.some.injEq]
      constructor
      · rintro rfl
        exact ⟨rfl, eq_false_of_ne_true sees⟩
      · exact fun both => both.1

theorem take?_of_symbol? {here next : Cursor} {sign : Text} {longer : Char}
    (found : here.symbol? sign longer = some next) : here.take? sign = some next := by
  rw [Cursor.symbol?] at found
  split at found
  · rename_i taken
    split at found
    · cases found
    · cases found
      exact taken
  · cases found

theorem exists_of_sees {here : Cursor} {p : Char → Bool} (sees : here.sees p = true) :
    ∃ c rest, here.rest = c :: rest ∧ p c = true := by
  rw [Cursor.sees] at sees
  cases rest_eq : here.rest with
  | nil =>
    rw [rest_eq] at sees
    cases sees
  | cons c rest =>
    rw [rest_eq] at sees
    exact ⟨c, rest, rfl, sees⟩

/-- A word that is passed is all that stands there of a name. -/
theorem takeWhile_of_keyword? {here next : Cursor} {word : Text}
    (continues : word.all continuesName = true) (taken : here.keyword? word = some next) :
    here.rest.takeWhile continuesName = word := by
  obtain ⟨taken, ends⟩ := keyword?_eq_some_iff.mp taken
  rw [Cursor.rest_of_take? taken]
  refine takeWhile_append_of_endsName (List.all_eq_true.mp continues) fun c first => ?_
  obtain ⟨rest, rest_eq⟩ := List.head?_eq_some_iff.mp first
  rw [Cursor.sees, rest_eq] at ends
  exact ends

section Clear

variable {word word' text : Text} {here next : Cursor} (connective : IsConnective word)

include connective

/-- The word does not come next where a character stands that is visible and no part of a name. -/
theorem clear_of_head {c : Char} (visible : Text.isBlank c = false) (noName : continuesName c = false) :
    Clear word (c :: text) := by
  refine clear_of_takeWhile connective.continues (Text.trimStart_of_not_isBlank visible) ?_
  rw [List.takeWhile_cons_of_neg (by simp [noName])]
  exact connective.ne_nil.symm

/-- The word does not come next where another one stands. -/
theorem clear_of_keyword? (filled : word' ≠ []) (continues : word'.all continuesName = true)
    (other : word' ≠ word) (taken : here.keyword? word' = some next) : Clear word here.rest := by
  refine clear_of_takeWhile connective.continues ?_ ?_
  · rw [Cursor.rest_of_take? (keyword?_eq_some_iff.mp taken).1]
    cases word' with
    | nil => contradiction
    | cons c word' =>
      have first := List.all_eq_true.mp continues c (List.mem_cons_self ..)
      exact Text.trimStart_of_not_isBlank (isBlank_of_continuesName first)
  · rw [takeWhile_of_keyword? continues taken]
    exact other

end Clear

theorem skips_of_all_continuesName {word part : Text} (continues : part.all continuesName = true) :
    Text.Skips (Text.wordSeparator word) 0 part :=
  skips_of_visible <| List.all_eq_true.mpr fun c member =>
    visible_of_continuesName c (List.all_eq_true.mp continues c member)

theorem skips_of_all_isSign {word part : Text} (signs : part.all isSign = true) :
    Text.Skips (Text.wordSeparator word) 0 part :=
  skips_of_visible <| List.all_eq_true.mpr fun c member =>
    (Bool.and_eq_true_iff.mp (List.all_eq_true.mp signs c member)).1

namespace Crosses

variable {word : Text} {here between next : Cursor} (connective : IsConnective word)

include connective

/-- What begins with a character that is visible and no part of a name. -/
theorem of_head {c : Char} {passed : Text} (rest : here.rest = c :: passed ++ next.rest)
    (skips : Text.Skips (Text.wordSeparator word) 0 (c :: passed)) (visible : Text.isBlank c = false)
    (noName : continuesName c = false) : Crosses word here next := by
  refine of_skips rest skips ?_
  rw [rest]
  exact clear_of_head connective visible noName

/-- What begins with the characters of a name, and not with the word. -/
theorem of_run {c : Char} {passed : Text} (rest : here.rest = c :: passed ++ next.rest)
    (visible : (c :: passed).all (fun c => isNeutral c && !Text.isBlank c) = true)
    (other : here.rest.takeWhile continuesName ≠ word) : Crosses word here next := by
  refine of_skips rest (skips_of_visible visible) (clear_of_takeWhile connective.continues ?_ other)
  have first := (Bool.and_eq_true_iff.mp (Bool.and_eq_true_iff.mp visible).1).2
  rw [rest]
  exact Text.trimStart_of_not_isBlank (by simpa using first)

/-- A sign. -/
theorem sign {sign : Text} (filled : sign ≠ []) (signs : sign.all isSign = true)
    (taken : here.take? sign = some next) : Crosses word here next := by
  obtain ⟨c, sign', rfl⟩ := List.exists_cons_of_ne_nil filled
  have first := List.all_eq_true.mp signs c (List.mem_cons_self ..)
  simp only [isSign, Bool.and_eq_true, Bool.not_eq_true'] at first
  exact of_head connective (Cursor.rest_of_take? taken) (skips_of_all_isSign signs) first.1.2 first.2

/-- Another word. -/
theorem keyword {word' : Text} (filled : word' ≠ []) (continues : word'.all continuesName = true)
    (other : word' ≠ word) (taken : here.keyword? word' = some next) : Crosses word here next :=
  of_skips (Cursor.rest_of_take? (keyword?_eq_some_iff.mp taken).1)
    (skips_of_all_continuesName continues)
    (clear_of_keyword? connective filled continues other taken)

/-- One of the words of the grammar. -/
theorem known {word' : Text} (taken : here.keyword? word' = some next)
    (member : word' ∈ operandWords) : Crosses word here next := by
  have names : ∀ word' ∈ operandWords, word' ≠ [] ∧ word'.all continuesName = true := by decide
  obtain ⟨filled, continues⟩ := names word' member
  exact keyword connective filled continues (connective.ne_of_mem member) taken

theorem negationSign (found : (here.keyword? ['n', 'o', 't'] <|> here.symbol? ['!'] '=') = some next) :
    Crosses word here next := by
  rw [Option.orElse_eq_orElse, Option.orElse_eq_or, Option.or_eq_some_iff] at found
  rcases found with taken | ⟨-, taken⟩
  · exact known connective taken (List.mem_cons_self ..)
  · exact sign connective (List.cons_ne_nil _ _) rfl (take?_of_symbol? taken)

/-- An operator between operands that are no conditions. -/
theorem operator? {level : Level} {make : Expr → Expr → Expr} (tight : level.looseness ≤ 4)
    (found : operator? level here = some (make, next)) : Crosses word here next := by
  have of_signs {signs : List (Text × (Expr → Expr → Expr))}
      (all : ∀ sign ∈ signs, sign.1 ≠ [] ∧ sign.1.all isSign = true)
      (found : firstSign? signs here = some (make, next)) : Crosses word here next := by
    obtain ⟨sign', member, -, taken⟩ := mem_of_firstSign? found
    exact sign connective (all _ member).1 (all _ member).2 taken
  unfold TextTemplate.operator? at found
  split at found
  · exact absurd tight (by decide)
  · exact absurd tight (by decide)
  · exact of_signs (by decide) found
  · exact of_signs (by decide) found
  · exact of_signs (by decide) found
  · cases found

theorem membership? {negated : Bool} (found : membership? here = some (negated, next)) :
    Crosses word here next := by
  have inKnown : ['i', 'n'] ∈ operandWords := by decide
  rcases Lexes.membership?_eq_some_iff.mp found with ⟨taken, -⟩ | ⟨between, -, taken, taken', -⟩
  · exact known connective taken inKnown
  · exact (known connective taken (List.mem_cons_self ..)).trans
      ((skipBlank between).trans (known connective taken' inKnown))

theorem testName? {name : String} (found : testName? here = some (name, next)) :
    Crosses word here next := by
  obtain ⟨name', member, taken⟩ := List.exists_of_findSome?_eq_some found
  obtain ⟨next', taken, same⟩ := Option.map_eq_some_iff.mp taken
  cases same
  refine known connective taken ?_
  simp only [operandWords, List.mem_cons]
  exact Or.inr (Or.inr (Or.inr (List.mem_map_of_mem member)))

theorem passesNot {negated : Bool} (negation : ParsesTest.PassesNot here negated next) :
    Crosses word here next := by
  rcases negation with ⟨-, -, rfl⟩ | ⟨behind, taken, -, rfl⟩
  · exact ⟨[], [], rfl, rfl, fun filled => absurd rfl filled, fun _ => rfl⟩
  · exact (known connective taken (List.mem_cons_self ..)).trans (skipBlank behind)

/-- Another name. -/
theorem identifier {name : String} (named : here.identifier = .ok (name, next))
    (other : name ≠ String.ofList word) : Crosses word here next := by
  refine (skipBlank here).trans ?_
  obtain ⟨begins, run, taken, rfl⟩ := Cursor.identifier_eq_ok_iff.mp named
  cases taken
  obtain ⟨c, rest, rest_eq, begins⟩ := exists_of_sees begins
  have run_eq : here.skipBlank.rest.takeWhile continuesName = c :: rest.takeWhile continuesName := by
    rw [rest_eq, List.takeWhile_cons_of_pos (continuesName_of_beginsName begins)]
  have whole : here.skipBlank.rest =
      c :: rest.takeWhile continuesName ++ here.skipBlank.rest.dropWhile continuesName := by
    rw [← run_eq, List.takeWhile_append_dropWhile]
  refine of_run connective whole ?_ ?_
  · rw [← run_eq]
    exact List.all_eq_true.mpr fun d member =>
      visible_of_continuesName d (List.mem_takeWhile_imp member)
  · rintro same
    exact other (congrArg String.ofList same)

/-- A number, which begins with a digit. -/
theorem number {c : Char} {rest : Text} (begins : here.rest = c :: rest) (digit : c.isDigit = true) :
    Crosses word here (parseNumber here).2 := by
  obtain ⟨whole, digits⟩ := Glides.numberRun_spec false here.rest
  have run_eq : numberRun false here.rest = c :: numberRun false rest := by
    rw [begins, numberRun, digit, Bool.true_or, if_pos rfl]
  have whole' : here.rest = c :: numberRun false rest ++ (parseNumber here).2.rest := by
    rw [← run_eq]
    exact whole.symm
  refine of_run connective whole' ?_ ?_
  · rw [← run_eq]
    refine List.all_eq_true.mpr fun d member => ?_
    rcases Bool.or_eq_true_iff.mp (List.all_eq_true.mp digits d member) with continues | point
    · exact visible_of_continuesName d continues
    · rw [beq_iff_eq.mp point]
      rfl
  · rw [begins, List.takeWhile_cons_of_pos (continuesName_of_isDigit digit)]
    exact connective.not_isDigit digit

/-- A field, whose name may be the word. -/
theorem field {run : Text} (point : here.take? ['.'] = some between)
    (named : between.takeWhile continuesName = (run, next)) : Crosses word here next := by
  cases named
  have whole : here.rest = '.' :: between.rest.takeWhile continuesName ++
      between.rest.dropWhile continuesName := by
    rw [Cursor.rest_of_character point, List.cons_append, List.takeWhile_append_dropWhile]
  refine of_head connective whole (skips_of_visible ?_) rfl rfl
  refine List.all_eq_true.mpr fun d member => ?_
  rcases List.mem_cons.mp member with rfl | member
  · rfl
  · exact visible_of_continuesName d (List.mem_takeWhile_imp member)

/-- A quoted text. -/
theorem quoted {quote : Char} {rest text : Text} {position : Position}
    (begins : here.rest = quote :: rest) (quotes : quote = '"' ∨ quote = '\'')
    (read : parseQuoted quote [] position rest = .ok (text, next)) : Crosses word here next := by
  obtain ⟨passed, whole, skips⟩ := skips_of_parseQuoted (Text.wordSeparator word) quotes read
  have noName : continuesName quote = false := by
    rcases quotes with rfl | rfl <;> rfl
  have visible : Text.isBlank quote = false := by
    rcases quotes with rfl | rfl <;> rfl
  refine of_skips (begins.trans whole) skips (clear_of_takeWhile connective.continues ?_ ?_)
  · rw [begins]
    exact Text.trimStart_of_not_isBlank visible
  · rw [begins, List.takeWhile_cons_of_neg (by simp [noName])]
    exact connective.ne_nil.symm

/-- A bracket, what is passed inside of brackets, and the closing bracket. -/
theorem bracketed {opening close : Char} (opens : Text.opensBracket opening = true)
    (closes : Text.closesBracket close = true) (bracket : here.take? [opening] = some between)
    (read : ∃ inside, between.rest = inside ++ close :: next.rest ∧
      Text.Skips (Text.wordSeparator word) 1 inside) : Crosses word here next := by
  obtain ⟨inside, rest, skips⟩ := read
  have whole : here.rest = opening :: (inside ++ [close]) ++ next.rest := by
    rw [Cursor.rest_of_character bracket, rest]
    simp
  have plain : Text.isBlank opening = false ∧ continuesName opening = false := by
    simp only [Text.opensBracket, Bool.or_eq_true, beq_iff_eq] at opens
    rcases opens with (rfl | rfl) | rfl <;> exact ⟨rfl, rfl⟩
  exact of_head connective whole (Text.Skips.bracketed opens closes skips) plain.1 plain.2

end Crosses

/-! ### Operands -/

/-- Whether a phrase is an operand of a conjunction, or a part of one. -/
def Phrase.isTight : Phrase → Bool
  | .level kind _ => kind.looseness ≤ 5
  | .more kind _ _ => kind.looseness ≤ 4
  | .list _ _ => false
  | _ => true

namespace Derives

variable {word : Text} {phrase : Phrase} {here next : Cursor}

/-- **A search for a word passes over every operand** that has no variable and no filter of that
name. -/
theorem crosses (connective : IsConnective word) (derives : Derives phrase here next)
    (tight : phrase.isTight = true) (other : String.ofList word ∉ phrase.names) :
    Crosses word here next := by
  have plain (c : Char) (neutral : isNeutral c = true) :
      Text.Skips (Text.wordSeparator word) 1 [c] := Text.Skips.character (isNeutral_top neutral) nofun
  have blanks (here : Cursor) : Crosses word here here.skipBlank := Crosses.skipBlank here
  have isKnown : ['i', 's'] ∈ operandWords := by decide
  induction derives with
  | plain first alone ih => cases tight
  | guarded first guard second alone ih ih' => cases tight
  | choice first guard second word third ih ih' ih'' => cases tight
  | not sign inner ih =>
    exact (blanks _).trans ((Crosses.negationSign connective sign).trans (ih rfl other))
  | positive noSign inner ih => exact (blanks _).trans (ih rfl other)
  | minus sign inner ih =>
    have sign := Crosses.sign connective (List.cons_ne_nil _ _) rfl sign
    exact (blanks _).trans (sign.trans (ih rfl other))
  | plus noMinus sign inner ih =>
    have sign := Crosses.sign connective (List.cons_ne_nil _ _) rfl sign
    exact (blanks _).trans (sign.trans (ih rfl other))
  | unsigned noMinus noPlus inner ih => exact (blanks _).trans (ih rfl other)
  | operand first more ih ih' =>
    exact (ih rfl fun member => other (more.kept_subset member)).trans (ih' rfl other)
  | field point named more ih =>
    exact (blanks _).trans ((Crosses.field connective point named).trans (ih rfl other))
  | index noPoint bracket inside closed more ih ih' =>
    have read := walks_expect plain (Nat.le_refl 1) (inside.skipped plain (Nat.le_refl 1)) closed
    exact (blanks _).trans ((Crosses.bracketed connective rfl rfl bracket read).trans (ih' rfl other))
  | call noPoint noBracket bracket inside more ih ih' =>
    have read := inside.skipped plain (Nat.le_refl 1)
    exact (blanks _).trans ((Crosses.bracketed connective rfl rfl bracket read).trans (ih' rfl other))
  | filter noPoint noBracket noList pipe named listed more ih ih' =>
    have kept := more.kept_subset
    have pipe := Crosses.sign connective (List.cons_ne_nil _ _) rfl (take?_of_symbol? pipe)
    have name := Crosses.identifier connective named fun same =>
      other (kept (same ▸ List.mem_cons_self ..))
    have args := ih rfl fun member =>
      other (kept (List.mem_cons_of_mem _ (List.mem_append_right _ member)))
    exact (blanks _).trans (pipe.trans (name.trans (args.trans (ih' rfl other))))
  | @binary level _ _ _ _ _ isBinary first more ih ih' =>
    have low : level.looseness ≤ 4 := by
      cases level <;> first | decide | contradiction
    have low' : (Phrase.level level.tighter (.literal .null)).isTight = true := by
      cases level <;> first | rfl | contradiction
    exact (ih low' fun member => other (more.kept_subset member)).trans
      (ih' (decide_eq_true low) other)
  | @operator level _ _ _ _ _ _ _ make loose sign second more ih ih' =>
    have low : level.looseness ≤ 4 := of_decide_eq_true tight
    have low' : (Phrase.level level.tighter (.literal .null)).isTight = true := by
      cases level <;> first | rfl | contradiction
    have right := ih low' fun member => by
      refine other (more.kept_subset ?_)
      show _ ∈ Expr.names _
      rw [names_of_operator? sign]
      exact List.mem_append_right _ member
    have sign := Crosses.operator? connective low sign
    exact (blanks _).trans (sign.trans (right.trans (ih' tight other)))
  | tested noSign word test more ih ih' =>
    have word := Crosses.known connective word isKnown
    have test := ih rfl fun member => other (more.kept_subset member)
    exact (blanks _).trans (word.trans (test.trans (ih' rfl other)))
  | member noSign noTest words second more ih ih' =>
    have words := Crosses.membership? connective words
    have container := ih rfl fun member => other (more.kept_subset (List.mem_append_right _ member))
    exact (blanks _).trans (words.trans (container.trans (ih' rfl other)))
  | stop loose stops => exact blanks _
  | named negation known listed ih =>
    have negation := Crosses.passesNot connective negation
    have name := Crosses.testName? connective known
    have args := ih rfl fun member => other (List.mem_append_right _ member)
    exact (blanks _).trans (negation.trans (name.trans args))
  | compared negation unknown second ih =>
    have negation := Crosses.passesNot connective negation
    have second := ih rfl fun member => other (List.mem_append_right _ member)
    exact (blanks _).trans (negation.trans second)
  | noArgs noList => exact blanks _
  | args bracket inside ih =>
    have read := inside.skipped plain (Nat.le_refl 1)
    exact (blanks _).trans (Crosses.bracketed connective rfl rfl bracket read)
  | nil closes closed => cases tight
  | cons closes opened first comma rest ih ih' => cases tight
  | last closes opened first noComma closed ih => cases tight
  | number begins digit => exact (blanks _).trans (Crosses.number connective begins digit)
  | quoted begins quotes read => exact (blanks _).trans (Crosses.quoted connective begins quotes read)
  | array bracket inside ih =>
    have read := inside.skipped plain (Nat.le_refl 1)
    exact (blanks _).trans (Crosses.bracketed connective rfl rfl bracket read)
  | parentheses bracket inside closed ih =>
    have read := walks_expect plain (Nat.le_refl 1) (inside.skipped plain (Nat.le_refl 1)) closed
    exact (blanks _).trans (Crosses.bracketed connective rfl rfl bracket read)
  | @name here name next named =>
    refine (blanks _).trans (Crosses.identifier connective named ?_)
    rintro rfl
    refine other ?_
    show _ ∈ (nameExpr (String.ofList word)).names
    rw [connective.nameExpr_eq]
    exact List.mem_cons_self ..

end Derives

end TextTemplate
