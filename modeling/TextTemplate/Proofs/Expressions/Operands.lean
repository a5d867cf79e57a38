/-
**Rules of reading operands.**

* `ParsesTest`, `ParsesMore`: tests, memberships, and what follows an operand: a field, an index, a call
  or a filter;
* `ParsesList`, `ParsesArgs`: lists of expressions;
* `ParsesOperand`: numbers, quoted texts, names, lists in brackets and expressions in parentheses.
-/

import TextTemplate.Proofs.Expressions.Reading
import TextTemplate.Proofs.Numbers.Digits

namespace TextTemplate

/-! ### Tests and memberships -/

theorem exists_findSome?_eq {α β : Type} {f : α → Option β} {items : List α} {item : α} {result : β}
    (member : item ∈ items) (found : f item = some result)
    (others : ∀ other ∈ items, other ≠ item → f other = none) : items.findSome? f = some result := by
  induction items with
  | nil => cases member
  | cons first items ih =>
    by_cases same : first = item
    · rw [List.findSome?_cons, same, found]
    · have skipped := others first (List.mem_cons_self ..) same
      rw [List.findSome?_cons, skipped]
      exact ih (List.mem_of_ne_of_mem (Ne.symm same) member) fun other member =>
        others other (List.mem_cons_of_mem first member)

theorem ne_not_of_mem_testNames {name : String} (known : name ∈ testNames) :
    name.toList ≠ ['n', 'o', 't'] := by
  have all : ∀ name ∈ testNames, name.toList ≠ ['n', 'o', 't'] := by decide
  exact all name known

/-- The name of a test is passed. -/
theorem testName?_of_rest {name : String} {here : Cursor} {rest : Text} (known : name ∈ testNames)
    (begins : here.rest = name.toList ++ rest) (ends : EndsName rest) :
    testName? here = some (name, here.behind name.toList rest) := by
  refine exists_findSome?_eq known ?_ fun other known' differs => ?_
  · rw [Cursor.keyword?_of_rest begins ends]
    rfl
  · have leading : here.rest.takeWhile continuesName = name.toList := by
      rw [begins, takeWhile_append_of_endsName (isName_of_mem_testNames known).all ends]
    have continues := List.all_eq_true.mpr (isName_of_mem_testNames known').all
    rw [Cursor.keyword?_of_ne continues fun same => differs ?_]
    · rfl
    · exact String.toList_inj.mp (same.symm.trans leading)

namespace ParsesTest

variable {name : String} {args : List Expr} {text rest : Text}

/-- The name of a test and its arguments. -/
theorem named (target : Expr) (negated : Bool) (known : name ∈ testNames) (ends : EndsName text)
    (reads : ParsesArgs text args rest) :
    ParsesTest target ((if negated then ['n', 'o', 't', ' '] else []) ++ (name.toList ++ text))
      (.test target name args negated) rest := by
  have shorter := reads.shorter
  have valid := isName_of_mem_testNames known
  have visible := valid.trimStart_append text
  refine Parses.of_succ (by simp only [List.length_append]; omega) fun depth here enough stands => ?_
  simp only [List.length_append] at enough
  obtain ⟨behind, negation, begins'⟩ : ∃ behind, PassesNot here.skipBlank negated behind ∧
      behind.rest = name.toList ++ text := by
    cases negated with
    | true =>
      obtain ⟨next, word, stands⟩ := stands.keyword ['n', 'o', 't'] rfl
      exact ⟨next.skipBlank, .inr ⟨next, word, rfl, rfl⟩, stands.rest_skipBlank.trans visible⟩
    | false =>
      have rest_eq : here.skipBlank.rest = name.toList ++ text := stands.rest_skipBlank.trans visible
      refine ⟨here.skipBlank, .inl ⟨Cursor.keyword?_of_ne (by decide) ?_, rfl, rfl⟩, rest_eq⟩
      rw [rest_eq, takeWhile_append_of_endsName valid.all ends]
      exact ne_not_of_mem_testNames known
  obtain ⟨last, ok, stands⟩ := reads.reads depth (by omega)
    (behind.at_behind name.toList text)
  exact ⟨last, Phrase.ReadWithin.named negation (testName?_of_rest known begins' ends) ok, stands⟩

end ParsesTest

namespace ParsesMore

variable {left container expr : Expr} {between between' rest : Text}

/-- A test of the left operand. -/
theorem test {tested : Expr} (first : ParsesTest left between tested between')
    (more : ParsesMore .comparison tested between' expr rest) :
    ParsesMore .comparison left (' ' :: 'i' :: 's' :: ' ' :: between) expr rest := by
  have shorter := first.shorter
  have shorter' := more.shorter
  refine Parses.of_succ (by simp only [List.length_cons]; omega) fun depth here enough stands => ?_
  simp only [List.length_cons] at enough
  have here_eq := stands.skipBlank_eq
  have sign : operator? .comparison here.skipBlank = none := by
    rw [here_eq]
    rfl
  obtain ⟨next, word, stands⟩ := stands.keyword ['i', 's'] rfl
  obtain ⟨next', tests, stands⟩ := first.reads depth (by omega) stands
  obtain ⟨last, ok, stands⟩ := more.reads depth (by omega) stands
  exact ⟨last, Phrase.ReadWithin.tested sign word tests ok, stands⟩

/-- A container that the left operand is looked for in. -/
theorem member (negated : Bool) (first : ParsesLevel .sum between container between')
    (more : ParsesMore .comparison (.member left container negated) between' expr rest) :
    ParsesMore .comparison left
      (' ' :: ((if negated then ['n', 'o', 't', ' ', 'i', 'n'] else ['i', 'n']) ++ ' ' :: between))
      expr rest := by
  have shorter := first.shorter
  have shorter' := more.shorter
  refine Parses.of_succ (by simp only [List.length_cons, List.length_append]; omega)
    fun depth here enough stands => ?_
  simp only [List.length_cons, List.length_append] at enough
  have here_eq := stands.skipBlank_eq
  have sign : operator? .comparison here.skipBlank = none := by
    rw [here_eq]
    cases negated <;> rfl
  have noTest : here.skipBlank.keyword? ['i', 's'] = none := by
    rw [here_eq]
    cases negated <;> rfl
  obtain ⟨next, word, stands⟩ : ∃ next, membership? here.skipBlank = some (negated, next) ∧
      next.At between := by
    rw [here_eq]
    cases negated <;> exact ⟨_, rfl, Cursor.At.of_blank (Cursor.At.of_rest rfl)⟩
  obtain ⟨next', contains, stands⟩ :=
    first.reads depth (by simp only [Level.looseness]; omega) stands
  obtain ⟨last, ok, stands⟩ := more.reads depth (by omega) stands
  exact ⟨last, Phrase.ReadWithin.member sign noTest word contains ok, stands⟩

/-! ### What follows an operand -/

/-- A field. -/
theorem field {name : Text} (filled : name ≠ []) (continues : ∀ c ∈ name, continuesName c = true)
    (ends : EndsName between)
    (more : ParsesMore .operand (.field left (String.ofList name)) between expr rest) :
    ParsesMore .operand left ('.' :: (name ++ between)) expr rest := by
  obtain ⟨c, name, rfl⟩ := List.exists_cons_of_ne_nil filled
  have shorter := more.shorter
  refine Parses.of_succ (by simp only [List.length_cons, List.length_append]; omega)
    fun depth here enough stands => ?_
  simp only [List.length_cons, List.length_append] at enough
  have begins : here.skipBlank.rest = ['.'] ++ (c :: name ++ between) := stands.rest_skipBlank
  have taken : (here.skipBlank.behind ['.'] (c :: name ++ between)).takeWhile continuesName =
      (c :: name, ((here.skipBlank.behind ['.'] (c :: name ++ between)).behind (c :: name) between)) := by
    simp only [Cursor.takeWhile, Cursor.behind, takeWhile_append_of_endsName continues ends,
      dropWhile_append_of_endsName continues ends]
  obtain ⟨last, ok, stands⟩ := more.reads depth (by omega)
    ((here.skipBlank.behind ['.'] (c :: name ++ between)).at_behind (c :: name) between)
  exact ⟨last, Phrase.ReadWithin.field (Cursor.take?_of_rest begins) taken ok, stands⟩

/-- An index. -/
theorem index {selector : Expr} {text : Text}
    (first : ParsesLevel .conditional text selector (']' :: between))
    (more : ParsesMore .operand (.index left selector) between expr rest) :
    ParsesMore .operand left ('[' :: text) expr rest := by
  have shorter := first.shorter
  have shorter' := more.shorter
  rw [List.length_cons] at shorter
  refine Parses.of_succ (by rw [List.length_cons]; omega) fun depth here enough stands => ?_
  rw [List.length_cons] at enough
  have begins : here.skipBlank.rest = ['['] ++ text := stands.rest_skipBlank
  have noPoint := Cursor.take?_of_head (c := '.') begins (by decide)
  obtain ⟨next, selects, stands⟩ := first.reads depth
    (by simp only [Level.looseness]; omega)
    (here.skipBlank.at_behind ['['] text)
  obtain ⟨next', closed, stands⟩ := Cursor.expect_of_at (by decide) stands
  obtain ⟨last, ok, stands⟩ := more.reads depth (by omega) stands
  exact ⟨last, Phrase.ReadWithin.index noPoint (Cursor.take?_of_rest begins) selects closed ok, stands⟩

/-- A call. -/
theorem call {args : List Expr} {text : Text} (first : ParsesList ')' text args between)
    (more : ParsesMore .operand (.call left args) between expr rest) :
    ParsesMore .operand left ('(' :: text) expr rest := by
  have shorter := first.shorter
  have shorter' := more.shorter
  refine Parses.of_succ (by rw [List.length_cons]; omega) fun depth here enough stands => ?_
  rw [List.length_cons] at enough
  have begins : here.skipBlank.rest = ['('] ++ text := stands.rest_skipBlank
  have noPoint := Cursor.take?_of_head (c := '.') begins (by decide)
  have noBracket := Cursor.take?_of_head (c := '[') begins (by decide)
  obtain ⟨next, lists, stands⟩ := first.reads depth (by omega)
    (here.skipBlank.at_behind ['('] text)
  obtain ⟨last, ok, stands⟩ := more.reads depth (by omega) stands
  exact ⟨last, Phrase.ReadWithin.call noPoint noBracket (Cursor.take?_of_rest begins) lists ok, stands⟩

/-- A filter. -/
theorem filter {name : Text} {args : List Expr} {text : Text} (valid : IsName name)
    (ends : EndsName text) (first : ParsesArgs text args between)
    (more : ParsesMore .operand (.filter left (String.ofList name) args) between expr rest) :
    ParsesMore .operand left (' ' :: '|' :: ' ' :: (name ++ text)) expr rest := by
  have shorter := first.shorter
  have shorter' := more.shorter
  refine Parses.of_succ (by simp only [List.length_cons, List.length_append]; omega)
    fun depth here enough stands => ?_
  simp only [List.length_cons, List.length_append] at enough
  have begins : here.skipBlank.rest = ['|'] ++ ' ' :: (name ++ text) := stands.rest_skipBlank
  have noPoint := Cursor.take?_of_head (c := '.') begins (by decide)
  have noBracket := Cursor.take?_of_head (c := '[') begins (by decide)
  have noParenthesis := Cursor.take?_of_head (c := '(') begins (by decide)
  have pipe : here.skipBlank.symbol? ['|'] '|' =
      some (here.skipBlank.behind ['|'] (' ' :: (name ++ text))) := by
    rw [Cursor.symbol?, Cursor.take?_of_rest begins]
    rfl
  obtain ⟨next, names, stands⟩ := Cursor.identifier_of_at valid ends
    (here.skipBlank.at_behind ['|'] (' ' :: (name ++ text))).of_blank
  obtain ⟨next', lists, stands⟩ := first.reads depth (by omega) stands
  obtain ⟨last, ok, stands⟩ := more.reads depth (by omega) stands
  exact ⟨last, Phrase.ReadWithin.filter noPoint noBracket noParenthesis pipe names lists ok, stands⟩

end ParsesMore

/-! ### Lists and arguments -/

namespace ParsesList

variable {close : Char} {item : Expr} {items : List Expr} {text between rest : Text}

/-- An empty list. -/
theorem nil (visible : Text.isBlank close = false) : ParsesList close (close :: rest) [] rest := by
  refine Parses.of_succ (by rw [List.length_cons]; omega) fun depth here enough stands => ?_
  have begins : here.skipBlank.rest = [close] ++ rest := by
    rw [stands.rest_skipBlank, Text.trimStart_of_not_isBlank visible]
    rfl
  exact ⟨here.skipBlank.behind [close] rest, Phrase.ReadWithin.nil (Cursor.take?_of_rest begins),
    Cursor.At.of_rest rfl⟩

section Cons

variable (unclosed : ∀ here : Cursor, here.rest = text.trimStart → here.take? [close] = none)

include unclosed

/-- The last element of a list. -/
theorem singleton (visible : Text.isBlank close = false) (noComma : close ≠ ',')
    (reads : ParsesLevel .conditional text item (close :: rest)) : ParsesList close text [item] rest := by
  have shorter := reads.shorter
  rw [List.length_cons] at shorter
  refine Parses.of_succ (by omega) fun depth here enough stands => ?_
  obtain ⟨next, ok, stands'⟩ := reads.reads depth enough stands.skipBlank
  have begins : next.skipBlank.rest = close :: rest := by
    rw [stands'.rest_skipBlank, Text.trimStart_of_not_isBlank visible]
  obtain ⟨last, closed, stands''⟩ := Cursor.expect_of_at visible stands'.skipBlank
  have opened := unclosed here.skipBlank stands.rest_skipBlank
  exact ⟨last, Phrase.ReadWithin.last opened ok (Cursor.take?_of_head begins noComma.symm) closed,
    stands''⟩

/-- An element and a comma. -/
theorem cons (first : ParsesLevel .conditional text item (',' :: between))
    (more : ParsesList close between items rest) : ParsesList close text (item :: items) rest := by
  have shorter := first.shorter
  have shorter' := more.shorter
  rw [List.length_cons] at shorter
  refine Parses.of_succ (by omega) fun depth here enough stands => ?_
  obtain ⟨next, ok, stands'⟩ := first.reads depth enough stands.skipBlank
  have begins : next.skipBlank.rest = [','] ++ between := stands'.rest_skipBlank
  obtain ⟨last, ok', stands''⟩ := more.reads depth (by omega)
    (next.skipBlank.at_behind [','] between)
  have opened := unclosed here.skipBlank stands.rest_skipBlank
  exact ⟨last, Phrase.ReadWithin.cons opened ok (Cursor.take?_of_rest begins) ok', stands''⟩

end Cons

end ParsesList

namespace ParsesArgs

variable {args : List Expr} {text rest : Text}

/-- No arguments. -/
theorem nil (noList : ∀ here : Cursor, here.rest = text.trimStart → here.take? ['('] = none) :
    ParsesArgs text [] text := by
  refine Parses.of_succ (Nat.le_refl _) fun depth here enough stands => ?_
  exact ⟨here.skipBlank, Phrase.ReadWithin.noArgs (noList here.skipBlank stands.rest_skipBlank),
    stands.skipBlank⟩

/-- Arguments in parentheses. -/
theorem list (reads : ParsesList ')' text args rest) : ParsesArgs ('(' :: text) args rest := by
  have shorter := reads.shorter
  refine Parses.of_succ (by rw [List.length_cons]; omega) fun depth here enough stands => ?_
  rw [List.length_cons] at enough
  have begins : here.skipBlank.rest = ['('] ++ text := stands.rest_skipBlank
  obtain ⟨last, ok, stands⟩ := reads.reads depth (by omega)
    (here.skipBlank.at_behind ['('] text)
  exact ⟨last, Phrase.ReadWithin.args (Cursor.take?_of_rest begins) ok, stands⟩

end ParsesArgs

/-! ### Operands -/

/-- The digits of a number are read up to where they end. -/
theorem numberRun_append {digits rest : Text} (digital : digits.all Char.isDigit = true)
    (ends : EndsName rest) (noPoint : ∀ c ∈ rest.head?, c ≠ '.') :
    numberRun false (digits ++ rest) = digits := by
  induction digits with
  | nil =>
    cases rest with
    | nil => rfl
    | cons c rest =>
      have continues : (((c.isAlpha || c.isDigit) || c == '_') || c == '$') = false := ends c rfl
      simp only [Bool.or_eq_false_iff] at continues
      simp [numberRun, continues, noPoint c rfl]
  | cons c digits ih =>
    obtain ⟨digit, digital⟩ := Bool.and_eq_true_iff.mp digital
    rw [List.cons_append, numberRun, digit, Bool.true_or, if_pos rfl, ih digital]

/-- The digits of a natural number have it as their value. -/
theorem numberValue_digitText {n : Int64} (natural : 0 ≤ n.toInt) :
    numberValue ((Decimal.digitText n.toInt.toNat).filter (· != '_')) = .int n := by
  have noUnderscore : (Decimal.digitText n.toInt.toNat).filter (· != '_') =
      Decimal.digitText n.toInt.toNat := by
    refine List.filter_eq_self.mpr fun c member => ?_
    have digit := isDigit_of_mem_digitText member
    by_contra underscore
    simp only [bne_iff_ne, ne_eq, not_not] at underscore
    subst underscore
    exact absurd digit (by decide)
  rw [noUnderscore, numberValue, readInteger?_digitText natural]

/-- A text between quotes is read as the text. -/
theorem parseQuoted_quotedBy {quote : Char} (quotes : quote = '"' ∨ quote = '\'') (text done : Text)
    (position : Position) (rest : Text) :
    ∃ last, parseQuoted quote done position ((quotedBy quote text).tail ++ rest) =
      .ok (done.reverse ++ text, last) ∧ last.rest = rest := by
  induction text generalizing done position with
  | nil =>
    refine ⟨⟨rest, position.step quote⟩, ?_, rfl⟩
    show parseQuoted quote done position (quote :: rest) = _
    rw [parseQuoted.eq_def]
    simp
  | cons c text ih =>
    have plain : unescape quote = quote := by
      rcases quotes with rfl | rfl <;> rfl
    have notEscape : '\\' ≠ quote := by
      rcases quotes with rfl | rfl <;> decide
    by_cases special : c = quote ∨ c = '\\'
    · obtain ⟨last, ok, same⟩ := ih (c :: done) ((position.step '\\').step c)
      refine ⟨last, ?_, same⟩
      have unescaped : unescape c = c := by
        rcases special with rfl | rfl
        · exact plain
        · rfl
      have first : (quotedBy quote (c :: text)).tail ++ rest =
          '\\' :: c :: ((quotedBy quote text).tail ++ rest) := by
        simp [quotedBy, special]
      rw [first, parseQuoted.eq_def]
      simp only [if_neg notEscape, if_true, unescaped, ok]
      simp
    · obtain ⟨last, ok, same⟩ := ih (c :: done) (position.step c)
      refine ⟨last, ?_, same⟩
      have first : (quotedBy quote (c :: text)).tail ++ rest =
          c :: ((quotedBy quote text).tail ++ rest) := by
        simp [quotedBy, special]
      obtain ⟨other, noEscape⟩ := not_or.mp special
      rw [first, parseQuoted.eq_def]
      simp only [if_neg other, if_neg noEscape, ok]
      simp

namespace ParsesOperand

variable {expr : Expr} {items : List Expr} {text rest : Text}

/-- A name, which may stand for a literal. -/
theorem name {name : Text} (valid : IsName name) (ends : EndsName rest) :
    ParsesOperand (name ++ rest) (nameExpr (String.ofList name)) rest := by
  refine Parses.of_succ (by rw [List.length_append]; omega) fun depth here enough stands => ?_
  obtain ⟨next, ok, stands'⟩ := Cursor.identifier_of_at valid ends stands.skipBlank
  exact ⟨next, Phrase.ReadWithin.name ok, stands'⟩

/-- A list in brackets. -/
theorem array (reads : ParsesList ']' text items rest) :
    ParsesOperand ('[' :: text) (.array items) rest := by
  have shorter := reads.shorter
  refine Parses.of_succ (by rw [List.length_cons]; omega) fun depth here enough stands => ?_
  rw [List.length_cons] at enough
  have begins : here.skipBlank.rest = ['['] ++ text := stands.rest_skipBlank
  obtain ⟨last, ok, stands⟩ := reads.reads depth (by omega) (here.skipBlank.at_behind ['['] text)
  exact ⟨last, Phrase.ReadWithin.array (Cursor.take?_of_rest begins) ok, stands⟩

/-- An expression in parentheses. -/
theorem parentheses (reads : ParsesLevel .conditional text expr (')' :: rest)) :
    ParsesOperand ('(' :: text) expr rest := by
  have shorter := reads.shorter
  rw [List.length_cons] at shorter
  refine Parses.of_succ (by rw [List.length_cons]; omega) fun depth here enough stands => ?_
  rw [List.length_cons] at enough
  have begins : here.skipBlank.rest = ['('] ++ text := stands.rest_skipBlank
  obtain ⟨next, ok, stands⟩ := reads.reads depth (by simp only [Level.looseness]; omega)
    (here.skipBlank.at_behind ['('] text)
  obtain ⟨last, closed, stands⟩ := Cursor.expect_of_at (by decide) stands
  exact ⟨last, Phrase.ReadWithin.parentheses (Cursor.take?_of_rest begins) ok closed, stands⟩

/-- A natural number, behind which neither digits nor a fraction follow. -/
theorem number {n : Int64} (natural : 0 ≤ n.toInt) (ends : EndsName rest)
    (noPoint : ∀ c ∈ rest.head?, c ≠ '.') :
    ParsesOperand (Decimal.digitText n.toInt.toNat ++ rest) (.literal (.int n)) rest := by
  refine Parses.of_succ (by rw [List.length_append]; omega) fun depth here enough stands => ?_
  obtain ⟨c, digits, begins, digit, -⟩ := exists_digitText_eq_cons n.toInt.toNat
  have digital := all_isDigit_digitText n.toInt.toNat
  have run := numberRun_append digital ends noPoint
  have value := numberValue_digitText natural
  have rest_eq : here.skipBlank.rest = Decimal.digitText n.toInt.toNat ++ rest := by
    rw [stands.rest_skipBlank, begins]
    exact Text.trimStart_of_not_isBlank (isBlank_of_continuesName (continuesName_of_isDigit digit))
  have parsed : parseNumber here.skipBlank = (.literal (.int n),
      here.skipBlank.behind (Decimal.digitText n.toInt.toNat) rest) := by
    rw [parseNumber, rest_eq, run, List.drop_left, value]
  have reads : (Phrase.operand (parseNumber here.skipBlank).1).ReadWithin (depth + 1) here
      (parseNumber here.skipBlank).2 :=
    Phrase.ReadWithin.number (rest_eq.trans (by rw [begins]; rfl)) digit
  rw [parsed] at reads
  exact ⟨here.skipBlank.behind (Decimal.digitText n.toInt.toNat) rest, reads, Cursor.At.of_rest rfl⟩

/-- A text between quotes. -/
theorem quoted {quote : Char} (quotes : quote = '"' ∨ quote = '\'') (text rest : Text) :
    ParsesOperand (quotedBy quote text ++ rest) (.literal (Value.ofText text)) rest := by
  refine Parses.of_succ (by rw [List.length_append]; omega) fun depth here enough stands => ?_
  have visible : Text.isBlank quote = false := by
    rcases quotes with rfl | rfl <;> rfl
  have rest_eq : here.skipBlank.rest = quotedBy quote text ++ rest := by
    rw [stands.rest_skipBlank]
    exact Text.trimStart_of_not_isBlank visible
  obtain ⟨last, ok, same⟩ := parseQuoted_quotedBy quotes text [] (here.skipBlank.position.step quote) rest
  exact ⟨last, Phrase.ReadWithin.quoted rest_eq quotes ok, Cursor.At.of_rest same⟩

end ParsesOperand

end TextTemplate
