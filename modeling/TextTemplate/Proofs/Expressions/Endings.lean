/-
**Where phrases end.**

A phrase ends where the token it ends with is over: no token reaches from what is passed into what
follows. So what is passed can be cut off, and it is an expression by itself.

* `Cursor.Closes`, `Cursor.Gains`: a cursor lies behind another one, or farther, and no token reaches
  over it;
* `Derives.reaches`: **every phrase ends behind whole tokens**, and all but the operators behind an
  operand and the arguments pass one;
* `parseExpr_passed`: **what is passed as an expression is accepted by itself**.
-/

import TextTemplate.Proofs.Expressions.Fronts
import TextTemplate.Proofs.Expressions.Words

namespace TextTemplate

open ParsesTest (PassesNot)

/-! ### Cursors behind whole tokens -/

namespace Cursor

variable {here between next : Cursor} {passed : Text}

/-- **A cursor lies behind another one, and no token reaches over it.** -/
def Closes (here next : Cursor) : Prop :=
  ∃ passed, here.Passes passed next ∧ Unjoined passed next.rest

/-- **A cursor lies farther than another one, and no token reaches over it.** -/
def Gains (here next : Cursor) : Prop :=
  ∃ passed, passed ≠ [] ∧ here.Passes passed next ∧ Unjoined passed next.rest

theorem Passes.refl (here : Cursor) : here.Passes [] here :=
  ⟨rfl, rfl⟩

theorem Gains.closes (gains : here.Gains next) : here.Closes next := by
  obtain ⟨passed, -, passes, unjoined⟩ := gains
  exact ⟨passed, passes, unjoined⟩

/-- What is passed last decides whether a token reaches on. -/
theorem Passes.gains (passes : here.Passes passed between) (gains : between.Gains next) :
    here.Gains next := by
  obtain ⟨passed', filled, passes', unjoined⟩ := gains
  exact ⟨passed ++ passed', List.append_ne_nil_of_right_ne_nil passed filled, passes.trans passes',
    unjoined.append filled⟩

theorem Closes.gains (closes : here.Closes between) (gains : between.Gains next) :
    here.Gains next := by
  obtain ⟨passed, passes, -⟩ := closes
  exact passes.gains gains

theorem Gains.trans_closes (gains : here.Gains between) (closes : between.Closes next) :
    here.Gains next := by
  obtain ⟨passed', passes', unjoined'⟩ := closes
  by_cases empty : passed' = []
  · obtain ⟨passed, filled, passes, unjoined⟩ := gains
    subst empty
    have both := passes.trans passes'
    rw [passes'.rest, List.nil_append] at unjoined
    exact ⟨passed ++ [], by simpa using filled, both, by rwa [List.append_nil]⟩
  · exact gains.closes.gains ⟨passed', empty, passes', unjoined'⟩

theorem Closes.trans (closes : here.Closes between) (closes' : between.Closes next) :
    here.Closes next := by
  obtain ⟨passed, passes, unjoined⟩ := closes
  by_cases empty : passed = []
  · subst empty
    obtain ⟨passed', passes', unjoined'⟩ := closes'
    exact ⟨passed', passes.trans passes', unjoined'⟩
  · exact (Gains.trans_closes ⟨passed, empty, passes, unjoined⟩ closes').closes

/-- No token reaches from blanks to what follows. -/
theorem closes_skipBlank (here : Cursor) : here.Closes here.skipBlank := by
  refine ⟨_, .skipBlank here, fun c atEnd d _ => joins_of_isBlank ?_ d⟩
  exact List.mem_takeWhile_imp (List.mem_of_getLast? atEnd)

/-! ### Tokens that are over where they end -/

/-- No character of a name joins one that does not go on with a name. -/
theorem joins_of_continuesName {c d : Char} (continues : continuesName c = true)
    (ends : continuesName d = false) : joins c d = false := by
  by_cases letter : c.isAlpha = true
  · rw [joins, if_pos letter]
    exact ends
  · exact joins_of_property (eq_false_of_ne_true letter) continues rfl d

theorem gains_of_takeWhile {c : Char} {run : Text}
    (taken : here.takeWhile continuesName = (c :: run, next)) : here.Gains next := by
  refine ⟨c :: run, List.cons_ne_nil c run, .of_takeWhile taken, fun d atEnd e first => ?_⟩
  obtain ⟨run_eq, rfl⟩ := Prod.mk.inj taken
  have continues : continuesName d = true := by
    rw [← run_eq] at atEnd
    exact List.mem_takeWhile_imp (List.mem_of_getLast? atEnd)
  have ends := List.head?_dropWhile_not continuesName here.rest
  rw [show (here.rest.dropWhile continuesName).head? = some e from first] at ends
  exact joins_of_continuesName continues (by simpa using ends)

/-- A name behind blanks is over where it ends. -/
theorem gains_of_identifier {name : String} (named : here.identifier = .ok (name, next)) :
    here.Gains next := by
  have shorter := length_of_identifier named
  obtain ⟨-, run, taken, -⟩ := identifier_eq_ok_iff.mp named
  cases run with
  | cons c run => exact (closes_skipBlank here).gains (gains_of_takeWhile taken)
  | nil =>
    have passed := (Passes.of_takeWhile taken).rest
    rw [List.nil_append] at passed
    rw [passed] at shorter
    omega

/-- A sign that joins nothing is over where it ends. -/
theorem gains_of_character {c : Char} (alone : ∀ d, joins c d = false)
    (taken : here.skipBlank.take? [c] = some next) : here.Gains next := by
  refine (closes_skipBlank here).gains ⟨[c], List.cons_ne_nil c [], .of_take? taken, ?_⟩
  intro d atEnd e _
  obtain rfl : c = d := Option.some.inj atEnd
  exact alone e

theorem joins_of_closesBracket {close : Char} (closes : Text.closesBracket close = true) (d : Char) :
    joins close d = false := by
  refine joins_of_property ?_ closes rfl d
  simp only [Text.closesBracket, Bool.or_eq_true, beq_iff_eq] at closes
  rcases closes with (rfl | rfl) | rfl <;> rfl

theorem gains_of_expect {close : Char} (closes : Text.closesBracket close = true)
    (closed : here.expect [close] = .ok next) : here.Gains next :=
  gains_of_character (joins_of_closesBracket closes) (expect_eq_ok_iff.mp closed)

/-- A word is over where it ends. -/
theorem gains_of_keyword? {word : Text} (isName : IsName word)
    (passed : here.keyword? word = some next) : here.Gains next := by
  obtain ⟨taken, ends⟩ := keyword?_eq_some_iff.mp passed
  have filled : word ≠ [] := by
    rintro rfl
    obtain ⟨c, first, -⟩ := isName.first
    cases first
  refine ⟨word, filled, .of_take? taken, fun c atEnd d first => ?_⟩
  obtain ⟨rest, rest_eq⟩ := List.head?_eq_some_iff.mp first
  rw [sees, rest_eq] at ends
  exact joins_of_continuesName (isName.all c (List.mem_of_getLast? atEnd)) ends

theorem gains_of_testName? {name : String} (known : testName? here = some (name, next)) :
    here.Gains next := by
  obtain ⟨name', member, found⟩ := List.exists_of_findSome?_eq_some known
  obtain ⟨next', word, same⟩ := Option.map_eq_some_iff.mp found
  cases same
  exact gains_of_keyword? (isName_of_mem_testNames member) word

/-- The `not` that may stand before a test is over where it ends. -/
theorem closes_of_passesNot {negated : Bool} (negation : PassesNot here.skipBlank negated between) :
    here.Closes between := by
  rcases negation with ⟨-, -, rfl⟩ | ⟨behind, word, -, rfl⟩
  · exact closes_skipBlank here
  · have passed := gains_of_keyword? (by decide) word
    exact (closes_skipBlank here).trans (passed.closes.trans (closes_skipBlank behind))

/-- A number is over where it ends. -/
theorem gains_number {c : Char} {rest : Text} (begins : here.rest = c :: rest)
    (digit : c.isDigit = true) : here.Gains (parseNumber here).2 := by
  refine ⟨numberRun false here.rest, ?_, passes_parseNumber here, fun d atEnd e _ => ?_⟩
  · rw [begins, numberRun, if_pos (by rw [digit]; rfl)]
    exact List.cons_ne_nil _ _
  · have inside := mem_numberRun (List.mem_of_getLast? atEnd)
    have noLetter : d.isAlpha = false := by
      rcases inside with digit | rfl | rfl
      · exact not_isAlpha_of_isDigit digit
      · rfl
      · rfl
    have holds : (d.isDigit || d == '_' || d == '.') = true := by
      simpa [or_assoc] using inside
    exact @joins_of_property d (fun d => d.isDigit || d == '_' || d == '.') noLetter holds rfl e

theorem gains_quoted {quote : Char} {rest text : Text} (begins : here.rest = quote :: rest)
    (quotes : quote = '"' ∨ quote = '\'')
    (read : parseQuoted quote [] (here.position.step quote) rest = .ok (text, next)) :
    here.Gains next := by
  obtain ⟨body, passes, -⟩ := exists_of_parseQuoted read
  have first : here.Passes [quote] ⟨rest, here.position.step quote⟩ := ⟨begins, rfl⟩
  refine first.gains ⟨body ++ [quote], List.append_ne_nil_of_right_ne_nil body (by simp), passes, ?_⟩
  intro c atEnd d _
  rw [List.getLast?_concat] at atEnd
  obtain rfl := Option.some.inj atEnd
  rcases quotes with rfl | rfl
  · exact @joins_of_property _ (· == '"') rfl rfl rfl d
  · exact @joins_of_property _ (· == '\'') rfl rfl rfl d

end Cursor

open Cursor

/-- What is passed behind a token decides whether a token reaches on. -/
theorem Lexes.gains {α β : Type} {token : β → α} {place : β → Cursor} {lexer : Cursor → Option β}
    {here next : Cursor} {found : β} (lexes : Lexes token place lexer)
    (result : lexer here.skipBlank = some found) (more : (place found).Gains next) :
    here.Gains next := by
  obtain ⟨passed, -, passes⟩ := lexes.passes result
  exact (closes_skipBlank here).gains (passes.gains more)

/-! ### Phrases -/

/-- A phrase ends behind whole tokens. Operators behind an operand and arguments need not be there. -/
def Phrase.Reaches (phrase : Phrase) (here next : Cursor) : Prop :=
  match phrase with
  | .more _ _ _ => here.Closes next
  | .args _ => here.Closes next
  | _ => here.Gains next

namespace Derives

variable {phrase : Phrase} {here next : Cursor}

/-- **Every phrase ends behind whole tokens.** -/
theorem reaches (derives : Derives phrase here next) : phrase.Reaches here next := by
  have skips := closes_skipBlank
  induction derives with
  | plain first alone ih => exact Gains.trans_closes ih (skips _)
  | guarded first guard second alone ih ih' =>
    exact Gains.trans_closes (Gains.closes ih |>.gains (ifWord.gains guard ih')) (skips _)
  | choice first guard second word third ih ih' ih'' =>
    have otherwise := elseWord.gains word ih''
    have guarded := ifWord.gains guard (Gains.closes ih' |>.gains otherwise)
    exact Gains.closes ih |>.gains guarded
  | not sign inner ih => exact negationSign.gains sign ih
  | positive noSign inner ih => exact (skips _).gains ih
  | minus sign inner ih => exact Lexes.character.gains sign ih
  | plus noMinus sign inner ih => exact Lexes.character.gains sign ih
  | unsigned noMinus noPlus inner ih => exact (skips _).gains ih
  | operand first more ih ih' => exact Gains.trans_closes ih ih'
  | field point named more ih =>
    exact (Lexes.character.gains point (gains_of_takeWhile named)).closes.trans ih
  | index noPoint bracket inside closed more ih ih' =>
    have inside := Gains.closes ih |>.gains (gains_of_expect rfl closed)
    exact (Lexes.character.gains bracket inside).closes.trans ih'
  | call noPoint noBracket bracket inside more ih ih' =>
    exact (Lexes.character.gains bracket ih).closes.trans ih'
  | filter noPoint noBracket noList pipe named listed more ih ih' =>
    have named := pipeSign.gains pipe (gains_of_identifier named)
    exact (named.closes.trans ih).trans ih'
  | binary isBinary first more ih ih' => exact Gains.trans_closes ih ih'
  | operator loose sign second more ih ih' =>
    exact ((Lexes.operator? _).gains sign ih).closes.trans ih'
  | tested noSign word test more ih ih' => exact (isWord.gains word ih).closes.trans ih'
  | member noSign noTest words second more ih ih' =>
    rcases Lexes.membership?_eq_some_iff.mp words with ⟨taken, -⟩ | ⟨behind, -, taken, taken', -⟩
    · exact (Lexes.inWord.gains taken ih).closes.trans ih'
    · exact (Lexes.notWord.gains taken (Lexes.inWord.gains taken' ih)).closes.trans ih'
  | stop loose stops => exact skips _
  | named negation known listed ih =>
    have known := (closes_of_passesNot negation).gains (gains_of_testName? known)
    exact known.trans_closes ih
  | compared negation unknown second ih => exact (closes_of_passesNot negation).gains ih
  | noArgs noList => exact skips _
  | args bracket inside ih => exact (Lexes.character.gains bracket ih).closes
  | nil closes closed => exact gains_of_character (joins_of_closesBracket closes) closed
  | cons closes opened first comma rest ih ih' =>
    have item := (skips _).gains ih
    exact item.closes.gains (Lexes.character.gains comma ih')
  | last closes opened first noComma closed ih =>
    have item := (skips _).gains ih
    exact item.closes.gains ((skips _).gains (gains_of_expect closes closed))
  | number begins digit => exact (skips _).gains (gains_number begins digit)
  | quoted begins quotes read => exact (skips _).gains (gains_quoted begins quotes read)
  | array bracket inside ih => exact Lexes.character.gains bracket ih
  | parentheses bracket inside closed ih =>
    exact Lexes.character.gains bracket (Gains.closes ih |>.gains (gains_of_expect rfl closed))
  | name named => exact (skips _).gains (gains_of_identifier named)

/-- A phrase ends behind whole tokens, or it passes nothing. -/
theorem closes (derives : Derives phrase here next) : here.Closes next := by
  have reaches := derives.reaches
  cases phrase with
  | more level left expr => exact reaches
  | args exprs => exact reaches
  | _ => exact Gains.closes reaches

end Derives

/-! ### Expressions in front of what is left over -/

/-- **What is passed as an expression is accepted by itself.** -/
theorem parseExpr_passed {text passed : Text} {expr : Expr} {next : Cursor}
    (derives : Derives (.level .conditional expr) (Cursor.ofText text) next)
    (passes : (Cursor.ofText text).Passes passed next.skipBlank) : parseExpr passed = .ok expr := by
  obtain ⟨passed', passes', unjoined⟩ := derives.closes.trans (closes_skipBlank next)
  obtain rfl : passed = passed' := List.append_cancel_right (passes.rest.symm.trans passes'.rest)
  have parts : (Cursor.ofText text).Parts (Cursor.ofText passed) next.skipBlank.rest :=
    ⟨Cursor.At.of_rest passes.rest, unjoined⟩
  have same : next.rest.trimStart = Text.trimStart next.skipBlank.rest :=
    (Text.trimStart_trimStart next.rest).symm
  have inside : (Text.trimStart next.skipBlank.rest).length ≤ next.rest.length := by
    rw [← same]
    exact Text.length_trimStart_le next.rest
  obtain ⟨next', derives', parts'⟩ := derives.front parts inside
  exact parseExpr_eq_ok_iff.mpr ⟨next', derives', parts'.ends same⟩

end TextTemplate
