/-
**Depths of the parser.**

The parser is given a depth, and it fails where the calls are nested deeper. Twelve calls for each
character are enough, and a few for the phrase itself; so the parser reads just what the grammar
derives.

* `Phrase.depthAt`: a depth that is enough for a phrase at a cursor;
* `Derives.readWithin`: **what is derived is read within every depth that is enough** for the text;
* `parseLevel_eq_ok_iff`, `parseExpr_eq_ok_iff`: **the expressions of the parser are those of the
  grammar.**
-/

import TextTemplate.Proofs.Expressions.Derivations
import TextTemplate.Proofs.Expressions.Printer

namespace TextTemplate

/-! ### How deep the calls of a phrase go -/

/-- How many calls a phrase takes, apart from twelve for each character. -/
def Phrase.rank : Phrase → Nat
  | .level kind _ => kind.looseness + 2
  | .more _ _ _ => 1
  | .test _ _ => 6
  | .args _ => 1
  | .list _ _ => 11
  | .operand _ => 1

theorem Phrase.rank_pos (phrase : Phrase) : 0 < phrase.rank := by
  cases phrase <;> simp [rank]

theorem Phrase.rank_le (phrase : Phrase) : phrase.rank ≤ 11 := by
  cases phrase with
  | level kind expr => cases kind <;> simp [rank, Level.looseness]
  | _ => simp [rank]

/-- A depth that is enough for a phrase at a cursor. -/
def Phrase.depthAt (phrase : Phrase) (here : Cursor) : Nat :=
  12 * here.rest.length + phrase.rank

/-! ### What is derived is read -/

namespace Derives

variable {phrase : Phrase} {here between next : Cursor} {depth : Nat}

section Enough

variable {other : Phrase} {next' : Cursor}
  (reads : ∀ {depth}, other.depthAt between ≤ depth + 1 →
    other.ReadWithin (depth + 1) between next')

include reads

/-- It is enough to look at what a function does with a call left for the others. -/
theorem read_of_enough (enough : other.depthAt between ≤ depth) :
    other.ReadWithin depth between next' := by
  cases depth with
  | zero =>
    have positive := other.rank_pos
    rw [Phrase.depthAt] at enough
    omega
  | succ depth => exact reads enough

/-- What has passed something has calls left for any other phrase. -/
theorem read_of_shorter (shorter : between.rest.length < here.rest.length)
    (enough : phrase.depthAt here ≤ depth + 1) : other.ReadWithin depth between next' := by
  refine read_of_enough reads ?_
  have low := other.rank_le
  have positive := phrase.rank_pos
  simp only [Phrase.depthAt] at enough ⊢
  omega

/-- What has passed nothing has calls left for a phrase of a lower rank. -/
theorem read_of_rank (shorter : between.rest.length ≤ here.rest.length)
    (lower : other.rank < phrase.rank) (enough : phrase.depthAt here ≤ depth + 1) :
    other.ReadWithin depth between next' := by
  refine read_of_enough reads ?_
  simp only [Phrase.depthAt] at enough ⊢
  omega

end Enough

/-- What is derived is read with one call more than the calls inside of it take. -/
theorem readWithin_succ (derives : Derives phrase here next)
    (enough : phrase.depthAt here ≤ depth + 1) : phrase.ReadWithin (depth + 1) here next := by
  induction derives generalizing depth with
  | plain first alone ih =>
    exact .plain (read_of_rank ih (Nat.le_refl _) (Nat.lt_succ_self _) enough) alone
  | guarded first guard second alone ih ih' =>
    have passed := (ifWord.advances_of_skipBlank guard).trans_le first.shorter
    have first := read_of_rank ih (Nat.le_refl _) (Nat.lt_succ_self _) enough
    exact .guarded first guard (read_of_shorter ih' passed enough) alone
  | choice first guard second word third ih ih' ih'' =>
    have passed := (ifWord.advances_of_skipBlank guard).trans_le first.shorter
    have passed' := (elseWord.advances_of_skipBlank word).trans (second.shorter.trans_lt passed)
    have first := read_of_rank ih (Nat.le_refl _) (Nat.lt_succ_self _) enough
    have second := read_of_shorter ih' passed enough
    exact .choice first guard second word (read_of_shorter ih'' passed' enough)
  | not sign inner ih =>
    exact .not sign (read_of_shorter ih (negationSign.advances_of_skipBlank sign) enough)
  | positive noSign inner ih =>
    exact .positive noSign (read_of_rank ih (length_skipBlank_le _) (Nat.lt_succ_self _) enough)
  | minus sign inner ih => exact .minus sign (read_of_shorter ih (length_of_character sign) enough)
  | plus noMinus sign inner ih =>
    exact .plus noMinus sign (read_of_shorter ih (length_of_character sign) enough)
  | unsigned noMinus noPlus inner ih =>
    have inner := read_of_rank ih (length_skipBlank_le _) (Nat.lt_succ_self _) enough
    exact .unsigned noMinus noPlus inner
  | operand first more ih ih' =>
    have more := read_of_rank ih' first.shorter (Nat.lt_succ_self _) enough
    exact .operand (read_of_rank ih (Nat.le_refl _) (Nat.lt_succ_self _) enough) more
  | field point named more ih =>
    have passed := (Cursor.length_of_takeWhile named).trans_lt (length_of_character point)
    exact .field point named (read_of_shorter ih passed enough)
  | index noPoint bracket inside closed more ih ih' =>
    have opened := length_of_character bracket
    have passed := ((Cursor.length_of_expect closed).le.trans inside.shorter).trans_lt opened
    have inside := read_of_shorter ih opened enough
    exact .index noPoint bracket inside closed (read_of_shorter ih' passed enough)
  | call noPoint noBracket bracket inside more ih ih' =>
    have opened := length_of_character bracket
    have more := read_of_shorter ih' (inside.shorter.trans_lt opened) enough
    exact .call noPoint noBracket bracket (read_of_shorter ih opened enough) more
  | filter noPoint noBracket noList pipe named listed more ih ih' =>
    have passed := (Cursor.length_of_identifier named).le.trans (length_skipBlank_le _)
    have passed := passed.trans_lt (pipeSign.advances_of_skipBlank pipe)
    have more := read_of_shorter ih' (listed.shorter.trans_lt passed) enough
    exact .filter noPoint noBracket noList pipe named (read_of_shorter ih passed enough) more
  | @binary level _ _ _ _ _ isBinary first more ih ih' =>
    have tighter : level.tighter.looseness < level.looseness := by
      cases level <;> first | decide | contradiction
    have lower (left right : Expr) :
        (Phrase.level level.tighter left).rank < (Phrase.level level right).rank :=
      Nat.add_lt_add_right tighter 2
    have more := read_of_rank ih' first.shorter (by simp [Phrase.rank]) enough
    exact .binary isBinary (read_of_rank ih (Nat.le_refl _) (lower _ _) enough) more
  | operator loose sign second more ih ih' =>
    have passed := (Lexes.operator? _).advances_of_skipBlank sign
    have more := read_of_shorter ih' (second.shorter.trans_lt passed) enough
    exact .operator loose sign (read_of_shorter ih passed enough) more
  | tested noSign word test more ih ih' =>
    have passed := isWord.advances_of_skipBlank word
    have more := read_of_shorter ih' (test.shorter.trans_lt passed) enough
    exact .tested noSign word (read_of_shorter ih passed enough) more
  | member noSign noTest words second more ih ih' =>
    have passed := (Lexes.advances_of_membership? words).trans_le (length_skipBlank_le _)
    have more := read_of_shorter ih' (second.shorter.trans_lt passed) enough
    exact .member noSign noTest words (read_of_shorter ih passed enough) more
  | stop loose stops => exact .stop loose stops
  | named negation known listed ih =>
    have passed := (Lexes.testName?.advances known).trans_le (length_of_passesNot negation)
    exact .named negation known (read_of_shorter ih passed enough)
  | compared negation unknown second ih =>
    have second := read_of_rank ih (length_of_passesNot negation) (Nat.lt_succ_self _) enough
    exact .compared negation unknown second
  | noArgs noList => exact .noArgs noList
  | args bracket inside ih =>
    exact .args bracket (read_of_shorter ih (length_of_character bracket) enough)
  | nil closes closed => exact .nil closed
  | cons closes opened first comma rest ih ih' =>
    have reached := first.shorter.trans (length_skipBlank_le _)
    have passed := (length_of_character comma).trans_le reached
    have first := read_of_rank ih (length_skipBlank_le _) (Nat.lt_succ_self _) enough
    exact .cons opened first comma (read_of_shorter ih' passed enough)
  | last closes opened first noComma closed ih =>
    have first := read_of_rank ih (length_skipBlank_le _) (Nat.lt_succ_self _) enough
    exact .last opened first noComma closed
  | number begins digit => exact .number begins digit
  | quoted begins quotes read => exact .quoted begins quotes read
  | array bracket inside ih =>
    exact .array bracket (read_of_shorter ih (length_of_character bracket) enough)
  | parentheses bracket inside closed ih =>
    exact .parentheses bracket (read_of_shorter ih (length_of_character bracket) enough) closed
  | name named => exact .name named

/-- **What is derived is read within every depth that is enough.** -/
theorem readWithin (derives : Derives phrase here next) (enough : phrase.depthAt here ≤ depth) :
    phrase.ReadWithin depth here next :=
  read_of_enough (readWithin_succ derives) enough

end Derives

/-! ### Whole expressions -/

/-- **The expressions of a level are those of the grammar**, within every depth that is enough. -/
theorem parseLevel_eq_ok_iff {level : Level} {expr : Expr} {here next : Cursor} {depth : Nat}
    (enough : 12 * here.rest.length + (level.looseness + 2) ≤ depth) :
    parseLevel depth level here = .ok (expr, next) ↔ Derives (.level level expr) here next :=
  ⟨fun ok => (parserDerives depth).level ok, fun derives => derives.readWithin enough⟩

/-- Within all depths in which it reads something, the parser reads the same. -/
theorem parseLevel_unique {level : Level} {here : Cursor} {depth depth' : Nat}
    {found found' : Expr × Cursor} (ok : parseLevel depth level here = .ok found)
    (ok' : parseLevel depth' level here = .ok found') : found = found' := by
  have read {depth : Nat} {found : Expr × Cursor} (ok : parseLevel depth level here = .ok found) :
      parseLevel (12 * here.rest.length + (level.looseness + 2)) level here = .ok found :=
    (parseLevel_eq_ok_iff (Nat.le_refl _)).mpr ((parserDerives depth).level ok)
  exact Except.ok.inj ((read ok).symm.trans (read ok'))

/-- **The depth for a text is enough to read the text.** -/
theorem le_parseDepth (text : Text) :
    12 * (Cursor.ofText text).rest.length + (Level.conditional.looseness + 2) ≤ parseDepth text := by
  simp only [parseDepth, Level.looseness, Cursor.ofText]
  omega

/-- **A text is an expression just if the grammar derives it** up to blanks at its end. -/
theorem parseExpr_eq_ok_iff {text : Text} {expr : Expr} : parseExpr text = .ok expr ↔
    ∃ next, Derives (.level .conditional expr) (Cursor.ofText text) next ∧
      next.skipBlank.rest = [] := by
  constructor
  · intro ok
    obtain ⟨⟨expr', next⟩, read, ok⟩ := exists_of_bind_eq_ok ok
    simp only at ok
    split at ok
    · rename_i ended
      cases ok
      exact ⟨next, (parseLevel_eq_ok_iff (le_parseDepth text)).mp read, List.isEmpty_iff.mp ended⟩
    · cases ok
  · rintro ⟨next, derives, ended⟩
    show (parseLevel (parseDepth text) .conditional (Cursor.ofText text) >>= _) = _
    rw [(parseLevel_eq_ok_iff (le_parseDepth text)).mpr derives]
    exact if_pos (List.isEmpty_iff.mpr ended)

end TextTemplate
