/-
**Fronts of expressions.**

An expression is read without what stands behind it: where the text is cut at a place that a phrase
does not reach beyond, and no token reaches over it, the phrase is derived in the front part as well.

* `Cursor.Parts.stops`, `Cursor.Parts.first`, …: what stands at a cursor stands there without the tail;
* `Derives.front`: **a phrase that does not reach into a tail is derived without it**.
-/

import TextTemplate.Proofs.Expressions.Derivations

namespace TextTemplate

open ParsesTest (PassesNot)

/-! ### Texts in two parts -/

namespace Cursor.Parts

variable {whole front next next' between : Cursor} {tail : Text} {level : Level} {negated : Bool}

theorem skipBlank (parts : whole.Parts front tail) : whole.skipBlank.Parts front.skipBlank tail := by
  have unjoined := parts.unjoined
  rw [(Passes.skipBlank front).rest] at unjoined
  refine ⟨?_, unjoined.of_append⟩
  show whole.skipBlank.rest.trimStart = Text.trimStart (front.rest.trimStart ++ tail)
  rw [Text.trimStart_trimStart_append, parts.stands.rest_skipBlank, Text.trimStart_trimStart]

/-- Where no operator of a level begins, none begins without the tail. -/
theorem stops (parts : whole.Parts front tail) (loose : level ≠ .conditional)
    (stops : whole.skipBlank.stops level = true) : front.skipBlank.stops level = true := by
  have missing {α β : Type} {token : β → α} {place : β → Cursor} {lexer : Cursor → Option β}
      (lexes : Lexes token place lexer) (missing : lexer whole.skipBlank = none) :
      lexer front.skipBlank = none := lexes.missing_front parts missing
  cases level with
  | conditional => contradiction
  | operand =>
    simp only [Cursor.stops, Bool.and_eq_true, Option.isNone_iff_eq_none] at stops ⊢
    obtain ⟨⟨⟨point, bracket⟩, parenthesis⟩, pipe⟩ := stops
    exact ⟨⟨⟨missing Lexes.character point, missing Lexes.character bracket⟩,
      missing Lexes.character parenthesis⟩, missing Derives.pipeSign pipe⟩
  | comparison =>
    simp only [Cursor.stops, Bool.and_eq_true, Option.isNone_iff_eq_none] at stops ⊢
    obtain ⟨⟨sign, test⟩, member⟩ := stops
    exact ⟨⟨missing (Lexes.operator? _) sign, missing Derives.isWord test⟩,
      Lexes.membership?_missing_front parts member⟩
  | negation => rfl
  | sign => rfl
  | _ =>
    exact Option.isNone_iff_eq_none.mpr
      (missing (Lexes.operator? _) (Option.isNone_iff_eq_none.mp stops))

/-- The first character of what does not begin in the tail. -/
theorem first {c : Char} {rest : Text} (parts : whole.Parts front tail)
    (begins : whole.skipBlank.rest = c :: rest) (inside : tail.trimStart.length ≤ rest.length) :
    ∃ rest', front.skipBlank.rest = c :: rest' ∧ whole.skipBlank.Splits front.skipBlank tail := by
  rcases Lexes.skipBlank_cases parts with ⟨-, behind⟩ | ⟨filled, splits⟩
  · rw [← behind, begins, List.length_cons] at inside
    omega
  · obtain ⟨d, rest', front_eq⟩ := List.exists_cons_of_ne_nil filled
    have rest_eq := splits.rest
    rw [begins, front_eq] at rest_eq
    obtain ⟨rfl, -⟩ := List.cons.inj rest_eq
    exact ⟨rest', front_eq, splits⟩

/-- The `not` that may stand before a test. -/
theorem passesNot (parts : whole.Parts front tail)
    (negation : PassesNot whole.skipBlank negated between)
    (inside : tail.trimStart.length ≤ between.rest.length) :
    ∃ between', PassesNot front.skipBlank negated between' ∧ between.Parts between' tail ∧
      between.skipBlank = between ∧ between'.skipBlank = between' := by
  rcases negation with ⟨word, rfl, rfl⟩ | ⟨next, word, rfl, rfl⟩
  · refine ⟨front.skipBlank, .inl ⟨Lexes.notWord.missing_front parts word, rfl, rfl⟩,
      parts.skipBlank, skipBlank_skipBlank whole, skipBlank_skipBlank front⟩
  · have inside := inside.trans (Derives.length_skipBlank_le next)
    obtain ⟨next', word', -, splits⟩ := Lexes.notWord.found_front parts word inside
    exact ⟨next'.skipBlank, .inr ⟨next', word', rfl, rfl⟩, splits.parts.skipBlank,
      skipBlank_skipBlank next, skipBlank_skipBlank next'⟩

/-- Where a tail begins behind blanks, nothing is left of the front. -/
theorem ends (parts : next.Parts next' tail) (same : next.rest.trimStart = tail.trimStart) :
    next'.skipBlank.rest = [] := by
  by_contra visible
  have whole : next.rest.trimStart = next'.rest.trimStart ++ tail :=
    parts.stands.rest_skipBlank.trans (Text.trimStart_append_of_ne_nil visible)
  have filled : 0 < next'.rest.trimStart.length := List.length_pos_iff.mpr visible
  have length_eq := congrArg List.length (same.symm.trans whole)
  have shorter := Text.length_trimStart_le tail
  rw [List.length_append] at length_eq
  omega

end Cursor.Parts

/-! ### Phrases in front of a tail -/

namespace Derives

variable {phrase : Phrase} {whole next : Cursor} {tail : Text}

/-- **A phrase that does not reach into a tail is derived without it.** -/
theorem front (derives : Derives phrase whole next) {front : Cursor}
    (parts : whole.Parts front tail) (inside : tail.trimStart.length ≤ next.rest.length) :
    ∃ next', Derives phrase front next' ∧ next.Parts next' tail := by
  induction derives generalizing front with
  | plain first alone ih =>
    obtain ⟨behind, first, parts⟩ := ih parts (inside.trans (length_skipBlank_le _))
    exact ⟨behind.skipBlank, .plain first (ifWord.missing_front parts alone),
      parts.skipBlank⟩
  | guarded first guard second alone ih ih' =>
    have inside := inside.trans (length_skipBlank_le _)
    have inside' := inside.trans second.shorter
    have inside'' := inside'.trans (ifWord.advances_of_skipBlank guard).le
    obtain ⟨behind, first, parts⟩ := ih parts inside''
    obtain ⟨between, guard, -, splits⟩ := ifWord.found_front parts guard inside'
    obtain ⟨behind', second, parts⟩ := ih' splits.parts inside
    exact ⟨behind'.skipBlank,
      .guarded first guard second (elseWord.missing_front parts alone), parts.skipBlank⟩
  | choice first guard second word third ih ih' ih'' =>
    have inside' := inside.trans third.shorter
    have inside'' := inside'.trans (elseWord.advances_of_skipBlank word).le
    have insideFirst := inside''.trans second.shorter
    have passed := (ifWord.advances_of_skipBlank guard).le
    obtain ⟨behind, first, parts⟩ := ih parts (insideFirst.trans passed)
    obtain ⟨between, guard, -, splits⟩ := ifWord.found_front parts guard insideFirst
    obtain ⟨behind', second, parts⟩ := ih' splits.parts inside''
    obtain ⟨between', word, -, splits⟩ := elseWord.found_front parts word inside'
    obtain ⟨next', third, parts⟩ := ih'' splits.parts inside
    exact ⟨next', .choice first guard second word third, parts⟩
  | not sign inner ih =>
    obtain ⟨between, sign, -, splits⟩ :=
      negationSign.found_front parts sign (inside.trans inner.shorter)
    obtain ⟨next', inner, parts⟩ := ih splits.parts inside
    exact ⟨next', .not sign inner, parts⟩
  | positive noSign inner ih =>
    obtain ⟨next', inner, parts'⟩ := ih parts.skipBlank inside
    exact ⟨next', .positive (negationSign.missing_front parts noSign) inner, parts'⟩
  | minus sign inner ih =>
    obtain ⟨between, sign, -, splits⟩ :=
      Lexes.character.found_front parts sign (inside.trans inner.shorter)
    obtain ⟨next', inner, parts⟩ := ih splits.parts inside
    exact ⟨next', .minus sign inner, parts⟩
  | plus noMinus sign inner ih =>
    have noMinus := Lexes.character.missing_front parts noMinus
    obtain ⟨between, sign, -, splits⟩ :=
      Lexes.character.found_front parts sign (inside.trans inner.shorter)
    obtain ⟨next', inner, parts⟩ := ih splits.parts inside
    exact ⟨next', .plus noMinus sign inner, parts⟩
  | unsigned noMinus noPlus inner ih =>
    have noMinus := Lexes.character.missing_front parts noMinus
    have noPlus := Lexes.character.missing_front parts noPlus
    obtain ⟨next', inner, parts'⟩ := ih parts.skipBlank inside
    exact ⟨next', .unsigned noMinus noPlus inner, parts'⟩
  | operand first more ih ih' =>
    obtain ⟨between, first, parts⟩ := ih parts (inside.trans more.shorter)
    obtain ⟨next', more, parts⟩ := ih' parts inside
    exact ⟨next', .operand first more, parts⟩
  | field point named more ih =>
    have passed := Cursor.length_of_takeWhile named
    obtain ⟨between', point, -, splits⟩ :=
      Lexes.character.found_front parts point ((inside.trans more.shorter).trans passed)
    obtain ⟨behind', named, splits⟩ := Cursor.takeWhile_front splits named (inside.trans more.shorter)
    obtain ⟨next', more, parts⟩ := ih splits.parts inside
    exact ⟨next', .field point named more, parts⟩
  | index noPoint bracket within closed more ih ih' =>
    have inside' := inside.trans more.shorter
    have inside'' := inside'.trans (Cursor.length_of_expect closed).le
    have noPoint := Lexes.character.missing_front parts noPoint
    obtain ⟨between, bracket, -, splits⟩ :=
      Lexes.character.found_front parts bracket (inside''.trans within.shorter)
    obtain ⟨behind, within, parts⟩ := ih splits.parts inside''
    obtain ⟨behind', closed, splits⟩ := Cursor.expect_front parts closed inside'
    obtain ⟨next', more, parts⟩ := ih' splits.parts inside
    exact ⟨next', .index noPoint bracket within closed more, parts⟩
  | call noPoint noBracket bracket within more ih ih' =>
    have inside' := inside.trans more.shorter
    have noPoint := Lexes.character.missing_front parts noPoint
    have noBracket := Lexes.character.missing_front parts noBracket
    obtain ⟨between, bracket, -, splits⟩ :=
      Lexes.character.found_front parts bracket (inside'.trans within.shorter)
    obtain ⟨behind, within, parts⟩ := ih splits.parts inside'
    obtain ⟨next', more, parts⟩ := ih' parts inside
    exact ⟨next', .call noPoint noBracket bracket within more, parts⟩
  | filter noPoint noBracket noList pipe named listed more ih ih' =>
    have inside' := inside.trans more.shorter
    have inside'' := inside'.trans listed.shorter
    have insideFirst := inside''.trans
      ((Cursor.length_of_identifier named).le.trans (length_skipBlank_le _))
    have noPoint := Lexes.character.missing_front parts noPoint
    have noBracket := Lexes.character.missing_front parts noBracket
    have noList := Lexes.character.missing_front parts noList
    obtain ⟨between, pipe, -, splits⟩ := pipeSign.found_front parts pipe insideFirst
    obtain ⟨behind, named, splits⟩ := Cursor.identifier_front splits.parts named inside''
    obtain ⟨behind', listed, parts⟩ := ih splits.parts inside'
    obtain ⟨next', more, parts⟩ := ih' parts inside
    exact ⟨next', .filter noPoint noBracket noList pipe named listed more, parts⟩
  | binary isBinary first more ih ih' =>
    obtain ⟨between, first, parts⟩ := ih parts (inside.trans more.shorter)
    obtain ⟨next', more, parts⟩ := ih' parts inside
    exact ⟨next', .binary isBinary first more, parts⟩
  | operator loose sign second more ih ih' =>
    have inside' := inside.trans more.shorter
    obtain ⟨⟨make', between⟩, sign, marked, splits⟩ :=
      (Lexes.operator? _).found_front parts sign (inside'.trans second.shorter)
    cases marked
    obtain ⟨behind, second, parts⟩ := ih splits.parts inside'
    obtain ⟨next', more, parts⟩ := ih' parts inside
    exact ⟨next', .operator loose sign second more, parts⟩
  | tested noSign word test more ih ih' =>
    have inside' := inside.trans more.shorter
    have noSign := (Lexes.operator? _).missing_front parts noSign
    obtain ⟨between, word, -, splits⟩ :=
      isWord.found_front parts word (inside'.trans test.shorter)
    obtain ⟨behind, test, parts⟩ := ih splits.parts inside'
    obtain ⟨next', more, parts⟩ := ih' parts inside
    exact ⟨next', .tested noSign word test more, parts⟩
  | member noSign noTest words second more ih ih' =>
    have inside' := inside.trans more.shorter
    have noSign := (Lexes.operator? _).missing_front parts noSign
    have noTest := isWord.missing_front parts noTest
    obtain ⟨between, words, splits⟩ :=
      Lexes.membership?_front parts words (inside'.trans second.shorter)
    obtain ⟨behind, second, parts⟩ := ih splits.parts inside'
    obtain ⟨next', more, parts⟩ := ih' parts inside
    exact ⟨next', .member noSign noTest words second more, parts⟩
  | stop loose stops =>
    exact ⟨front.skipBlank, .stop loose (parts.stops loose stops), parts.skipBlank⟩
  | named negation known listed ih =>
    have inside' := inside.trans listed.shorter
    obtain ⟨between', negation', parts, same, same'⟩ :=
      parts.passesNot negation (inside'.trans (Lexes.testName?.advances known).le)
    rw [← same] at known
    obtain ⟨⟨name', behind⟩, known', marked, splits⟩ :=
      Lexes.testName?.found_front parts known inside'
    cases marked
    rw [same'] at known'
    obtain ⟨next', listed, parts⟩ := ih splits.parts inside
    exact ⟨next', .named negation' known' listed, parts⟩
  | compared negation unknown second ih =>
    obtain ⟨between', negation', parts, same, same'⟩ :=
      parts.passesNot negation (inside.trans second.shorter)
    rw [← same] at unknown
    have unknown := Lexes.testName?.missing_front parts unknown
    rw [same'] at unknown
    obtain ⟨next', second, parts⟩ := ih parts inside
    exact ⟨next', .compared negation' unknown second, parts⟩
  | noArgs noList =>
    exact ⟨front.skipBlank, .noArgs (Lexes.character.missing_front parts noList),
      parts.skipBlank⟩
  | args bracket within ih =>
    obtain ⟨between, bracket, -, splits⟩ :=
      Lexes.character.found_front parts bracket (inside.trans within.shorter)
    obtain ⟨next', within, parts⟩ := ih splits.parts inside
    exact ⟨next', .args bracket within, parts⟩
  | nil closes closed =>
    obtain ⟨next', closed, -, splits⟩ :=
      Lexes.character.found_front parts closed inside
    exact ⟨next', .nil closes closed, splits.parts⟩
  | cons closes opened first comma rest ih ih' =>
    have inside' := inside.trans rest.shorter
    have opened := Lexes.character.missing_front parts opened
    obtain ⟨between, first, parts⟩ :=
      ih parts.skipBlank (inside'.trans (length_of_character comma).le)
    obtain ⟨behind, comma, -, splits⟩ := Lexes.character.found_front parts comma inside'
    obtain ⟨next', rest, parts⟩ := ih' splits.parts inside
    exact ⟨next', .cons closes opened first comma rest, parts⟩
  | last closes opened first noComma closed ih =>
    have inside' := inside.trans ((Cursor.length_of_expect closed).le.trans (length_skipBlank_le _))
    have opened := Lexes.character.missing_front parts opened
    obtain ⟨between, first, parts⟩ := ih parts.skipBlank inside'
    have noComma := Lexes.character.missing_front parts noComma
    obtain ⟨next', closed, splits⟩ :=
      Cursor.expect_front parts.skipBlank closed inside
    exact ⟨next', .last closes opened first noComma closed, splits.parts⟩
  | @number here c rest begins digit =>
    have passed := length_of_parseNumber_cons begins digit
    obtain ⟨rest', begins', splits⟩ := parts.first begins (inside.trans passed)
    obtain ⟨same, splits⟩ := parseNumber_front begins digit splits inside
    rw [same]
    exact ⟨(parseNumber front.skipBlank).2, .number begins' digit, splits.parts⟩
  | @quoted here quote rest text next begins quotes read =>
    have visible : Text.isBlank quote = false := by
      rcases quotes with rfl | rfl <;> rfl
    obtain ⟨rest', begins', splits⟩ := parts.first begins (inside.trans (length_of_parseQuoted read).le)
    obtain ⟨next', read', splits⟩ := parseQuoted_front visible read
      (splits.step begins begins' _ (front.skipBlank.position.step quote)) inside
    exact ⟨next', .quoted begins' quotes read', splits.parts⟩
  | array bracket within ih =>
    obtain ⟨between, bracket, -, splits⟩ :=
      Lexes.character.found_front parts bracket (inside.trans within.shorter)
    obtain ⟨next', within, parts⟩ := ih splits.parts inside
    exact ⟨next', .array bracket within, parts⟩
  | parentheses bracket within closed ih =>
    have inside' := inside.trans (Cursor.length_of_expect closed).le
    obtain ⟨between, bracket, -, splits⟩ :=
      Lexes.character.found_front parts bracket (inside'.trans within.shorter)
    obtain ⟨behind, within, parts⟩ := ih splits.parts inside'
    obtain ⟨next', closed, splits⟩ := Cursor.expect_front parts closed inside
    exact ⟨next', .parentheses bracket within closed, splits.parts⟩
  | name named =>
    obtain ⟨next', named, splits⟩ := Cursor.identifier_front parts.skipBlank named inside
    exact ⟨next', .name named, splits.parts⟩

end Derives

end TextTemplate
