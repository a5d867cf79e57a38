/-
**Characters that are foreign to expressions.**

The words and the signs of the grammar are ASCII, and so are the names. Any other character that is not
blank stands in quoted texts only: outside of them an expression ends in front of it.

* `Foreign`: a character that is neither ASCII nor blank;
* `Phrase.StopsAt`: what the parser reads ends in front of a text, and no operand begins there;
* `Derives.stopsAt`: **what the parser reads ends in front of a foreign character**;
* `parseExpr_ne_ok_of_foreign`: **a text with a foreign character behind a name is no expression**.
-/

import TextTemplate.Proofs.Expressions.Depth
import TextTemplate.Proofs.Expressions.RoundTrip
import TextTemplate.Proofs.Expressions.Words

namespace TextTemplate

/-- **A character that no word and no sign of the grammar has**, and that is not blank. -/
structure Foreign (c : Char) : Prop where
  beyond : 0x80 ≤ c.toNat
  visible : Text.isBlank c = false

/-- Whether a text begins with an ASCII character. -/
def beginsAscii (text : Text) : Bool :=
  text.head?.any fun c => c.toNat < 0x80

/-! ### No token begins with a foreign character -/

theorem rest_skipBlank_of_visible {here : Cursor} {c : Char} {rest : Text}
    (begins : here.rest = c :: rest) (visible : Text.isBlank c = false) :
    here.skipBlank.rest = c :: rest := by
  show here.rest.trimStart = c :: rest
  rw [begins, Text.trimStart_of_not_isBlank visible]

namespace Foreign

variable {c : Char} {rest : Text} {here : Cursor} (foreign : Foreign c)

include foreign

theorem not_continuesName : continuesName c = false := by
  by_contra continues
  have code := asciiCode_of_continuesName (eq_true_of_ne_false continues)
  have beyond := foreign.beyond
  omega

theorem ne_of_ascii {d : Char} (ascii : d.toNat < 0x80) : d ≠ c := by
  rintro rfl
  exact absurd foreign.beyond (Nat.not_le.mpr ascii)

variable (begins : here.rest = c :: rest)

include begins

theorem take? {word : Text} (ascii : beginsAscii word = true) : here.take? word = none := by
  cases taken : here.take? word with
  | none => rfl
  | some next =>
    cases word with
    | nil => cases ascii
    | cons d word =>
      have same := begins.symm.trans (Cursor.rest_of_take? taken)
      exact absurd (List.cons.inj same).1.symm (foreign.ne_of_ascii (of_decide_eq_true ascii))

theorem keyword? {word : Text} (ascii : beginsAscii word = true) : here.keyword? word = none := by
  rw [Cursor.keyword?, foreign.take? begins ascii]

theorem symbol? {sign : Text} {longer : Char} (ascii : beginsAscii sign = true) :
    here.symbol? sign longer = none := by
  rw [Cursor.symbol?, foreign.take? begins ascii]

theorem firstSign? {α : Type} {signs : List (Text × α)}
    (ascii : ∀ sign ∈ signs, beginsAscii sign.1 = true) : firstSign? signs here = none := by
  refine List.findSome?_eq_none_iff.mpr fun sign member => ?_
  exact Option.map_eq_none_iff.mpr (foreign.take? begins (ascii sign member))

theorem operator? (level : Level) : operator? level here = none := by
  cases level with
  | disjunction =>
    rw [TextTemplate.operator?, foreign.keyword? begins (by decide), foreign.take? begins (by decide)]
    rfl
  | conjunction =>
    rw [TextTemplate.operator?, foreign.keyword? begins (by decide), foreign.take? begins (by decide)]
    rfl
  | comparison => exact foreign.firstSign? begins (by decide)
  | sum => exact foreign.firstSign? begins (by decide)
  | product => exact foreign.firstSign? begins (by decide)
  | _ => rfl

theorem membership? : membership? here = none := by
  rw [TextTemplate.membership?, foreign.keyword? begins (by decide),
    foreign.keyword? begins (by decide)]

end Foreign

/-! ### Where a name stands, no sign does -/

section Names

variable {name text : Text} {here : Cursor} (valid : IsName name) (begins : here.rest = name ++ text)

include valid begins

theorem IsName.exists_cons : ∃ d rest, here.rest = d :: rest ∧ beginsName d = true := by
  obtain ⟨d, first, head⟩ := valid.first
  obtain ⟨name', rfl⟩ := List.head?_eq_some_iff.mp first
  exact ⟨d, name' ++ text, begins, head⟩

theorem IsName.rest_skipBlank : here.skipBlank.rest = name ++ text := by
  show here.rest.trimStart = name ++ text
  rw [begins, valid.trimStart_append]

theorem IsName.take? {d : Char} (sign : beginsName d = false) : here.take? [d] = none := by
  obtain ⟨d', rest, begins', head⟩ := valid.exists_cons begins
  refine Cursor.take?_of_head begins' ?_
  rintro rfl
  rw [head] at sign
  cases sign

end Names

/-! ### What the parser reads ends in front of a foreign character -/

/-- **What the parser reads ends in front of a text**: no operand begins there, none that begins with a
name in front of it goes on, and neither does what follows an operand. -/
def Phrase.StopsAt (text : Text) (phrase : Phrase) (here next : Cursor) : Prop :=
  match phrase with
  | .level _ _ | .operand _ => here.rest ≠ text ∧
      ∀ name, IsName name → here.rest = name ++ text → next.rest = text
  | .more _ _ _ => here.rest = text → next.rest = text
  | .test _ _ | .args _ | .list _ _ => True

section StopsAt

variable {c : Char} {rest : Text} (foreign : Foreign c)

include foreign

/-- **What begins with another character that begins no name** begins neither with the foreign character
nor with a name. -/
theorem Foreign.stopsAt_of_first {d : Char} {tail : Text} {here : Cursor} (other : d ≠ c)
    (noName : beginsName d = false) (begins : here.skipBlank.rest = d :: tail) {P : Text → Prop} :
    here.rest ≠ c :: rest ∧ ∀ name, IsName name → here.rest = name ++ c :: rest → P name := by
  refine ⟨fun begins' => ?_, fun name valid begins' => ?_⟩
  · rw [rest_skipBlank_of_visible begins' foreign.visible] at begins
    exact absurd (List.cons.inj begins).1.symm other
  · obtain ⟨d', rest', first, head⟩ := valid.exists_cons (valid.rest_skipBlank begins')
    cases first.symm.trans begins
    rw [head] at noName
    cases noName

/-- **What the parser reads ends in front of a foreign character.** -/
theorem Derives.stopsAt {phrase : Phrase} {here next : Cursor} (derives : Derives phrase here next) :
    phrase.StopsAt (c :: rest) here next := by
  have visible := foreign.visible
  have ends : EndsName (c :: rest) := fun d first => by
    cases first
    exact foreign.not_continuesName
  -- no operand begins with the character
  have blanks {here : Cursor} (begins : here.rest = c :: rest) :=
    rest_skipBlank_of_visible begins visible
  induction derives with
  | plain first alone ih =>
    exact ⟨ih.1, fun name valid begins => blanks (ih.2 name valid begins)⟩
  | guarded first guard second alone ih ih' =>
    refine ⟨ih.1, fun name valid begins => ?_⟩
    rw [foreign.keyword? (blanks (ih.2 name valid begins)) (by decide)] at guard
    cases guard
  | choice first guard second word third ih ih' ih'' =>
    refine ⟨ih.1, fun name valid begins => ?_⟩
    rw [foreign.keyword? (blanks (ih.2 name valid begins)) (by decide)] at guard
    cases guard
  | @not _ here between _ sign inner ih =>
    rw [Option.orElse_eq_orElse, Option.orElse_eq_or, Option.or_eq_some_iff] at sign
    refine ⟨fun begins => ?_, fun name valid begins => ?_⟩
    · rw [foreign.keyword? (blanks begins) (by decide), foreign.symbol? (blanks begins) (by decide)]
        at sign
      rcases sign with taken | ⟨-, taken⟩ <;> cases taken
    · have begins := valid.rest_skipBlank begins
      rcases sign with taken | ⟨-, taken⟩
      · -- the name is the negation, and nothing begins behind it
        have whole := takeWhile_of_keyword? (by decide) taken
        rw [begins, takeWhile_append_of_endsName valid.all ends] at whole
        have behind := Cursor.rest_of_take? (keyword?_eq_some_iff.mp taken).1
        rw [begins, whole] at behind
        exact absurd (List.append_cancel_left behind).symm ih.1
      · have taken := take?_of_symbol? taken
        rw [valid.take? begins (by decide)] at taken
        cases taken
  | positive noSign inner ih =>
    exact ⟨fun begins => ih.1 (blanks begins),
      fun name valid begins => ih.2 name valid (valid.rest_skipBlank begins)⟩
  | minus sign inner ih =>
    exact foreign.stopsAt_of_first (foreign.ne_of_ascii (by decide)) (by decide)
      (Cursor.rest_of_take? sign)
  | plus noMinus sign inner ih =>
    exact foreign.stopsAt_of_first (foreign.ne_of_ascii (by decide)) (by decide)
      (Cursor.rest_of_take? sign)
  | unsigned noMinus noPlus inner ih =>
    exact ⟨fun begins => ih.1 (blanks begins),
      fun name valid begins => ih.2 name valid (valid.rest_skipBlank begins)⟩
  | operand first more ih ih' =>
    exact ⟨ih.1, fun name valid begins => ih' (ih.2 name valid begins)⟩
  | field point named more ih =>
    intro begins
    rw [foreign.take? (blanks begins) (by decide)] at point
    cases point
  | index noPoint bracket inside closed more ih ih' =>
    intro begins
    rw [foreign.take? (blanks begins) (by decide)] at bracket
    cases bracket
  | call noPoint noBracket bracket inside more ih ih' =>
    intro begins
    rw [foreign.take? (blanks begins) (by decide)] at bracket
    cases bracket
  | filter noPoint noBracket noList pipe named listed more ih ih' =>
    intro begins
    rw [foreign.symbol? (blanks begins) (by decide)] at pipe
    cases pipe
  | binary isBinary first more ih ih' =>
    exact ⟨ih.1, fun name valid begins => ih' (ih.2 name valid begins)⟩
  | operator loose sign second more ih ih' =>
    intro begins
    rw [foreign.operator? (blanks begins)] at sign
    cases sign
  | tested noSign word test more ih ih' =>
    intro begins
    rw [foreign.keyword? (blanks begins) (by decide)] at word
    cases word
  | member noSign noTest words second more ih ih' =>
    intro begins
    rw [foreign.membership? (blanks begins)] at words
    cases words
  | stop loose stops => exact blanks
  | number begins digit =>
    refine foreign.stopsAt_of_first ?_ (Bool.eq_false_iff.mpr fun head => ?_) begins
    · rintro rfl
      have continues := continuesName_of_isDigit digit
      rw [foreign.not_continuesName] at continues
      cases continues
    · rw [not_isDigit_of_beginsName head] at digit
      cases digit
  | quoted begins quotes read =>
    rcases quotes with rfl | rfl
    · exact foreign.stopsAt_of_first (foreign.ne_of_ascii (by decide)) (by decide) begins
    · exact foreign.stopsAt_of_first (foreign.ne_of_ascii (by decide)) (by decide) begins
  | array bracket inside ih =>
    exact foreign.stopsAt_of_first (foreign.ne_of_ascii (by decide)) (by decide)
      (Cursor.rest_of_take? bracket)
  | parentheses bracket inside closed ih =>
    exact foreign.stopsAt_of_first (foreign.ne_of_ascii (by decide)) (by decide)
      (Cursor.rest_of_take? bracket)
  | name named =>
    obtain ⟨sees, run, taken, -⟩ := Cursor.identifier_eq_ok_iff.mp named
    rw [Cursor.skipBlank_skipBlank] at sees taken
    refine ⟨fun begins => ?_, fun name valid begins => ?_⟩
    · obtain ⟨d, rest', begins', head⟩ := exists_of_sees sees
      cases begins'.symm.trans (blanks begins)
      have continues := continuesName_of_beginsName head
      rw [foreign.not_continuesName] at continues
      cases continues
    · rw [← (Prod.mk.inj taken).2]
      show List.dropWhile continuesName _ = _
      rw [valid.rest_skipBlank begins, dropWhile_append_of_endsName valid.all ends]
  | named _ _ _ _ => trivial
  | compared _ _ _ _ => trivial
  | noArgs _ => trivial
  | args _ _ _ => trivial
  | nil _ _ => trivial
  | cons _ _ _ _ _ _ _ => trivial
  | last _ _ _ _ _ _ => trivial

/-- **No text with a foreign character behind a name is an expression.** -/
theorem parseExpr_ne_ok_of_foreign {name : Text} (valid : IsName name) (expr : Expr) :
    parseExpr (name ++ c :: rest) ≠ .ok expr := by
  intro ok
  obtain ⟨next, derives, ended⟩ := parseExpr_eq_ok_iff.mp ok
  have stops : Phrase.StopsAt (c :: rest) _ (Cursor.ofText (name ++ c :: rest)) next :=
    derives.stopsAt foreign
  rw [rest_skipBlank_of_visible (stops.2 name valid rfl) foreign.visible] at ended
  cases ended

end StopsAt

end TextTemplate
