/-
**Separators in expressions.**

A search for a separator outside of quotes and brackets keeps count of what the parser reads: quotes
and brackets are closed in it. So inside of brackets the search passes over everything, and outside of
them it passes over an expression if the separator is a comma, which stands inside of brackets only.

* `Text.Skips`: a search passes over a part, at the top level or inside of brackets;
* `Derives.skipped`: **a search passes over each phrase** where it passes over its plain characters;
* `passes_of_parseExpr`: **a search for a comma passes over a whole expression**;
* `splitTopLevel_intercalate`: **what is joined by commas is divided into its parts**, if a search
  passes over them.
-/

import TextTemplate.Proofs.Expressions.Depth
import TextTemplate.Text.TopLevel

namespace TextTemplate

/-! ### How a search moves -/

namespace Text

section Search

variable {separator : Separator} {brackets : Nat} {before text : Text} {c quote : Char}

theorem findFrom_nested
    (nested : (opensQuote c || opensBracket c || closesBracket c || brackets != 0) = true) :
    findFrom separator ⟨brackets, none⟩ before (c :: text) =
      findFrom separator (Nesting.step ⟨brackets, none⟩ c) (c :: before) text := by
  rw [findFrom.eq_def]
  simp only [nested, if_true]

theorem findFrom_top
    (top : (opensQuote c || opensBracket c || closesBracket c || brackets != 0) = false)
    (none' : separator before.head? (c :: text) = none) :
    findFrom separator ⟨brackets, none⟩ before (c :: text) =
      findFrom separator ⟨brackets, none⟩ (c :: before) text := by
  rw [findFrom.eq_def]
  simp only [top, none', Bool.false_eq_true, if_false]

theorem findFrom_found
    (top : (opensQuote c || opensBracket c || closesBracket c || brackets != 0) = false)
    {rest : Text} (found : separator before.head? (c :: text) = some rest) :
    findFrom separator ⟨brackets, none⟩ before (c :: text) = some (before.reverse, rest) := by
  rw [findFrom.eq_def]
  simp only [top, found, Bool.false_eq_true, if_false]

theorem findFrom_escaped (d : Char) :
    findFrom separator ⟨brackets, some quote⟩ before ('\\' :: d :: text) =
      findFrom separator ⟨brackets, some quote⟩ (d :: '\\' :: before) text := by
  rw [findFrom.eq_def]
  simp only [if_true]

theorem findFrom_quote (other : quote ≠ '\\') :
    findFrom separator ⟨brackets, some quote⟩ before (quote :: text) =
      findFrom separator ⟨brackets, none⟩ (quote :: before) text := by
  rw [findFrom.eq_def]
  simp only [other, if_false, if_true]

theorem findFrom_quoted (plain : c ≠ '\\') (other : c ≠ quote) :
    findFrom separator ⟨brackets, some quote⟩ before (c :: text) =
      findFrom separator ⟨brackets, some quote⟩ (c :: before) text := by
  rw [findFrom.eq_def]
  simp only [other, plain, if_false]

end Search

end Text

/-! ### Parts that a search passes over -/

/-- A character that is no quote, no bracket and no comma. -/
def isNeutral (c : Char) : Bool :=
  !(Text.opensQuote c || Text.opensBracket c || Text.closesBracket c || c == ',')

namespace Text

/-- **A search passes over a part**: inside of at least `least` brackets it finds no separator in it
and goes on behind it inside of as many brackets. -/
def Skips (separator : Separator) (least : Nat) (part : Text) : Prop :=
  ∀ brackets before rest, least ≤ brackets →
    findFrom separator ⟨brackets, none⟩ before (part ++ rest) =
      findFrom separator ⟨brackets, none⟩ (part.reverse ++ before) rest

namespace Skips

variable {separator : Separator} {least least' : Nat} {part part' : Text}

theorem nil : Skips separator least [] := fun _ _ _ _ => rfl

theorem append (first : Skips separator least part) (second : Skips separator least part') :
    Skips separator least (part ++ part') := by
  intro brackets before rest enough
  rw [List.append_assoc, first brackets before (part' ++ rest) enough,
    second brackets (part.reverse ++ before) rest enough, List.reverse_append, List.append_assoc]

/-- What is passed inside of some brackets is passed inside of more of them. -/
theorem mono (skips : Skips separator least part) (less : least ≤ least') :
    Skips separator least' part :=
  fun brackets before rest enough => skips brackets before rest (less.trans enough)

/-- A character that is no quote and no bracket, where no separator begins. -/
theorem character {c : Char}
    (plain : (opensQuote c || opensBracket c || closesBracket c) = false)
    (silent : least = 0 → ∀ before rest, separator before (c :: rest) = none) :
    Skips separator least [c] := by
  intro brackets before rest enough
  simp only [Bool.or_eq_false_iff] at plain
  obtain ⟨⟨noQuote, noOpen⟩, noClose⟩ := plain
  show findFrom separator ⟨brackets, none⟩ before (c :: rest) =
    findFrom separator ⟨brackets, none⟩ (c :: before) rest
  by_cases top : brackets = 0
  · exact findFrom_top (by simp [noQuote, noOpen, noClose, top])
      (silent (Nat.le_zero.mp (top ▸ enough)) before.head? rest)
  · have step : Nesting.step ⟨brackets, none⟩ c = ⟨brackets, none⟩ := by
      simp [Nesting.step, noQuote, noOpen, noClose]
    rw [findFrom_nested (by simp [top]), step]

theorem of_all {p : Char → Bool} (plain : ∀ c, p c = true → Skips separator least [c])
    (all : part.all p = true) : Skips separator least part := by
  induction part with
  | nil => exact nil
  | cons c part ih =>
    obtain ⟨first, rest⟩ := Bool.and_eq_true_iff.mp all
    exact append (plain c first) (ih rest)

/-- Brackets around a part that is passed inside of brackets. -/
theorem bracketed {opening closing : Char} (opens : opensBracket opening = true)
    (closes : closesBracket closing = true) (skips : Skips separator 1 part) :
    Skips separator least (opening :: (part ++ [closing])) := by
  intro brackets before rest _
  have enter : Nesting.step ⟨brackets, none⟩ opening = ⟨brackets + 1, none⟩ := by
    simp only [opensBracket, Bool.or_eq_true, beq_iff_eq] at opens
    rcases opens with (rfl | rfl) | rfl <;> rfl
  have leave : Nesting.step ⟨brackets + 1, none⟩ closing = ⟨brackets, none⟩ := by
    simp only [closesBracket, Bool.or_eq_true, beq_iff_eq] at closes
    rcases closes with (rfl | rfl) | rfl <;> rfl
  show findFrom separator ⟨brackets, none⟩ before (opening :: (part ++ [closing] ++ rest)) = _
  calc findFrom separator ⟨brackets, none⟩ before (opening :: (part ++ [closing] ++ rest))
      = findFrom separator ⟨brackets + 1, none⟩ (opening :: before) (part ++ ([closing] ++ rest)) := by
        rw [findFrom_nested (by simp [opens]), enter, List.append_assoc]
    _ = findFrom separator ⟨brackets + 1, none⟩ (part.reverse ++ opening :: before)
          (closing :: rest) :=
        skips (brackets + 1) (opening :: before) (closing :: rest) (Nat.le_add_left _ _)
    _ = findFrom separator ⟨brackets, none⟩ (closing :: (part.reverse ++ opening :: before)) rest := by
        rw [findFrom_nested (by simp [closes]), leave]
    _ = findFrom separator ⟨brackets, none⟩ ((opening :: (part ++ [closing])).reverse ++ before)
          rest := by
        simp

end Skips

end Text

/-- Inside of a quoted text the search goes on up to the quote where the parser stops. -/
theorem findFrom_of_parseQuoted (separator : Text.Separator) {quote : Char} (notEscape : quote ≠ '\\')
    {done text : Text} {position : Position} {source : Text} {next : Cursor}
    (ok : parseQuoted quote done position source = .ok (text, next)) :
    ∃ body, source = body ++ next.rest ∧ ∀ brackets before rest,
      Text.findFrom separator ⟨brackets, some quote⟩ before (body ++ rest) =
        Text.findFrom separator ⟨brackets, none⟩ (body.reverse ++ before) rest := by
  fun_induction parseQuoted quote done position source with
  | case1 => cases ok
  | case2 done position rest =>
    cases ok
    exact ⟨[quote], rfl, fun brackets before rest => Text.findFrom_quote notEscape⟩
  | case3 => cases ok
  | case4 done position c rest other ih =>
    obtain ⟨body, rfl, passed⟩ := ih ok
    refine ⟨'\\' :: c :: body, rfl, fun brackets before rest => ?_⟩
    show Text.findFrom separator ⟨brackets, some quote⟩ before ('\\' :: c :: (body ++ rest)) = _
    rw [Text.findFrom_escaped, passed]
    simp
  | case5 done position c rest other plain ih =>
    obtain ⟨body, rfl, passed⟩ := ih ok
    refine ⟨c :: body, rfl, fun brackets before rest => ?_⟩
    show Text.findFrom separator ⟨brackets, some quote⟩ before (c :: (body ++ rest)) = _
    rw [Text.findFrom_quoted plain other, passed]
    simp

/-- A quoted text is passed. -/
theorem skips_of_parseQuoted (separator : Text.Separator) {quote : Char}
    (quotes : quote = '"' ∨ quote = '\'') {done text : Text} {position : Position} {source : Text}
    {next : Cursor} (ok : parseQuoted quote done position source = .ok (text, next)) :
    ∃ passed, quote :: source = passed ++ next.rest ∧ Text.Skips separator 0 passed := by
  have opens : Text.opensQuote quote = true := by
    rcases quotes with rfl | rfl <;> rfl
  have notEscape : quote ≠ '\\' := by
    rcases quotes with rfl | rfl <;> decide
  obtain ⟨body, rfl, passed⟩ := findFrom_of_parseQuoted separator notEscape ok
  refine ⟨quote :: body, rfl, fun brackets before rest _ => ?_⟩
  have step : Text.Nesting.step ⟨brackets, none⟩ quote = ⟨brackets, some quote⟩ := by
    simp [Text.Nesting.step, opens]
  show Text.findFrom separator ⟨brackets, none⟩ before (quote :: (body ++ rest)) = _
  rw [Text.findFrom_nested (by simp [opens]), step, passed]
  simp

/-! ### Plain characters -/

/-- The parser passes a part of a kind, from one cursor to another. -/
def Walks (kind : Text → Prop) (here next : Cursor) : Prop :=
  ∃ passed, here.rest = passed ++ next.rest ∧ kind passed

namespace Walks

variable {kind : Text → Prop} {here between next : Cursor}

theorem trans (joins : ∀ part part', kind part → kind part' → kind (part ++ part'))
    (first : Walks kind here between) (second : Walks kind between next) : Walks kind here next := by
  obtain ⟨passed, rest, passes⟩ := first
  obtain ⟨passed', rest', passes'⟩ := second
  exact ⟨passed ++ passed', by rw [rest, rest', List.append_assoc], joins _ _ passes passes'⟩

end Walks

/-- The parser passes characters that are no quotes, brackets and commas. -/
abbrev Glides : Cursor → Cursor → Prop :=
  Walks fun part => part.all isNeutral = true

namespace Glides

variable {here between next : Cursor}

theorem trans (first : Glides here between) (second : Glides between next) : Glides here next :=
  Walks.trans (fun _ _ all all' => by rw [List.all_append, all, all', Bool.and_self]) first second

theorem takeWhile {p : Char → Bool} (neutral : ∀ c, p c = true → isNeutral c = true)
    (here : Cursor) : Glides here (here.takeWhile p).2 := by
  refine ⟨here.rest.takeWhile p, List.takeWhile_append_dropWhile.symm, ?_⟩
  exact List.all_eq_true.mpr fun c member => neutral c (List.mem_takeWhile_imp member)

theorem take? {text : Text} (neutral : text.all isNeutral = true)
    (found : here.take? text = some next) : Glides here next := by
  exact ⟨text, Cursor.rest_of_take? found, neutral⟩

theorem keyword? {word : Text} (neutral : word.all isNeutral = true)
    (found : here.keyword? word = some next) : Glides here next := by
  rw [Cursor.keyword?] at found
  split at found
  · rename_i taken
    split at found
    · cases found
    · cases found
      exact take? neutral taken
  · cases found

theorem symbol? {sign : Text} {longer : Char} (neutral : sign.all isNeutral = true)
    (found : here.symbol? sign longer = some next) : Glides here next := by
  rw [Cursor.symbol?] at found
  split at found
  · rename_i taken
    split at found
    · cases found
    · cases found
      exact take? neutral taken
  · cases found

end Glides

theorem isNeutral_of_isBlank (c : Char) (blank : Text.isBlank c = true) : isNeutral c = true := by
  by_contra special
  simp only [isNeutral, Text.opensQuote, Text.opensBracket, Text.closesBracket, Bool.not_eq_true',
    Bool.not_eq_false, Bool.or_eq_true, beq_iff_eq] at special
  rcases special with (((rfl | rfl) | (rfl | rfl) | rfl) | (rfl | rfl) | rfl) | rfl <;>
    exact absurd blank (by decide)

theorem isNeutral_of_continuesName (c : Char) (continues : continuesName c = true) :
    isNeutral c = true := by
  by_contra special
  simp only [isNeutral, Text.opensQuote, Text.opensBracket, Text.closesBracket, Bool.not_eq_true',
    Bool.not_eq_false, Bool.or_eq_true, beq_iff_eq] at special
  rcases special with (((rfl | rfl) | (rfl | rfl) | rfl) | (rfl | rfl) | rfl) | rfl <;>
    exact absurd continues (by decide)

namespace Glides

variable {here next : Cursor}

theorem skipBlank (here : Cursor) : Glides here here.skipBlank :=
  takeWhile isNeutral_of_isBlank here

theorem identifier {name : String} (ok : here.identifier = .ok (name, next)) : Glides here next := by
  rw [Cursor.identifier] at ok
  refine (skipBlank here).trans ?_
  split at ok
  · cases ok
  · split at ok
    · cases ok
      exact takeWhile isNeutral_of_continuesName _
    · cases ok

theorem firstSign? {α : Type} {signs : List (Text × α)}
    (neutral : ∀ sign ∈ signs, sign.1.all isNeutral = true) {meaning : α}
    (found : firstSign? signs here = some (meaning, next)) : Glides here next := by
  obtain ⟨⟨sign, meaning'⟩, member, taken⟩ := List.exists_of_findSome?_eq_some found
  obtain ⟨next', taken, same⟩ := Option.map_eq_some_iff.mp taken
  cases same
  exact take? (neutral _ member) taken

/-- A word, or else a sign. -/
theorem keywordOr {word : Text} {sign : Option Cursor} (neutral : word.all isNeutral = true)
    (moves : sign = some next → Glides here next)
    (found : (here.keyword? word <|> sign) = some next) : Glides here next := by
  rw [Option.orElse_eq_orElse, Option.orElse_eq_or, Option.or_eq_some_iff] at found
  rcases found with taken | ⟨-, taken⟩
  · exact keyword? neutral taken
  · exact moves taken

theorem operator? {level : Level} {make : Expr → Expr → Expr}
    (found : operator? level here = some (make, next)) : Glides here next := by
  unfold TextTemplate.operator? at found
  split at found
  · obtain ⟨next', found, same⟩ := Option.map_eq_some_iff.mp found
    cases same
    exact keywordOr (by decide) (fun taken => take? (by decide) taken) found
  · obtain ⟨next', found, same⟩ := Option.map_eq_some_iff.mp found
    cases same
    exact keywordOr (by decide) (fun taken => take? (by decide) taken) found
  · exact firstSign? (by decide) found
  · exact firstSign? (by decide) found
  · exact firstSign? (by decide) found
  · cases found

theorem membership? {negated : Bool} (found : membership? here = some (negated, next)) :
    Glides here next := by
  unfold TextTemplate.membership? at found
  split at found
  · rename_i taken
    cases found
    exact keyword? rfl taken
  · split at found
    · rename_i between taken
      obtain ⟨next', taken', same⟩ := Option.map_eq_some_iff.mp found
      cases same
      exact (keyword? rfl taken).trans ((skipBlank between).trans (keyword? rfl taken'))
    · cases found

theorem testName? {name : String} (found : testName? here = some (name, next)) :
    Glides here next := by
  have neutral : ∀ name ∈ testNames, name.toList.all isNeutral = true := by decide
  obtain ⟨name', member, taken⟩ := List.exists_of_findSome?_eq_some found
  obtain ⟨next', taken, same⟩ := Option.map_eq_some_iff.mp taken
  cases same
  exact keyword? (neutral _ member) taken

/-- A number is made of digits, underscores and points. -/
theorem numberRun_spec (pointPassed : Bool) (text : Text) :
    numberRun pointPassed text ++ text.drop (numberRun pointPassed text).length = text ∧
      (numberRun pointPassed text).all (fun c => continuesName c || c == '.') = true := by
  fun_induction numberRun pointPassed text with
  | case1 => exact ⟨rfl, rfl⟩
  | case2 pointPassed c rest digit ih =>
    have continues : continuesName c = true := by
      rcases Bool.or_eq_true_iff.mp digit with digit | underscore
      · exact continuesName_of_isDigit digit
      · simp [continuesName, underscore]
    exact ⟨congrArg (c :: ·) ih.1, by rw [List.all_cons, continues, ih.2]; rfl⟩
  | case3 pointPassed c rest other point ih =>
    have same : c = '.' := by
      simp only [Bool.and_eq_true, beq_iff_eq] at point
      exact point.1.1
    subst same
    exact ⟨congrArg ('.' :: ·) ih.1, by rw [List.all_cons, ih.2]; rfl⟩
  | case4 => exact ⟨rfl, rfl⟩

theorem number (here : Cursor) : Glides here (parseNumber here).2 := by
  obtain ⟨whole, digits⟩ := numberRun_spec false here.rest
  refine ⟨numberRun false here.rest, whole.symm, List.all_eq_true.mpr fun c member => ?_⟩
  rcases Bool.or_eq_true_iff.mp (List.all_eq_true.mp digits c member) with continues | point
  · exact isNeutral_of_continuesName c continues
  · rw [beq_iff_eq.mp point]
    rfl

/-- The `not` that may stand before a test. -/
theorem passesNot {negated : Bool} (negation : ParsesTest.PassesNot here negated next) :
    Glides here next := by
  rcases negation with ⟨-, -, rfl⟩ | ⟨behind, word, -, rfl⟩
  · exact ⟨[], rfl, rfl⟩
  · exact (keyword? rfl word).trans (skipBlank behind)

end Glides

/-! ### What is passed in a phrase -/

/-- **A search passes over a phrase**; a list up to its closing bracket is passed inside of brackets. -/
def Phrase.Skipped (separator : Text.Separator) (least : Nat) (phrase : Phrase) (here next : Cursor) :
    Prop :=
  match phrase with
  | .list close _ => ∃ inside, here.rest = inside ++ close :: next.rest ∧ Text.Skips separator 1 inside
  | _ => Walks (Text.Skips separator least) here next

namespace Derives

section Skipped

variable {separator : Text.Separator} {least : Nat}

theorem walks_trans {here between next : Cursor}
    (first : Walks (Text.Skips separator least) here between)
    (second : Walks (Text.Skips separator least) between next) :
    Walks (Text.Skips separator least) here next :=
  first.trans (fun _ _ => Text.Skips.append) second

/-- A bracket, what is passed inside of brackets, and the closing bracket. -/
theorem walks_bracketed {here between next : Cursor} {opening close : Char}
    (opens : Text.opensBracket opening = true) (closes : Text.closesBracket close = true)
    (bracket : here.skipBlank.take? [opening] = some between)
    (blanks : Walks (Text.Skips separator least) here here.skipBlank)
    (read : ∃ inside, between.rest = inside ++ close :: next.rest ∧ Text.Skips separator 1 inside) :
    Walks (Text.Skips separator least) here next := by
  obtain ⟨inside, rest, skips⟩ := read
  refine walks_trans blanks ⟨opening :: (inside ++ [close]), ?_, ?_⟩
  · rw [Cursor.rest_of_character bracket, rest]
    simp
  · exact Text.Skips.bracketed opens closes skips

variable (plain : ∀ c, isNeutral c = true → Text.Skips separator least [c])

include plain

/-- Plain characters are passed. -/
theorem walks_of_glides {here next : Cursor} (glides : Glides here next) :
    Walks (Text.Skips separator least) here next := by
  obtain ⟨passed, rest, neutral⟩ := glides
  exact ⟨passed, rest, Text.Skips.of_all plain neutral⟩

variable (low : least ≤ 1)

include low

/-- What is passed and a closing bracket that must come next. -/
theorem walks_expect {here between next : Cursor} {close : Char}
    (walks : Walks (Text.Skips separator least) here between)
    (closed : between.expect [close] = .ok next) :
    ∃ inside, here.rest = inside ++ close :: next.rest ∧ Text.Skips separator 1 inside := by
  obtain ⟨passed, rest, skips⟩ :=
    walks_trans walks (walks_of_glides plain (Glides.skipBlank between))
  refine ⟨passed, ?_, skips.mono low⟩
  rw [rest, Cursor.rest_of_character (Cursor.expect_eq_ok_iff.mp closed)]

/-- **A search passes over each phrase**, if it passes over plain characters. -/
theorem skipped {phrase : Phrase} {here next : Cursor} (derives : Derives phrase here next) :
    phrase.Skipped separator least here next := by
  have glide {here next : Cursor} (glides : Glides here next) := walks_of_glides plain glides
  have blanks (here : Cursor) := glide (Glides.skipBlank here)
  induction derives with
  | plain first alone ih => exact walks_trans ih (blanks _)
  | guarded first guard second alone ih ih' =>
    have first := walks_trans ih (walks_trans (blanks _) (glide (Glides.keyword? rfl guard)))
    exact walks_trans first (walks_trans ih' (blanks _))
  | choice first guard second word third ih ih' ih'' =>
    have first := walks_trans ih (walks_trans (blanks _) (glide (Glides.keyword? rfl guard)))
    have second := walks_trans ih' (walks_trans (blanks _) (glide (Glides.keyword? rfl word)))
    exact walks_trans first (walks_trans second ih'')
  | not sign inner ih =>
    have sign := Glides.keywordOr (by decide) (fun taken => Glides.symbol? (by decide) taken) sign
    exact walks_trans (blanks _) (walks_trans (glide sign) ih)
  | positive noSign inner ih => exact walks_trans (blanks _) ih
  | minus sign inner ih => exact walks_trans (blanks _) (walks_trans (glide (Glides.take? rfl sign)) ih)
  | plus noMinus sign inner ih =>
    exact walks_trans (blanks _) (walks_trans (glide (Glides.take? rfl sign)) ih)
  | unsigned noMinus noPlus inner ih => exact walks_trans (blanks _) ih
  | operand first more ih ih' => exact walks_trans ih ih'
  | @field _ _ _ between _ _ _ _ point named more ih =>
    have name := Glides.takeWhile isNeutral_of_continuesName between
    rw [named] at name
    have field := walks_trans (glide (Glides.take? rfl point)) (glide name)
    exact walks_trans (blanks _) (walks_trans field ih)
  | index noPoint bracket inside closed more ih ih' =>
    have inside := walks_expect plain low ih closed
    exact walks_trans (walks_bracketed rfl rfl bracket (blanks _) inside) ih'
  | call noPoint noBracket bracket inside more ih ih' =>
    exact walks_trans (walks_bracketed rfl rfl bracket (blanks _) ih) ih'
  | filter noPoint noBracket noList pipe named listed more ih ih' =>
    have name := walks_trans (glide (Glides.symbol? rfl pipe)) (glide (Glides.identifier named))
    exact walks_trans (blanks _) (walks_trans name (walks_trans ih ih'))
  | binary isBinary first more ih ih' => exact walks_trans ih ih'
  | operator loose sign second more ih ih' =>
    exact walks_trans (blanks _) (walks_trans (glide (Glides.operator? sign)) (walks_trans ih ih'))
  | tested noSign word test more ih ih' =>
    exact walks_trans (blanks _) (walks_trans (glide (Glides.keyword? rfl word)) (walks_trans ih ih'))
  | member noSign noTest words second more ih ih' =>
    exact walks_trans (blanks _) (walks_trans (glide (Glides.membership? words)) (walks_trans ih ih'))
  | stop loose stops => exact blanks _
  | named negation known listed ih =>
    have test := walks_trans (glide (Glides.passesNot negation)) (glide (Glides.testName? known))
    exact walks_trans (blanks _) (walks_trans test ih)
  | compared negation unknown second ih =>
    exact walks_trans (blanks _) (walks_trans (glide (Glides.passesNot negation)) ih)
  | noArgs noList => exact blanks _
  | args bracket inside ih => exact walks_bracketed rfl rfl bracket (blanks _) ih
  | nil closes closed =>
    obtain ⟨blank, rest, skips⟩ := blanks _
    exact ⟨blank, by rw [rest, Cursor.rest_of_character closed], skips.mono low⟩
  | cons closes opened first comma rest ih ih' =>
    obtain ⟨passed, first_eq, skips⟩ := walks_trans (blanks _) (walks_trans ih (blanks _))
    obtain ⟨inside, rest_eq, skips'⟩ := ih'
    have comma' : Text.Skips separator 1 [','] := Text.Skips.character rfl nofun
    refine ⟨passed ++ [','] ++ inside, ?_, ((skips.mono low).append comma').append skips'⟩
    rw [first_eq, Cursor.rest_of_character comma, rest_eq]
    simp
  | last closes opened first noComma closed ih =>
    exact walks_expect plain low (walks_trans (blanks _) (walks_trans ih (blanks _))) closed
  | number begins digit => exact walks_trans (blanks _) (glide (Glides.number _))
  | quoted begins quotes read =>
    obtain ⟨passed, rest, skips⟩ := skips_of_parseQuoted separator quotes read
    exact walks_trans (blanks _) ⟨passed, begins.trans rest, skips.mono (Nat.zero_le _)⟩
  | array bracket inside ih => exact walks_bracketed rfl rfl bracket (blanks _) ih
  | parentheses bracket inside closed ih =>
    exact walks_bracketed rfl rfl bracket (blanks _) (walks_expect plain low ih closed)
  | name named => exact walks_trans (blanks _) (glide (Glides.identifier named))

end Skipped

end Derives

/-! ### Commas -/

/-- A search for a comma outside of quotes and brackets. -/
abbrev findComma : Text.Nesting → Text → Text → Option (Text × Text) :=
  Text.findFrom (Text.charSeparator ',')

/-- **A search passes over a part**: inside of at least `least` brackets it finds no comma in it and
goes on behind it inside of as many brackets. -/
def Passes (least : Nat) (part : Text) : Prop :=
  ∀ brackets before rest, least ≤ brackets →
    findComma ⟨brackets, none⟩ before (part ++ rest) =
      findComma ⟨brackets, none⟩ (part.reverse ++ before) rest

namespace Passes

variable {least : Nat} {part : Text}

theorem append {part' : Text} (first : Passes least part) (second : Passes least part') :
    Passes least (part ++ part') :=
  Text.Skips.append first second

theorem neutral {c : Char} (neutral : isNeutral c = true) : Passes least [c] := by
  simp only [isNeutral, Bool.not_eq_true', Bool.or_eq_false_iff (y := c == ','),
    beq_eq_false_iff_ne] at neutral
  obtain ⟨plain, noComma⟩ := neutral
  exact Text.Skips.character plain fun _ _ _ => if_neg noComma

theorem of_all_neutral (neutral : part.all isNeutral = true) : Passes least part :=
  Text.Skips.of_all (fun _ => Passes.neutral) neutral

end Passes

/-- A search for a comma passes over a whole expression. -/
theorem passes_of_parseExpr {text : Text} {expr : Expr} (ok : parseExpr text = .ok expr) :
    Passes 0 text := by
  obtain ⟨next, derives, ended⟩ := parseExpr_eq_ok_iff.mp ok
  have blanks : Walks (Text.Skips (Text.charSeparator ',') 0) next next.skipBlank :=
    Derives.walks_of_glides (fun _ => Passes.neutral) (Glides.skipBlank next)
  obtain ⟨passed, rest, passes⟩ :=
    Derives.walks_trans (derives.skipped (fun _ => Passes.neutral) (Nat.zero_le 1)) blanks
  have all : text = passed := by
    have rest' : text = passed ++ next.skipBlank.rest := rest
    rw [rest', ended, List.append_nil]
  rw [all]
  exact passes

/-! ### Parts between commas -/

section Commas

variable {part : Text}

theorem findTopLevel_comma_eq_none (passes : Passes 0 part) :
    Text.findTopLevel (Text.charSeparator ',') part = none := by
  have passed := passes 0 [] [] (Nat.le_refl 0)
  rw [List.append_nil] at passed
  exact passed.trans (by rw [findComma, Text.findFrom.eq_def])

theorem findTopLevel_comma_append (passes : Passes 0 part) (rest : Text) :
    Text.findTopLevel (Text.charSeparator ',') (part ++ ',' :: rest) = some (part, rest) := by
  have found : Text.charSeparator ',' (part.reverse ++ []).head? (',' :: rest) = some rest := rfl
  show findComma ⟨0, none⟩ [] (part ++ ',' :: rest) = some (part, rest)
  rw [passes 0 [] (',' :: rest) (Nat.le_refl 0), findComma, Text.findFrom_found (by decide) found,
    List.append_nil, List.reverse_reverse]

/-- **What is joined by commas is divided into its parts**, if a search for a comma passes over them. -/
theorem splitTopLevel_intercalate {parts : List Text} (filled : parts ≠ [])
    (passes : ∀ part ∈ parts, Passes 0 part) :
    Text.splitTopLevel (Text.charSeparator ',') ([','].intercalate parts) = parts := by
  have split : ∀ steps, ([','].intercalate parts).length ≤ steps →
      Text.splitLoop (Text.charSeparator ',') steps ([','].intercalate parts) = parts := by
    induction parts with
    | nil => contradiction
    | cons part parts ih =>
      obtain ⟨first, later⟩ := List.forall_mem_cons.mp passes
      intro steps enough
      cases parts with
      | nil =>
        rw [List.intercalate_singleton]
        cases steps with
        | zero => rfl
        | succ steps => rw [Text.splitLoop, findTopLevel_comma_eq_none first]
      | cons other parts =>
        rw [List.intercalate_cons_cons, List.append_assoc, List.singleton_append] at enough ⊢
        cases steps with
        | zero => simp at enough
        | succ steps =>
          rw [List.length_append, List.length_cons] at enough
          rw [Text.splitLoop, findTopLevel_comma_append first]
          exact congrArg (part :: ·) (ih (List.cons_ne_nil _ _) later steps (by omega))
  exact split _ (Nat.le_refl _)

/-- **What is passed at the top level is not divided at commas.** -/
theorem splitTopLevel_of_passes (passes : Passes 0 part) :
    part.splitTopLevel (Text.charSeparator ',') = [part] := by
  have split := splitTopLevel_intercalate (List.cons_ne_nil part [])
    (List.forall_mem_singleton.mpr passes)
  rwa [List.intercalate_singleton] at split

end Commas

end TextTemplate
