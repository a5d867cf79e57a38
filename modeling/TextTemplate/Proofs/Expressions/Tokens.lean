/-
**Tokens of expressions.**

The parser passes words and signs. Each of them gets the parser on, and whether it stands at a cursor
depends on the text up to a place only where no token can reach from one character to the next.

* `joins`, `Unjoined`: a token may reach from a character to the next one, and no token reaches from a
  text into the one behind it, which holds where that begins with a blank (`Detached`);
* `Cursor.Passes`: what is passed between two cursors, and how the position counts it;
* `Lexes`: a function of the parser passes a token, which has the two properties;
* `Lexes.word`, `Lexes.sign`, `Lexes.operator?`, …: **all the tokens of the grammar** have them;
* `Cursor.Parts`: a cursor stands before a front part and a tail, with no token across;
* `Lexes.found_front`, `Lexes.missing_front`: what is and what is not found at a cursor is the same
  without such a tail.
-/

import Mathlib.Data.List.Chain
import TextTemplate.Proofs.Expressions.Cursors

namespace TextTemplate

/-! ### Texts behind tokens -/

/-- Whether a token may reach from a character to the next one, or ends only where that character does
not follow. -/
def joins (c d : Char) : Bool :=
  if c.isAlpha then continuesName d
  else if d = '=' then c == '=' || c == '!' || c == '<' || c == '>'
  else c == d && (c == '|' || c == '&')

/-- **No token reaches from a text into the one behind it.** -/
def Unjoined (front tail : Text) : Prop :=
  ∀ c ∈ front.getLast?, ∀ d ∈ tail.head?, joins c d = false

/-- **No token reaches into a text**, which is empty or begins with a blank. -/
def Detached (tail : Text) : Prop :=
  ∀ c ∈ tail.head?, Text.isBlank c = true

theorem detached_nil : Detached [] := by
  intro c first
  cases first

theorem detached_of_all_isBlank {tail : Text} (blank : tail.all Text.isBlank = true) : Detached tail :=
  fun c first => List.all_eq_true.mp blank c (List.mem_of_head? first)

theorem Detached.append {tail rest : Text} (detached : Detached tail) (filled : tail ≠ []) :
    Detached (tail ++ rest) := by
  cases tail with
  | nil => contradiction
  | cons c tail => exact detached

theorem ne_of_isBlank {c : Char} (d : Char) (blank : Text.isBlank c = true)
    (visible : Text.isBlank d = false) : c ≠ d := by
  rintro rfl
  rw [visible] at blank
  cases blank

/-- The signs that may go on with another sign. -/
def joiningSigns : Text :=
  ['=', '!', '<', '>', '|', '&']

/-- A character joins nothing if it is no letter and has a property that none of the signs has. -/
theorem joins_of_property {c : Char} {p : Char → Bool} (noLetter : c.isAlpha = false)
    (holds : p c = true) (noSign : joiningSigns.any p = false) (d : Char) : joins c d = false := by
  have other : ∀ e ∈ joiningSigns, c ≠ e := by
    rintro e sign rfl
    exact List.any_eq_false.mp noSign c sign holds
  simp only [joiningSigns, List.forall_mem_cons] at other
  obtain ⟨equal, not, less, greater, pipe, ampersand, -⟩ := other
  simp [joins, noLetter, equal, not, less, greater, pipe, ampersand]

/-- No token goes on behind a blank. -/
theorem joins_of_isBlank {c : Char} (blank : Text.isBlank c = true) (d : Char) : joins c d = false := by
  refine joins_of_property ?_ blank rfl d
  by_contra letter
  have continues := continuesName_of_isAlpha (eq_true_of_ne_false letter)
  rw [continuesName_of_isBlank blank] at continues
  cases continues

/-- No token goes on with a blank. -/
theorem joins_isBlank (c : Char) {d : Char} (blank : Text.isBlank d = true) : joins c d = false := by
  unfold joins
  split
  · exact continuesName_of_isBlank blank
  · rw [if_neg (ne_of_isBlank '=' blank rfl)]
    by_cases same : c = d
    · subst same
      simp [ne_of_isBlank '|' blank rfl, ne_of_isBlank '&' blank rfl]
    · simp [same]

theorem Detached.unjoined {tail : Text} (detached : Detached tail) (front : Text) : Unjoined front tail :=
  fun c _ d first => joins_isBlank c (detached d first)

namespace Unjoined

variable {passed front tail : Text}

theorem nil (tail : Text) : Unjoined [] tail := by
  intro c atEnd
  cases atEnd

theorem of_append (unjoined : Unjoined (passed ++ front) tail) : Unjoined front tail := by
  cases front with
  | nil => exact nil tail
  | cons c front =>
    intro d atEnd
    exact unjoined d (List.getLast?_append_cons .. ▸ atEnd)

theorem of_cons {c : Char} (unjoined : Unjoined (c :: front) tail) : Unjoined front tail := by
  have unjoined : Unjoined ([c] ++ front) tail := unjoined
  exact unjoined.of_append

theorem append (unjoined : Unjoined front tail) (filled : front ≠ []) : Unjoined (passed ++ front) tail := by
  obtain ⟨c, front, rfl⟩ := List.exists_cons_of_ne_nil filled
  intro d atEnd
  exact unjoined d (List.getLast?_append_cons .. ▸ atEnd)

end Unjoined

namespace Text

theorem trimStart_append (front tail : Text) :
    trimStart (front ++ tail) =
      if (trimStart front).isEmpty then trimStart tail else trimStart front ++ tail :=
  List.dropWhile_append

theorem trimStart_append_of_nil {front tail : Text} (blank : front.trimStart = []) :
    trimStart (front ++ tail) = trimStart tail := by
  rw [trimStart_append, blank]
  rfl

theorem trimStart_append_of_ne_nil {front tail : Text} (visible : front.trimStart ≠ []) :
    trimStart (front ++ tail) = trimStart front ++ tail := by
  rw [trimStart_append, if_neg (by simpa using visible)]

theorem trimStart_trimStart_append (front tail : Text) :
    trimStart (trimStart front ++ tail) = trimStart (front ++ tail) := by
  rw [trimStart_append, trimStart_append, trimStart_trimStart]

theorem length_trimStart_le (text : Text) : text.trimStart.length ≤ text.length :=
  (List.dropWhile_suffix isBlank).length_le

/-- A token stands in front of a text just if it stands in front of a part of it from which no token
reaches into the rest. -/
theorem dropPrefix?_append {word front tail : Text} (linked : word.IsChain (joins · · = true))
    (filled : front ≠ []) (unjoined : Unjoined front tail) :
    dropPrefix? word (front ++ tail) = (dropPrefix? word front).map (· ++ tail) := by
  induction word generalizing front with
  | nil => cases front <;> rfl
  | cons c word ih =>
    obtain ⟨d, front, rfl⟩ := List.exists_cons_of_ne_nil filled
    by_cases same : c = d
    · subst same
      simp only [dropPrefix?, List.cons_append, List.isPrefixOf?, beq_self_eq_true, if_true] at ih ⊢
      by_cases ends : front = []
      · -- the token would reach from the last character into the tail
        subst ends
        cases word with
        | nil => cases tail <;> rfl
        | cons e word =>
          cases tail with
          | nil => rfl
          | cons f tail =>
            have other : (e == f) = false := by
              refine beq_false_of_ne ?_
              rintro rfl
              have joined := (List.isChain_cons_cons.mp linked).1
              rw [unjoined c rfl e rfl] at joined
              cases joined
            simp [List.isPrefixOf?, other]
      · exact ih linked.tail ends (Unjoined.of_cons unjoined)
    · simp [dropPrefix?, List.isPrefixOf?, same]

end Text

namespace Cursor

variable {here next : Cursor} {word : Text}

/-- **A cursor lies behind another one and some text**, and its position counts the text. -/
structure Passes (here : Cursor) (passed : Text) (next : Cursor) : Prop where
  rest : here.rest = passed ++ next.rest
  position : next.position = here.position.after passed

namespace Passes

theorem trans {between : Cursor} {passed passed' : Text} (first : here.Passes passed between)
    (second : between.Passes passed' next) : here.Passes (passed ++ passed') next := by
  refine ⟨?_, ?_⟩
  · rw [first.rest, second.rest, List.append_assoc]
  · rw [second.position, first.position, Position.after_append]

theorem of_take? (taken : here.take? word = some next) : here.Passes word next := by
  obtain ⟨rest, begins, rfl⟩ := take?_eq_some_iff.mp taken
  exact ⟨begins, rfl⟩

theorem of_takeWhile {p : Char → Bool} {run : Text} (taken : here.takeWhile p = (run, next)) :
    here.Passes run next := by
  obtain ⟨rfl, rfl⟩ := Prod.mk.inj taken
  exact ⟨List.takeWhile_append_dropWhile.symm, rfl⟩

theorem skipBlank (here : Cursor) :
    here.Passes (here.rest.takeWhile Text.isBlank) here.skipBlank :=
  of_takeWhile rfl

theorem length_le {passed : Text} (passes : here.Passes passed next) :
    next.rest.length ≤ here.rest.length := by
  rw [passes.rest, List.length_append]
  exact Nat.le_add_left _ _

theorem length_lt {passed : Text} (passes : here.Passes passed next) (filled : passed ≠ []) :
    next.rest.length < here.rest.length := by
  have long := List.length_pos_iff.mpr filled
  rw [passes.rest, List.length_append]
  omega

end Passes

/-- **A cursor stands before a front part and a tail**, and no token reaches from one into the other. -/
structure Splits (whole front : Cursor) (tail : Text) : Prop where
  rest : whole.rest = front.rest ++ tail
  unjoined : Unjoined front.rest tail

/-- A cursor stands before a front part and a tail, up to blanks at the beginning. -/
structure Parts (whole front : Cursor) (tail : Text) : Prop where
  stands : whole.At (front.rest ++ tail)
  unjoined : Unjoined front.rest tail

/-- The same character is passed on both sides. -/
theorem Splits.step {whole front : Cursor} {tail rest rest' : Text} {c : Char}
    (splits : whole.Splits front tail) (begins : whole.rest = c :: rest)
    (begins' : front.rest = c :: rest') (position position' : Position) :
    (Cursor.mk rest position).Splits ⟨rest', position'⟩ tail := by
  have same := splits.rest
  have unjoined := splits.unjoined
  rw [begins, begins'] at same
  rw [begins'] at unjoined
  exact ⟨(List.cons.inj same).2, unjoined.of_cons⟩

theorem Splits.parts {whole front : Cursor} {tail : Text} (splits : whole.Splits front tail) :
    whole.Parts front tail :=
  ⟨.of_rest splits.rest, splits.unjoined⟩

end Cursor

/-! ### Lexers -/

/-- **A function of the parser passes a token**: it gets on, and it finds the same in a text with a
tail that no token reaches into. `token` is what counts of the result, and `place` the cursor behind
it. -/
structure Lexes {α β : Type} (token : β → α) (place : β → Cursor) (lexer : Cursor → Option β) :
    Prop where
  passes : ∀ {here found}, lexer here = some found →
    ∃ passed, passed ≠ [] ∧ here.Passes passed (place found)
  same : ∀ {front whole : Cursor} {tail : Text}, front.rest ≠ [] → whole.Splits front tail →
    Option.Rel (fun found found' => token found' = token found ∧
      (place found').rest = (place found).rest ++ tail) (lexer front) (lexer whole)

namespace Lexes

/-- A function that passes a token and gives the cursor behind it. -/
abbrev Plain (lexer : Cursor → Option Cursor) : Prop :=
  Lexes (fun _ => ()) id lexer

/-- A function that passes a token and gives its meaning. -/
abbrev Marked {α : Type} (lexer : Cursor → Option (α × Cursor)) : Prop :=
  Lexes Prod.fst Prod.snd lexer

/-! ### Tokens in front of a tail -/

section Use

variable {α β : Type} {token : β → α} {place : β → Cursor} {lexer : Cursor → Option β}
  {front whole : Cursor} {tail : Text} {found : β}

theorem advances (lexes : Lexes token place lexer) {here : Cursor} (result : lexer here = some found) :
    (place found).rest.length < here.rest.length := by
  obtain ⟨passed, filled, passes⟩ := lexes.passes result
  exact passes.length_lt filled

theorem none_of_nil (lexes : Lexes token place lexer) {here : Cursor} (ends : here.rest = []) :
    lexer here = none := by
  cases result : lexer here with
  | none => rfl
  | some found =>
    have shorter := lexes.advances result
    rw [ends] at shorter
    cases shorter

theorem found_of_splits (lexes : Lexes token place lexer) (filled : front.rest ≠ [])
    (splits : whole.Splits front tail) (result : lexer whole = some found) :
    ∃ found', lexer front = some found' ∧ token found' = token found ∧
      (place found).Splits (place found') tail := by
  have same := lexes.same filled splits
  rw [result] at same
  cases result' : lexer front with
  | none =>
    rw [result'] at same
    cases same
  | some found' =>
    rw [result'] at same
    cases same with
    | some same =>
      obtain ⟨passed, -, passes⟩ := lexes.passes result'
      have unjoined := splits.unjoined
      rw [passes.rest] at unjoined
      exact ⟨found', rfl, same.1.symm, same.2, unjoined.of_append⟩

theorem missing_of_splits (lexes : Lexes token place lexer) (filled : front.rest ≠ [])
    (splits : whole.Splits front tail) (result : lexer whole = none) : lexer front = none := by
  have same := lexes.same filled splits
  rw [result] at same
  cases result' : lexer front with
  | none => rfl
  | some found' =>
    rw [result'] at same
    cases same

theorem advances_of_skipBlank (lexes : Lexes token place lexer) {here : Cursor}
    (result : lexer here.skipBlank = some found) : (place found).rest.length < here.rest.length :=
  (lexes.advances result).trans_le (Text.length_trimStart_le here.rest)

/-- What stands behind the blanks in front of a text, with or without a tail. -/
theorem skipBlank_cases (parts : whole.Parts front tail) :
    (front.skipBlank.rest = [] ∧ whole.skipBlank.rest = tail.trimStart) ∨
      (front.skipBlank.rest ≠ [] ∧ whole.skipBlank.Splits front.skipBlank tail) := by
  have rest_eq := parts.stands.rest_skipBlank
  by_cases blank : front.rest.trimStart = []
  · exact Or.inl ⟨blank, rest_eq.trans (Text.trimStart_append_of_nil blank)⟩
  · have unjoined := parts.unjoined
    rw [(Cursor.Passes.skipBlank front).rest] at unjoined
    exact Or.inr ⟨blank, rest_eq.trans (Text.trimStart_append_of_ne_nil blank), unjoined.of_append⟩

/-- **A token that is found in front of a tail is found without the tail.** -/
theorem found_front (lexes : Lexes token place lexer) (parts : whole.Parts front tail)
    (result : lexer whole.skipBlank = some found)
    (inside : tail.trimStart.length ≤ (place found).rest.length) :
    ∃ found', lexer front.skipBlank = some found' ∧ token found' = token found ∧
      (place found).Splits (place found') tail := by
  rcases skipBlank_cases parts with ⟨-, behind⟩ | ⟨filled, splits⟩
  · have shorter := lexes.advances result
    rw [behind] at shorter
    omega
  · exact lexes.found_of_splits filled splits result

/-- **A token that is missing in front of a tail is missing without the tail.** -/
theorem missing_front (lexes : Lexes token place lexer) (parts : whole.Parts front tail)
    (result : lexer whole.skipBlank = none) : lexer front.skipBlank = none := by
  rcases skipBlank_cases parts with ⟨ends, -⟩ | ⟨filled, splits⟩
  · exact lexes.none_of_nil ends
  · exact lexes.missing_of_splits filled splits result

end Use

/-! ### The tokens of the grammar -/

section Tokens

variable {α β : Type} {lexer lexer' : Cursor → Option Cursor}

theorem length_of_take? {word : Text} {here next : Cursor} (filled : word ≠ [])
    (taken : here.take? word = some next) : next.rest.length < here.rest.length :=
  (Cursor.Passes.of_take? taken).length_lt filled

/-- A fixed text of characters that join. -/
theorem take? {word : Text} (filled : word ≠ []) (linked : word.IsChain (joins · · = true)) :
    Plain (Cursor.take? word) where
  passes := fun taken => ⟨word, filled, Cursor.Passes.of_take? taken⟩
  same := by
    intro front whole tail filled' splits
    rw [Cursor.take?, Cursor.take?, splits.rest, Text.dropPrefix?_append linked filled' splits.unjoined]
    cases Text.dropPrefix? word front.rest with
    | none => exact Option.Rel.none
    | some rest => exact Option.Rel.some ⟨rfl, rfl⟩

/-- What goes on with a token is seen in front of a tail just if it is seen without the tail. -/
theorem sees_append {continues : Char → Bool} {front whole : Cursor} {tail : Text}
    (begins : whole.rest = front.rest ++ tail)
    (ends : front.rest = [] → ∀ d ∈ tail.head?, continues d = false) :
    whole.sees continues = front.sees continues := by
  rw [Cursor.sees, Cursor.sees, begins]
  cases rest_eq : front.rest with
  | cons c rest => rfl
  | nil =>
    cases tail with
    | nil => rfl
    | cons c tail => exact ends rest_eq c rfl

/-- A fixed text that the characters which go on with it must not follow. -/
theorem ended {word : Text} {continues : Char → Bool} (lexes : Plain (Cursor.take? word))
    (blind : ∀ c ∈ word.getLast?, ∀ d, joins c d = false → continues d = false) :
    Plain fun here => match here.take? word with
      | some next => if next.sees continues then none else some next
      | none => none where
  passes := by
    intro here next passed
    split at passed
    · rename_i taken
      split at passed
      · cases passed
      · cases passed
        exact lexes.passes taken
    · cases passed
  same := by
    intro front whole tail filled splits
    have same := lexes.same filled splits
    revert same
    cases taken : front.take? word <;> cases whole.take? word <;> intro same <;> cases same
    · exact Option.Rel.none
    · rename_i next next' same
      have alike : next'.sees continues = next.sees continues := by
        refine sees_append same.2 fun ends d first => ?_
        have passed := Cursor.rest_of_take? taken
        rw [ends, List.append_nil] at passed
        obtain ⟨c, atEnd⟩ : ∃ c, front.rest.getLast? = some c :=
          ⟨_, List.getLast?_eq_some_getLast filled⟩
        exact blind c (passed ▸ atEnd) d (splits.unjoined c atEnd d first)
      simp only [alike]
      split
      · exact Option.Rel.none
      · exact Option.Rel.some ⟨trivial, same.2⟩

theorem orElse (first : Plain lexer) (second : Plain lexer') :
    Plain fun here => lexer here <|> lexer' here where
  passes := by
    intro here next found
    rw [Option.orElse_eq_orElse, Option.orElse_eq_or, Option.or_eq_some_iff] at found
    rcases found with found | ⟨-, found⟩
    · exact first.passes found
    · exact second.passes found
  same := by
    intro front whole tail filled splits
    have same := first.same filled splits
    have same' := second.same filled splits
    revert same
    cases lexer front <;> cases lexer whole <;> intro same <;> cases same
    · exact same'
    · rename_i same
      exact Option.Rel.some ⟨rfl, same.2⟩

theorem map (lexes : Plain lexer) (meaning : α) :
    Marked fun here => (lexer here).map (meaning, ·) where
  passes := by
    intro here found passed
    obtain ⟨next, taken, rfl⟩ := Option.map_eq_some_iff.mp passed
    exact lexes.passes taken
  same := by
    intro front whole tail filled splits
    have same := lexes.same filled splits
    revert same
    cases lexer front <;> cases lexer whole <;> intro same <;> cases same
    · exact Option.Rel.none
    · rename_i same
      exact Option.Rel.some ⟨rfl, same.2⟩

theorem findSome? {items : List β} {lexer : β → Cursor → Option (α × Cursor)}
    (lexes : ∀ item ∈ items, Marked (lexer item)) :
    Marked fun here => items.findSome? (lexer · here) where
  passes := by
    intro here found passed
    obtain ⟨item, member, passed⟩ := List.exists_of_findSome?_eq_some passed
    exact (lexes item member).passes passed
  same := by
    intro front whole tail filled splits
    induction items with
    | nil => exact Option.Rel.none
    | cons item items ih =>
      have same := (lexes item (List.mem_cons_self ..)).same filled splits
      have ih := ih fun item member => lexes item (List.mem_cons_of_mem _ member)
      simp only [List.findSome?_cons]
      revert same
      cases lexer item front <;> cases lexer item whole <;> intro same <;> cases same
      · exact ih
      · rename_i same
        exact Option.Rel.some same

/-- A word. -/
theorem word {word : Text} (filled : word ≠ []) (letters : word.all Char.isAlpha = true) :
    Plain (Cursor.keyword? word) := by
  have letter (c : Char) (member : c ∈ word) : c.isAlpha = true := List.all_eq_true.mp letters c member
  refine ended (take? filled ?_) fun c atEnd d unjoined => ?_
  · refine (List.pairwise_of_forall_mem_list fun c member d member' => ?_).isChain
    rw [joins, if_pos (letter c member)]
    exact continuesName_of_isAlpha (letter d member')
  · rw [joins, if_pos (letter c (List.mem_of_getLast? atEnd))] at unjoined
    exact unjoined

/-- A sign, which a certain character must not follow. -/
theorem sign {c longer : Char} (joined : joins c longer = true) :
    Plain (Cursor.symbol? [c] longer) := by
  refine ended (take? (List.cons_ne_nil c []) (List.isChain_singleton c)) fun c' atEnd d unjoined => ?_
  obtain rfl : c = c' := Option.some.inj atEnd
  refine beq_false_of_ne ?_
  rintro rfl
  rw [joined] at unjoined
  cases unjoined

/-- A single character. -/
theorem character {c : Char} : Plain (Cursor.take? [c]) :=
  take? (List.cons_ne_nil c []) (List.isChain_singleton c)

theorem firstSign? {signs : List (Text × α)}
    (linked : ∀ sign ∈ signs, sign.1 ≠ [] ∧ sign.1.IsChain (joins · · = true)) :
    Marked (TextTemplate.firstSign? signs) :=
  findSome? fun sign member => map (take? (linked sign member).1 (linked sign member).2) sign.2

/-- The operators of a level. -/
theorem operator? (level : Level) : Marked (TextTemplate.operator? level) := by
  cases level with
  | disjunction =>
    exact map (orElse (word (by decide) rfl) (take? (by decide) (by decide))) Expr.or
  | conjunction =>
    exact map (orElse (word (by decide) rfl) (take? (by decide) (by decide))) Expr.and
  | comparison => exact firstSign? (by decide)
  | sum => exact firstSign? (by decide)
  | product => exact firstSign? (by decide)
  | _ => exact ⟨fun found => (by cases found), fun _ _ => Option.Rel.none⟩

theorem testName? : Marked TextTemplate.testName? := by
  have names : ∀ name ∈ testNames, name.toList ≠ [] ∧ name.toList.all Char.isAlpha = true := by decide
  exact findSome? fun name known => map (word (names name known).1 (names name known).2) name

end Tokens

/-! ### Memberships -/

section Membership

theorem inWord : Plain (Cursor.keyword? ['i', 'n']) := word (by decide) (by decide)

theorem notWord : Plain (Cursor.keyword? ['n', 'o', 't']) := word (by decide) (by decide)

variable {front whole next : Cursor} {tail : Text} {negated : Bool}

/-- The words of a membership are one word, or two with blanks between them. -/
theorem membership?_eq_some_iff {here : Cursor} : membership? here = some (negated, next) ↔
    (here.keyword? ['i', 'n'] = some next ∧ negated = false) ∨
      ∃ between, here.keyword? ['i', 'n'] = none ∧ here.keyword? ['n', 'o', 't'] = some between ∧
        between.skipBlank.keyword? ['i', 'n'] = some next ∧ negated = true := by
  rw [membership?]
  cases here.keyword? ['i', 'n'] with
  | some next' => simp [and_comm, eq_comm]
  | none =>
    cases here.keyword? ['n', 'o', 't'] with
    | none => simp
    | some between =>
      constructor
      · intro passed
        obtain ⟨next', taken, same⟩ := Option.map_eq_some_iff.mp passed
        cases same
        exact Or.inr ⟨between, rfl, rfl, taken, rfl⟩
      · rintro (⟨missing, -⟩ | ⟨between', -, same, taken, rfl⟩)
        · cases missing
        · cases same
          simp [taken]

theorem membership?_eq_none_iff {here : Cursor} : membership? here = none ↔
    here.keyword? ['i', 'n'] = none ∧ ∀ between, here.keyword? ['n', 'o', 't'] = some between →
      between.skipBlank.keyword? ['i', 'n'] = none := by
  rw [membership?]
  cases here.keyword? ['i', 'n'] with
  | some next => simp
  | none => cases here.keyword? ['n', 'o', 't'] <;> simp

theorem advances_of_membership? {here : Cursor} (passed : membership? here = some (negated, next)) :
    next.rest.length < here.rest.length := by
  rcases membership?_eq_some_iff.mp passed with ⟨taken, -⟩ | ⟨between, -, taken, taken', -⟩
  · exact inWord.advances taken
  · exact (inWord.advances taken').trans_le
      ((Text.length_trimStart_le between.rest).trans (notWord.advances taken).le)

theorem membership?_front (parts : whole.Parts front tail)
    (passed : membership? whole.skipBlank = some (negated, next))
    (inside : tail.trimStart.length ≤ next.rest.length) :
    ∃ next', membership? front.skipBlank = some (negated, next') ∧ next.Splits next' tail := by
  rcases membership?_eq_some_iff.mp passed with
    ⟨taken, positive⟩ | ⟨between, missing, taken, taken', negative⟩
  · obtain ⟨next', found, -, splits⟩ := inWord.found_front parts taken inside
    exact ⟨next', membership?_eq_some_iff.mpr (Or.inl ⟨found, positive⟩), splits⟩
  · have within : next.rest.length ≤ between.rest.length :=
      (inWord.advances taken').le.trans (Text.length_trimStart_le between.rest)
    obtain ⟨between', found, -, splits⟩ := notWord.found_front parts taken (inside.trans within)
    obtain ⟨next', found', -, splits'⟩ := inWord.found_front splits.parts taken' inside
    have missing' := inWord.missing_front parts missing
    have words := membership?_eq_some_iff.mpr (Or.inr ⟨between', missing', found, found', negative⟩)
    exact ⟨next', words, splits'⟩

theorem membership?_missing_front (parts : whole.Parts front tail)
    (missing : membership? whole.skipBlank = none) : membership? front.skipBlank = none := by
  obtain ⟨noIn, noNotIn⟩ := membership?_eq_none_iff.mp missing
  have noIn := inWord.missing_front parts noIn
  refine membership?_eq_none_iff.mpr ⟨noIn, fun between' taken' => ?_⟩
  rcases skipBlank_cases parts with ⟨ends, -⟩ | ⟨filled, splits⟩
  · rw [notWord.none_of_nil ends] at taken'
    cases taken'
  · cases taken : whole.skipBlank.keyword? ['n', 'o', 't'] with
    | none =>
      rw [notWord.missing_front parts taken] at taken'
      cases taken'
    | some between =>
      obtain ⟨between'', taken'', -, splits'⟩ := notWord.found_of_splits filled splits taken
      cases taken'.symm.trans taken''
      exact inWord.missing_front splits'.parts (noNotIn between taken)

end Membership

end Lexes

end TextTemplate
