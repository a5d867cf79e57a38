/-
**Texts of expressions at the levels of the grammar.**

* `Ends`: an expression of a level ends before a text, since no operator of the level or of a tighter
  one begins there;
* `Opening`: what the text of an expression of a level begins with, so that the looser levels pass it
  on;
* `Spells`: a text spells an expression at a level, in front of whatever the level allows;
* `Spells.loosen`: **what is spelled at a level is spelled at all looser ones**.
-/

import TextTemplate.Proofs.Expressions.Operands

namespace TextTemplate

/-! ### Where expressions end -/

/-- **An expression of a level ends before a text.** -/
structure Ends (level : Level) (text : Text) : Prop where
  gap : ∀ c ∈ text.head?, continuesName c = false ∧ c ≠ '.'
  stops : ∀ inner : Level, inner.looseness ≤ level.looseness → Stops inner text

namespace Ends

variable {level inner : Level} {text rest : Text}

theorem mono (ends : Ends level text) (tight : inner.looseness ≤ level.looseness) : Ends inner text :=
  ⟨ends.gap, fun _ tighter => ends.stops _ (tighter.trans tight)⟩

theorem endsName (ends : Ends level text) : EndsName text :=
  fun c first => (ends.gap c first).1

theorem nil : Ends .conditional [] where
  gap c first := by cases first
  stops inner _ := by
    rintro ⟨_, position⟩ rfl
    cases inner <;> rfl

theorem closing {c : Char} (closes : c ∈ [')', ']', ',']) : Ends .conditional (c :: rest) where
  gap d first := by
    cases first
    simp only [List.mem_cons, List.not_mem_nil, or_false] at closes
    rcases closes with rfl | rfl | rfl <;> decide
  stops inner _ := by
    simp only [List.mem_cons, List.not_mem_nil, or_false] at closes
    rcases closes with rfl | rfl | rfl
    all_goals
      rintro ⟨_, position⟩ rfl
      cases inner <;> rfl

/-- A blank, where no operator of the level begins behind it. -/
theorem blank (stops : ∀ inner : Level, inner.looseness ≤ level.looseness → Stops inner (' ' :: rest)) :
    Ends level (' ' :: rest) where
  gap c first := by
    cases first
    decide
  stops := stops

theorem condition : Ends .disjunction (' ' :: 'i' :: 'f' :: ' ' :: rest) := by
  refine blank fun inner tight => ?_
  rintro ⟨_, position⟩ rfl
  cases inner <;> first | rfl | exact absurd tight (by decide)

theorem otherwise : Ends .disjunction (' ' :: 'e' :: 'l' :: 's' :: 'e' :: ' ' :: rest) := by
  refine blank fun inner tight => ?_
  rintro ⟨_, position⟩ rfl
  cases inner <;> first | rfl | exact absurd tight (by decide)

theorem disjunction (spelling : Spelling) :
    Ends .conjunction (' ' :: (spelling.disjunction ++ ' ' :: rest)) := by
  refine blank fun inner tight => ?_
  rintro ⟨_, position⟩ rfl
  rcases spelling with ⟨_ | _, single⟩
  all_goals cases inner <;> first | rfl | exact absurd tight (by decide)

theorem conjunction (spelling : Spelling) :
    Ends .negation (' ' :: (spelling.conjunction ++ ' ' :: rest)) := by
  refine blank fun inner tight => ?_
  rintro ⟨_, position⟩ rfl
  rcases spelling with ⟨_ | _, single⟩
  all_goals cases inner <;> first | rfl | exact absurd tight (by decide)

theorem compare (op : CompareOp) : Ends .sum (' ' :: (op.sign ++ ' ' :: rest)) := by
  refine blank fun inner tight => ?_
  rintro ⟨_, position⟩ rfl
  cases op
  all_goals cases inner <;> first | rfl | exact absurd tight (by decide)

theorem test : Ends .sum (' ' :: 'i' :: 's' :: ' ' :: rest) := by
  refine blank fun inner tight => ?_
  rintro ⟨_, position⟩ rfl
  cases inner <;> first | rfl | exact absurd tight (by decide)

theorem member (negated : Bool) :
    Ends .sum (' ' :: ((if negated then ['n', 'o', 't', ' ', 'i', 'n'] else ['i', 'n']) ++ ' ' :: rest)) := by
  refine blank fun inner tight => ?_
  rintro ⟨_, position⟩ rfl
  cases negated
  all_goals cases inner <;> first | rfl | exact absurd tight (by decide)

theorem arith (op : ArithOp) : Ends op.level.tighter (' ' :: (op.sign ++ ' ' :: rest)) := by
  refine blank fun inner tight => ?_
  rintro ⟨_, position⟩ rfl
  cases op
  all_goals cases inner <;> first | rfl | exact absurd tight (by decide)

end Ends

/-! ### How expressions begin -/

/-- Whether a character may be the first one of the text of an expression. -/
def opensExpr (c : Char) : Bool :=
  continuesName c || c == '"' || c == '\'' || c == '[' || c == '(' || c == '-' || c == '!'

theorem isBlank_of_opensExpr {c : Char} (opens : opensExpr c = true) : Text.isBlank c = false := by
  simp only [opensExpr, Bool.or_eq_true, beq_iff_eq] at opens
  rcases opens with (((((continues | rfl) | rfl) | rfl) | rfl) | rfl) | rfl
  · exact isBlank_of_continuesName continues
  all_goals rfl

/-- **What the text of an expression of a level begins with**: an operand has no sign, and a comparison
no negation. -/
structure Opening (level : Level) (text : Text) : Prop where
  first : ∃ c ∈ text.head?, opensExpr c = true
  unsigned : level.looseness = 0 → ∀ c ∈ text.head?, c ≠ '-'
  positive : level.looseness ≤ 4 → (∀ c ∈ text.head?, c ≠ '!') ∧
    ∀ rest, EndsName rest → (text ++ rest).takeWhile continuesName ≠ ['n', 'o', 't']

namespace Opening

variable {level level' : Level} {text rest : Text} {c : Char}

theorem mono (opening : Opening level text) (loose : level.looseness ≤ level'.looseness) :
    Opening level' text where
  first := opening.first
  unsigned zero := opening.unsigned (by omega)
  positive low := opening.positive (by omega)

theorem head?_append (opening : Opening level text) : (text ++ rest).head? = text.head? := by
  obtain ⟨c, isFirst, -⟩ := opening.first
  obtain ⟨text', rfl⟩ := List.head?_eq_some_iff.mp isFirst
  rfl

theorem append (opening : Opening level text) (ends : EndsName rest) : Opening level (text ++ rest) where
  first := by
    rw [opening.head?_append]
    exact opening.first
  unsigned zero := by
    rw [opening.head?_append]
    exact opening.unsigned zero
  positive low := by
    refine ⟨?_, fun rest' ends' => ?_⟩
    · rw [opening.head?_append]
      exact (opening.positive low).1
    · rw [List.append_assoc]
      refine (opening.positive low).2 (rest ++ rest') ?_
      cases rest with
      | nil => exact ends'
      | cons c rest => exact ends

/-- A text whose first character begins neither a sign nor a negation. -/
theorem of_head (opens : opensExpr c = true) (noSign : c ≠ '-') (noNegation : c ≠ '!')
    (noWord : c ≠ 'n') : Opening .operand (c :: text) where
  first := ⟨c, rfl, opens⟩
  unsigned _ := fun d first => by
    cases first
    exact noSign
  positive _ := by
    refine ⟨fun d first => ?_, fun rest _ same => ?_⟩
    · cases first
      exact noNegation
    · rw [List.cons_append, List.takeWhile_cons] at same
      split at same
      · exact noWord (List.cons.inj same).1
      · cases same

/-- A name other than the negation. -/
theorem of_isName {name : Text} (valid : IsName name) (other : name ≠ ['n', 'o', 't']) :
    Opening .operand name := by
  obtain ⟨c, isFirst, begins⟩ := valid.first
  have continues := continuesName_of_beginsName begins
  refine ⟨⟨c, isFirst, ?_⟩, fun _ d first => ?_, fun _ => ⟨fun d first => ?_, fun rest ends => ?_⟩⟩
  · simp only [opensExpr, continues, Bool.true_or]
  · rintro rfl
    exact absurd (valid.all _ (List.mem_of_head? first)) (by decide)
  · rintro rfl
    exact absurd (valid.all _ (List.mem_of_head? first)) (by decide)
  · rw [takeWhile_append_of_endsName valid.all ends]
    exact other

/-- The first character of a text. -/
theorem exists_cons (opening : Opening level text) :
    ∃ c text', text = c :: text' ∧ opensExpr c = true := by
  obtain ⟨c, isFirst, opens⟩ := opening.first
  obtain ⟨text', same⟩ := List.head?_eq_some_iff.mp isFirst
  exact ⟨c, text', same, opens⟩

theorem trimStart_append (opening : Opening level text) : Text.trimStart (text ++ rest) = text ++ rest := by
  obtain ⟨c, text', rfl, opens⟩ := opening.exists_cons
  exact Text.trimStart_of_not_isBlank (isBlank_of_opensExpr opens)

/-- A text does not begin with a character that opens no expression. -/
theorem take?_of_not_opensExpr {here : Cursor} (opening : Opening level text)
    (begins : here.rest = Text.trimStart (text ++ rest)) (closed : opensExpr c = false) :
    here.take? [c] = none := by
  obtain ⟨d, text', rfl, opens⟩ := opening.exists_cons
  rw [opening.trimStart_append] at begins
  refine Cursor.take?_of_head begins ?_
  rintro rfl
  rw [opens] at closed
  cases closed

end Opening

/-! ### Texts that spell an expression -/

/-- What may follow the text of an operand: a name must not go on, a number must not get a fraction,
and a filter must not get arguments. -/
structure Apart (expr : Expr) (text : Text) : Prop where
  endsName : EndsName text
  noPoint : expr.isNumber = true → ∀ c ∈ text.head?, c ≠ '.'
  noList : expr.isBareFilter = true →
    ∀ here : Cursor, here.rest = text.trimStart → here.take? ['('] = none

theorem Ends.apart {level : Level} {text : Text} (ends : Ends level text) (expr : Expr) :
    Apart expr text where
  endsName := ends.endsName
  noPoint _ := fun c first => (ends.gap c first).2
  noList _ := fun here begins => by
    have stopped := ends.stops .operand (Nat.zero_le _) here begins
    simp only [Cursor.stops, Bool.and_eq_true, Option.isNone_iff_eq_none] at stopped
    exact stopped.1.2

/-- **A text spells an expression at a level.** At an operand and at the levels of binary operators the
parser goes on with what follows; at the other levels the expression must end there. -/
def Spells (level : Level) (expr : Expr) (text : Text) : Prop :=
  match level with
  | .operand => ∀ between result rest, Apart expr between →
      ParsesMore .operand expr between result rest → ParsesLevel .operand (text ++ between) result rest
  | .conditional | .negation | .sign => ∀ rest, Ends level rest → ParsesLevel level (text ++ rest) expr rest
  | level => ∀ between result rest, Ends level.tighter between →
      ParsesMore level expr between result rest → ParsesLevel level (text ++ between) result rest

namespace Spells

variable {level level' : Level} {expr : Expr} {text rest : Text}

theorem of_isBinary (binary : level.isBinary = true)
    (reads : ∀ between result rest, Ends level.tighter between →
      ParsesMore level expr between result rest → ParsesLevel level (text ++ between) result rest) :
    Spells level expr text := by
  cases level <;> first | exact reads | contradiction

theorem joined (spells : Spells level expr text) (binary : level.isBinary = true)
    {between : Text} {result : Expr} (ends : Ends level.tighter between)
    (more : ParsesMore level expr between result rest) : ParsesLevel level (text ++ between) result rest := by
  cases level <;> first | exact spells between result rest ends more | contradiction

/-- An expression that ends behind its text. -/
theorem closed (spells : Spells level expr text) (ends : Ends level rest) :
    ParsesLevel level (text ++ rest) expr rest := by
  have stops := ends.stops level (Nat.le_refl _)
  by_cases binary : level.isBinary = true
  · have tight : level.tighter.looseness ≤ level.looseness := by cases level <;> decide
    have notConditional : level ≠ .conditional := by
      rintro rfl
      cases binary
    exact spells.joined binary (ends.mono tight) (ParsesMore.stop notConditional stops)
  · cases level with
    | conditional => exact spells rest ends
    | negation => exact spells rest ends
    | sign => exact spells rest ends
    | operand => exact spells rest expr rest (ends.apart expr) (ParsesMore.stop (by decide) stops)
    | _ => exact absurd rfl binary

/-- What is spelled at a level is spelled at the next looser one. -/
theorem of_tighter (loose : level ≠ .operand) (opening : Opening level.tighter text)
    (spells : Spells level.tighter expr text) : Spells level expr text := by
  by_cases binary : level.isBinary = true
  · exact of_isBinary binary fun between result rest ends more =>
      ParsesLevel.binary binary (spells.closed ends) more
  · cases level with
    | operand => contradiction
    | conditional =>
      intro rest ends
      exact ParsesLevel.conditional_of_disjunction (ends.stops .conditional (Nat.le_refl _))
        (spells.closed (ends.mono (by decide)))
    | negation =>
      intro rest ends
      refine ParsesLevel.negation_of_comparison (fun here begins => ?_)
        (spells.closed (ends.mono (by decide)))
      obtain ⟨noSign, noWord⟩ := opening.positive (Nat.le_refl _)
      obtain ⟨c, text', rfl, -⟩ := opening.exists_cons
      rw [opening.trimStart_append] at begins
      refine ⟨Cursor.keyword?_of_ne (by decide) ?_, ?_⟩
      · rw [begins]
        exact noWord rest ends.endsName
      · rw [Cursor.symbol?, Cursor.take?_of_head begins (noSign c rfl).symm]
    | sign =>
      intro rest ends
      refine ParsesLevel.sign_of_operand (fun here begins => ⟨?_, ?_⟩)
        (spells.closed (ends.mono (by decide)))
      · obtain ⟨c, text', rfl, -⟩ := opening.exists_cons
        rw [opening.trimStart_append] at begins
        exact Cursor.take?_of_head begins (opening.unsigned rfl c rfl).symm
      · exact opening.take?_of_not_opensExpr begins (by decide)
    | _ => contradiction

/-- **What is spelled at a level is spelled at all looser ones.** -/
theorem loosen (loose : level.looseness ≤ level'.looseness) (opening : Opening level text)
    (spells : Spells level expr text) : Spells level' expr text := by
  -- by induction on how much looser the level is
  induction distance : level'.looseness - level.looseness generalizing level' with
  | zero =>
    have same : level = level' := by
      have equal : level.looseness = level'.looseness := by omega
      cases level <;> cases level' <;> first | rfl | cases equal
    exact same ▸ spells
  | succ distance ih =>
    have notOperand : level' ≠ .operand := by
      rintro rfl
      simp only [Level.looseness] at distance
      omega
    have next : level'.tighter.looseness + 1 = level'.looseness := by
      cases level' <;> first | rfl | contradiction
    exact of_tighter notOperand (opening.mono (by omega)) (ih (by omega) (by omega))

end Spells

end TextTemplate
