/-
**Written expressions are read back.**

* `Spelled`: the text of an expression spells it at its level; `Spelled.spells_text`: then it does so
  wherever it is placed, in parentheses or not;
* `spelled_of_writable`: **every expression that has a text is spelled by it**, with one rule for each
  constructor;
* `parseExpr_written`: a written expression is parsed as the expression, in every style.
-/

import TextTemplate.Proofs.Expressions.Levels

namespace TextTemplate

attribute [local simp] Style.bare

/-! ### Parentheses -/

/-- A text in parentheses stands before anything. -/
theorem reads_inParentheses {level : Level} {expr result : Expr} {text between rest : Text}
    (opening : Opening level text) (spells : Spells level expr text)
    (more : ParsesMore .operand expr between result rest) :
    ParsesLevel .operand (inParentheses text ++ between) result rest := by
  have loose : Spells .conditional expr text := spells.loosen (by cases level <;> decide) opening
  have inside : ParsesLevel .conditional (text ++ ')' :: between) expr (')' :: between) :=
    loose.closed (Ends.closing (by decide))
  have whole : inParentheses text ++ between = '(' :: (text ++ ')' :: between) := by
    simp [inParentheses]
  rw [whole]
  exact ParsesLevel.operand (ParsesOperand.parentheses inside) more

theorem opening_inParentheses (level : Level) (text : Text) : Opening level (inParentheses text) :=
  (Opening.of_head (by decide) (by decide) (by decide) (by decide)).mono (Nat.zero_le _)

theorem endsName_cons {c : Char} {text : Text} (ends : continuesName c = false) : EndsName (c :: text) :=
  fun d first => by
    cases first
    exact ends

/-- **The text of an expression spells it at its level**; a filter without arguments is spelled with an
empty list of them, too. -/
structure Spelled (style : Style) (expr : Expr) : Prop where
  opening : Opening expr.level (style.bare expr)
  spells : Spells expr.level expr (style.bare expr)
  called : expr.isBareFilter = true → ∀ {between result rest},
    ParsesMore .operand expr between result rest →
      ParsesLevel .operand (style.bare expr ++ '(' :: ')' :: between) result rest

namespace Spelled

variable {style : Style} {expr : Expr}

theorem opening_text (spelled : Spelled style expr) (level : Level) :
    Opening level (style.text level expr) := by
  rw [Style.text, Style.placed]
  split
  · exact opening_inParentheses level _
  · rename_i bare
    rw [Bool.or_eq_true, not_or, decide_eq_true_eq] at bare
    exact spelled.opening.mono (Nat.not_lt.mp bare.1)

/-- **The text of an expression spells it wherever it is placed.** -/
theorem spells_text (spelled : Spelled style expr) (level : Level) :
    Spells level expr (style.text level expr) := by
  rw [Style.text, Style.placed]
  split
  · have inside : Spells .operand expr (inParentheses (style.bare expr)) :=
      fun _ _ _ _ more => reads_inParentheses spelled.opening spelled.spells more
    exact inside.loosen (Nat.zero_le _) (opening_inParentheses .operand _)
  · rename_i bare
    rw [Bool.or_eq_true, not_or, decide_eq_true_eq] at bare
    exact spelled.spells.loosen (Nat.not_lt.mp bare.1) spelled.opening

theorem closed_text (spelled : Spelled style expr) {level : Level} {rest : Text}
    (ends : Ends level rest) : ParsesLevel level (style.text level expr ++ rest) expr rest :=
  (spelled.spells_text level).closed ends

section Target

variable {between rest : Text} {result : Expr}

/-- An operand before a text that does not go on with it. -/
theorem target (spelled : Spelled style expr) (apart : Apart expr between)
    (more : ParsesMore .operand expr between result rest) :
    ParsesLevel .operand (style.text .operand expr ++ between) result rest :=
  spelled.spells_text .operand between result rest apart more

theorem beforePoint (spelled : Spelled style expr)
    (more : ParsesMore .operand expr ('.' :: between) result rest) :
    ParsesLevel .operand (style.beforePoint expr (style.bare expr) ++ '.' :: between) result rest := by
  rw [Style.beforePoint]
  split
  · exact reads_inParentheses spelled.opening spelled.spells more
  · rename_i noNumber
    refine spelled.target ⟨endsName_cons (by decide), fun number => absurd number noNumber, ?_⟩ more
    exact fun _ here begins => Cursor.take?_of_head begins (by decide)

theorem opening_beforePoint (spelled : Spelled style expr) :
    Opening .operand (style.beforePoint expr (style.bare expr)) := by
  rw [Style.beforePoint]
  split
  · exact opening_inParentheses .operand _
  · exact spelled.opening_text .operand

theorem opening_called (spelled : Spelled style expr) :
    Opening expr.level (style.bare expr ++ ['(', ')']) :=
  spelled.opening.append (endsName_cons (by decide))

theorem level_of_isBareFilter (filter : expr.isBareFilter = true) : expr.level = .operand := by
  unfold Expr.isBareFilter at filter
  split at filter
  · rfl
  · cases filter

theorem beforeCall (spelled : Spelled style expr)
    (more : ParsesMore .operand expr ('(' :: between) result rest) :
    ParsesLevel .operand (style.beforeCall expr (style.bare expr) ++ '(' :: between) result rest := by
  rw [Style.beforeCall]
  split
  · rename_i filter
    have operand := level_of_isBareFilter filter
    rw [Style.placed]
    split
    · have opening := spelled.opening_called
      rw [operand] at opening
      refine reads_inParentheses opening (fun between result rest _ more => ?_) more
      rw [List.append_assoc]
      exact spelled.called filter more
    · rw [List.append_assoc]
      exact spelled.called filter more
  · rename_i noFilter
    refine spelled.target ⟨endsName_cons (by decide), fun _ c first => ?_, ?_⟩ more
    · cases first
      decide
    · exact fun filter => absurd filter noFilter

theorem opening_beforeCall (spelled : Spelled style expr) :
    Opening .operand (style.beforeCall expr (style.bare expr)) := by
  rw [Style.beforeCall]
  split
  · rename_i filter
    rw [Style.placed]
    split
    · exact opening_inParentheses .operand _
    · rw [← level_of_isBareFilter filter]
      exact spelled.opening_called
  · exact spelled.opening_text .operand

end Target

end Spelled

/-! ### Lists -/

section Lists

variable {style : Style} {rest : Text}

/-- The elements of a list up to the closing sign. -/
theorem reads_bareItems {close : Char} (closes : close = ')' ∨ close = ']') {items : List Expr}
    (spelled : ∀ item ∈ items, Spelled style item) :
    ParsesList close (style.bareItems items ++ close :: rest) items rest := by
  have visible : Text.isBlank close = false := by
    rcases closes with rfl | rfl <;> rfl
  have noComma : close ≠ ',' := by
    rcases closes with rfl | rfl <;> decide
  have noExpr : opensExpr close = false := by
    rcases closes with rfl | rfl <;> rfl
  have member : close ∈ [')', ']', ','] := by
    rcases closes with rfl | rfl <;> decide
  induction items with
  | nil => exact ParsesList.nil visible
  | cons item items ih =>
    have first := spelled item (List.mem_cons_self ..)
    have opening := first.opening_text .conditional
    cases items with
    | nil =>
      show ParsesList close (style.text .conditional item ++ close :: rest) [item] rest
      exact ParsesList.singleton (fun here begins => opening.take?_of_not_opensExpr begins noExpr)
        visible noComma (first.closed_text (Ends.closing member))
    | cons next items =>
      have more := ih fun item member => spelled item (List.mem_cons_of_mem _ member)
      have whole : style.bareItems (item :: next :: items) ++ close :: rest =
          style.text .conditional item ++
            ',' :: ' ' :: (style.bareItems (next :: items) ++ close :: rest) := by
        simp [Style.bareItems, Style.text]
      rw [whole]
      exact ParsesList.cons (fun here begins => opening.take?_of_not_opensExpr begins noExpr)
        (first.closed_text (Ends.closing (by decide))) more.blank

/-- Arguments in parentheses, if there are any. -/
theorem reads_listed {args : List Expr} (spelled : ∀ arg ∈ args, Spelled style arg)
    (noList : args = [] → ∀ here : Cursor, here.rest = rest.trimStart → here.take? ['('] = none) :
    ParsesArgs (listed args (style.bareItems args) ++ rest) args rest := by
  cases args with
  | nil => exact ParsesArgs.nil (noList rfl)
  | cons arg args =>
    have whole : listed (arg :: args) (style.bareItems (arg :: args)) ++ rest =
        '(' :: (style.bareItems (arg :: args) ++ ')' :: rest) := by
      simp [listed, inParentheses]
    rw [whole]
    exact ParsesArgs.list (reads_bareItems (.inl rfl) spelled)

theorem endsName_listed {args : List Expr} {text : Text} (ends : EndsName rest) :
    EndsName (listed args text ++ rest) := by
  cases args with
  | nil => exact ends
  | cons arg args => exact endsName_cons (by decide)

end Lists

/-! ### Each constructor -/

namespace Spelled

variable {style : Style} {expr target left right : Expr} {word : String} {args : List Expr}

/-- An operand that is read as a whole. -/
theorem of_operand (operand : expr.level = .operand) (noFilter : expr.isBareFilter = false)
    (opening : Opening .operand (style.bare expr))
    (reads : ∀ rest, Apart expr rest → ParsesOperand (style.bare expr ++ rest) expr rest) :
    Spelled style expr where
  opening := by rwa [operand]
  spells := by
    rw [operand]
    exact fun between result rest apart more => ParsesLevel.operand (reads between apart) more
  called filter := by
    rw [noFilter] at filter
    cases filter

/-- A name, which may stand for a literal. -/
theorem of_nameExpr (name : Text) (valid : IsName name) (other : name ≠ ['n', 'o', 't'])
    (named : nameExpr (String.ofList name) = expr) (operand : expr.level = .operand)
    (noFilter : expr.isBareFilter = false) (bare : style.bare expr = name) : Spelled style expr := by
  refine of_operand operand noFilter ?_ fun rest apart => ?_
  · rw [bare]
    exact Opening.of_isName valid other
  · rw [bare, ← named]
    exact ParsesOperand.name valid apart.endsName

theorem null : Spelled style (.literal .null) :=
  of_nameExpr ['n', 'u', 'l', 'l'] (by decide) (by decide) rfl rfl rfl rfl

theorem bool (b : Bool) : Spelled style (.literal (.bool b)) := by
  cases b with
  | true => exact of_nameExpr ['t', 'r', 'u', 'e'] (by decide) (by decide) rfl rfl rfl rfl
  | false => exact of_nameExpr ['f', 'a', 'l', 's', 'e'] (by decide) (by decide) rfl rfl rfl rfl

theorem name (valid : IsName word.toList) (free : word ∉ literalWords ++ operatorWords) :
    Spelled style (.name word) := by
  simp only [literalWords, operatorWords, List.mem_append, List.mem_cons, List.not_mem_nil, or_false,
    not_or] at free
  refine of_nameExpr word.toList valid (fun same => ?_) ?_ rfl rfl rfl
  · exact free.2.1 (String.toList_inj.mp same)
  · simp [nameExpr, free]

theorem int {n : Int64} (natural : 0 ≤ n.toInt) : Spelled style (.literal (.int n)) := by
  refine of_operand rfl rfl ?_ fun rest apart => ?_
  · obtain ⟨c, digits, begins, digit, -⟩ := exists_digitText_eq_cons n.toInt.toNat
    show Opening .operand (Decimal.digitText n.toInt.toNat)
    rw [begins]
    refine Opening.of_head (by simp [opensExpr, continuesName_of_isDigit digit]) ?_ ?_ ?_
    all_goals
      rintro rfl
      exact absurd digit (by decide)
  · exact ParsesOperand.number natural apart.endsName (apart.noPoint rfl)

theorem string (s : String) : Spelled style (.literal (.string s)) := by
  have quotes : style.spelling.quote = '"' ∨ style.spelling.quote = '\'' := by
    rcases style with ⟨⟨signs, _ | _⟩, parentheses⟩
    · exact .inl rfl
    · exact .inr rfl
  refine of_operand rfl rfl ?_ fun rest _ => ?_
  · show Opening .operand (quotedBy style.spelling.quote s.toList)
    refine Opening.of_head ?_ ?_ ?_ ?_ <;> rcases quotes with same | same <;> rw [same] <;> decide
  · have reads := ParsesOperand.quoted quotes s.toList rest
    rwa [Value.ofText, String.ofList_toList] at reads

theorem array {items : List Expr} (spelled : ∀ item ∈ items, Spelled style item) :
    Spelled style (.array items) := by
  refine of_operand rfl rfl (Opening.of_head (by decide) (by decide) (by decide) (by decide))
    fun rest _ => ?_
  have whole : style.bare (.array items) ++ rest = '[' :: (style.bareItems items ++ ']' :: rest) := by
    simp
  rw [whole]
  exact ParsesOperand.array (reads_bareItems (.inr rfl) spelled)

theorem field (spelled : Spelled style target) (filled : word.toList ≠ [])
    (continues : ∀ c ∈ word.toList, continuesName c = true) : Spelled style (.field target word) where
  opening := spelled.opening_beforePoint.append (endsName_cons (by decide))
  spells := by
    intro between result rest apart more
    have whole : style.bare (.field target word) ++ between =
        style.beforePoint target (style.bare target) ++ '.' :: (word.toList ++ between) := by
      simp
    rw [whole]
    refine spelled.beforePoint (ParsesMore.field filled continues apart.endsName ?_)
    rwa [String.ofList_toList]
  called filter := by cases filter

theorem index {selector : Expr} (spelled : Spelled style target) (spelled' : Spelled style selector) :
    Spelled style (.index target selector) where
  opening := (spelled.opening_text .operand).append (endsName_cons (by decide))
  spells := by
    intro between result rest _ more
    have whole : style.bare (.index target selector) ++ between =
        style.text .operand target ++ '[' :: (style.text .conditional selector ++ ']' :: between) := by
      simp [Style.text]
    rw [whole]
    refine spelled.target ⟨endsName_cons (by decide), fun _ c first => ?_, fun _ here begins => ?_⟩
      (ParsesMore.index (spelled'.closed_text (Ends.closing (by decide))) more)
    · cases first
      decide
    · exact Cursor.take?_of_head begins (by decide)
  called filter := by cases filter

theorem call (spelled : Spelled style target) (spelled' : ∀ arg ∈ args, Spelled style arg) :
    Spelled style (.call target args) where
  opening := spelled.opening_beforeCall.append (endsName_cons (by decide))
  spells := by
    intro between result rest _ more
    have whole : style.bare (.call target args) ++ between =
        style.beforeCall target (style.bare target) ++
          '(' :: (style.bareItems args ++ ')' :: between) := by
      simp [inParentheses]
    rw [whole]
    exact spelled.beforeCall (ParsesMore.call (reads_bareItems (.inl rfl) spelled') more)
  called filter := by cases filter

theorem filter (spelled : Spelled style target) (valid : IsName word.toList)
    (spelled' : ∀ arg ∈ args, Spelled style arg) : Spelled style (.filter target word args) := by
  -- what comes behind the name are the arguments
  have reads {more between rest : Text} {result : Expr} (ends : EndsName more)
      (lists : ParsesArgs more args between)
      (follows : ParsesMore .operand (.filter target word args) between result rest) :
      ParsesLevel .operand
        (style.text .operand target ++ ' ' :: '|' :: ' ' :: (word.toList ++ more)) result rest := by
    refine spelled.target ⟨endsName_cons (by decide), fun _ c first => ?_, fun _ here begins => ?_⟩
      (ParsesMore.filter valid ends lists ?_)
    · cases first
      decide
    · exact Cursor.take?_of_head begins (by decide)
    · rwa [String.ofList_toList]
  have whole (more : Text) : style.bare (.filter target word args) ++ more =
      style.text .operand target ++
        ' ' :: '|' :: ' ' :: (word.toList ++ (listed args (style.bareItems args) ++ more)) := by
    simp [Style.text]
  refine ⟨?_, fun between result rest apart more => ?_, fun filter between result rest more => ?_⟩
  · have begins := whole []
    rw [List.append_nil] at begins
    rw [begins]
    exact (spelled.opening_text .operand).append (endsName_cons (by decide))
  · rw [whole]
    refine reads (endsName_listed apart.endsName) (reads_listed spelled' fun none => ?_) more
    exact apart.noList (by rw [none]; rfl)
  · have none : args = [] := by
      cases args with
      | nil => rfl
      | cons arg args => cases filter
    rw [whole]
    subst none
    exact reads (endsName_cons (by decide))
      (ParsesArgs.list (reads_bareItems (.inl rfl) spelled')) more

theorem neg {operand : Expr} (spelled : Spelled style operand) : Spelled style (.neg operand) where
  opening :=
    { first := ⟨'-', rfl, by decide⟩
      unsigned := fun zero => by cases zero
      positive := fun _ => ⟨fun c first => by cases first; decide, fun rest _ same => by cases same⟩ }
  spells := fun rest ends => (spelled.closed_text ends).neg
  called filter := by cases filter

theorem not {operand : Expr} (spelled : Spelled style operand) : Spelled style (.not operand) where
  opening :=
    { first := by
        show ∃ c ∈ (style.spelling.negation ++ style.text .negation operand).head?, _
        rcases style with ⟨⟨_ | _, single⟩, parentheses⟩
        · exact ⟨'n', rfl, by decide⟩
        · exact ⟨'!', rfl, by decide⟩
      unsigned := fun zero => by cases zero
      positive := fun (low : Level.negation.looseness ≤ 4) => absurd low (by decide) }
  spells := by
    intro rest (ends : Ends .negation rest)
    have reads := spelled.closed_text ends
    have opening := spelled.opening_text .negation
    show ParsesLevel .negation
      ((style.spelling.negation ++ style.text .negation operand) ++ rest) (.not operand) rest
    rw [List.append_assoc]
    refine ParsesLevel.not ?_ (fun here begins => ?_) reads
    · have filled := style.spelling.length_negation_pos
      simp only [List.length_append]
      omega
    · rcases style with ⟨⟨_ | _, single⟩, parentheses⟩
      · refine ⟨here.behind ['n', 'o', 't'] (' ' :: _), ?_, Cursor.At.of_blank (Cursor.At.of_rest rfl)⟩
        rw [Cursor.keyword?_of_rest begins (endsName_cons (by decide))]
        rfl
      · obtain ⟨c, text, same, opens⟩ := opening.exists_cons
        have notEqual : (c == '=') = false := by
          refine beq_false_of_ne ?_
          rintro rfl
          cases opens
        refine ⟨here.behind ['!'] _, ?_, Cursor.At.of_rest rfl⟩
        have noWord : here.keyword? ['n', 'o', 't'] = none := by
          refine Cursor.keyword?_of_ne (by decide) ?_
          rw [begins]
          exact fun same => by cases same
        have sees : (here.behind ['!'] (c :: (text ++ rest))).sees (· == '=') = false := notEqual
        rw [noWord, Cursor.symbol?, Cursor.take?_of_rest begins, same]
        simp only [List.cons_append, sees]
        rfl
  called filter := by cases filter

/-- An expression of a level of binary operators, whose left operand comes first. -/
theorem of_left (level : Level) {more : Text} (binary : level.isBinary = true)
    (same : expr.level = level) (bare : style.bare expr = style.text level left ++ ' ' :: more)
    (spelled : Spelled style left) (ends : ∀ rest, Ends level.tighter (' ' :: (more ++ rest)))
    (reads : ∀ {between result rest}, Ends level.tighter between →
      ParsesMore level expr between result rest →
        ParsesMore level left (' ' :: (more ++ between)) result rest) : Spelled style expr where
  opening := by
    rw [same, bare]
    exact (spelled.opening_text level).append (endsName_cons (by decide))
  spells := by
    rw [same]
    refine Spells.of_isBinary binary fun between result rest ends' follows => ?_
    have whole : style.bare expr ++ between = style.text level left ++ ' ' :: (more ++ between) := by
      rw [bare, List.append_assoc, List.cons_append]
    rw [whole]
    exact (spelled.spells_text level).joined binary (ends between) (reads ends' follows)
  called filter := by
    rw [level_of_isBareFilter filter] at same
    subst same
    cases binary

/-- A binary operator. -/
theorem infixed (level : Level) (make : Expr → Expr → Expr) {sign : Text}
    (binary : level.isBinary = true) (same : (make left right).level = level)
    (bare : style.bare (make left right) =
      infixed (style.text level left) sign (style.text level.tighter right))
    (ends : ∀ rest, Ends level.tighter (' ' :: (sign ++ ' ' :: rest)))
    (found : ∀ rest, ∀ here : Cursor, here.rest = Text.trimStart (' ' :: (sign ++ ' ' :: rest)) →
      ∃ next, operator? level here = some (make, next) ∧ next.At rest)
    (spelled : Spelled style left) (spelled' : Spelled style right) :
    Spelled style (make left right) := by
  have whole (rest : Text) : (sign ++ ' ' :: style.text level.tighter right) ++ rest =
      sign ++ ' ' :: (style.text level.tighter right ++ rest) := by
    rw [List.append_assoc, List.cons_append]
  refine of_left level binary same bare spelled (fun rest => ?_) fun ends' follows => ?_
  · rw [whole]
    exact ends _
  · rw [whole]
    refine ParsesMore.operator (fun operand => ?_) ?_ (found _) (spelled'.closed_text ends') follows
    · subst operand
      cases binary
    · simp only [List.length_cons, List.length_append]
      omega

theorem or (spelled : Spelled style left) (spelled' : Spelled style right) :
    Spelled style (.or left right) := by
  refine infixed .disjunction .or rfl rfl rfl (fun rest => Ends.disjunction style.spelling)
    (fun rest => ?_) spelled spelled'
  rintro ⟨_, position⟩ rfl
  rcases style with ⟨⟨_ | _, single⟩, parentheses⟩ <;> exact ⟨_, rfl, rfl⟩

theorem and (spelled : Spelled style left) (spelled' : Spelled style right) :
    Spelled style (.and left right) := by
  refine infixed .conjunction .and rfl rfl rfl (fun rest => Ends.conjunction style.spelling)
    (fun rest => ?_) spelled spelled'
  rintro ⟨_, position⟩ rfl
  rcases style with ⟨⟨_ | _, single⟩, parentheses⟩ <;> exact ⟨_, rfl, rfl⟩

theorem compare (op : CompareOp) (spelled : Spelled style left) (spelled' : Spelled style right) :
    Spelled style (.compare op left right) := by
  refine infixed .comparison (.compare op) rfl rfl rfl (fun rest => Ends.compare op)
    (fun rest => ?_) spelled spelled'
  rintro ⟨_, position⟩ rfl
  cases op <;> exact ⟨_, rfl, rfl⟩

theorem arith (op : ArithOp) (spelled : Spelled style left) (spelled' : Spelled style right) :
    Spelled style (.arith op left right) := by
  refine infixed op.level (.arith op) (by cases op <;> rfl) rfl rfl
    (fun rest => Ends.arith op) (fun rest => ?_) spelled spelled'
  rintro ⟨_, position⟩ rfl
  cases op <;> exact ⟨_, rfl, rfl⟩

theorem member {item container : Expr} (negated : Bool) (spelled : Spelled style item)
    (spelled' : Spelled style container) : Spelled style (.member item container negated) := by
  refine of_left .comparison rfl rfl rfl spelled (fun rest => ?_) fun ends' follows => ?_
  · rw [List.append_assoc]
    exact Ends.member negated
  · rw [List.append_assoc]
    exact ParsesMore.member negated (spelled'.closed_text ends') follows

theorem test (negated : Bool) (known : word ∈ testNames) (spelled : Spelled style target)
    (spelled' : ∀ arg ∈ args, Spelled style arg) : Spelled style (.test target word args negated) := by
  refine of_left .comparison rfl rfl rfl spelled (fun rest => Ends.test)
    fun {between} _ _ ends' follows => ?_
  have reads := ParsesTest.named target negated known (endsName_listed ends'.endsName)
    (reads_listed spelled' fun _ => (ends'.apart (.filter target word [])).noList rfl)
  have whole : (['i', 's'] ++ ' ' :: ((if negated then ['n', 'o', 't', ' '] else []) ++ word.toList ++
        listed args (style.bareItems args))) ++ between =
      'i' :: 's' :: ' ' :: ((if negated then ['n', 'o', 't', ' '] else []) ++
        (word.toList ++ (listed args (style.bareItems args) ++ between))) := by
    simp
  rw [whole]
  exact ParsesMore.test reads follows

section Conditional

variable {value condition otherwise : Expr}

theorem conditional_none (spelled : Spelled style value) (spelled' : Spelled style condition) :
    Spelled style (.conditional value condition none) where
  opening := ((spelled.opening_text .disjunction).append (endsName_cons (by decide))).mono
    (Nat.le_succ 7)
  spells := by
    intro rest (ends : Ends .conditional rest)
    have whole : style.bare (.conditional value condition none) ++ rest =
        style.text .disjunction value ++
          ' ' :: 'i' :: 'f' :: ' ' :: (style.text .disjunction condition ++ rest) := by
      simp [Style.text, TextTemplate.infixed]
    rw [whole]
    exact ParsesLevel.conditional_none (spelled.closed_text Ends.condition)
      (ends.stops .conditional (Nat.le_refl _)) (spelled'.closed_text (ends.mono (by decide)))
  called filter := by cases filter

theorem conditional_some (spelled : Spelled style value) (spelled' : Spelled style condition)
    (spelled'' : Spelled style otherwise) :
    Spelled style (.conditional value condition (some otherwise)) where
  opening := (((spelled.opening_text .disjunction).append (endsName_cons (by decide))).append
    (endsName_cons (by decide))).mono (Nat.le_succ 7)
  spells := by
    intro rest (ends : Ends .conditional rest)
    have whole : style.bare (.conditional value condition (some otherwise)) ++ rest =
        style.text .disjunction value ++ ' ' :: 'i' :: 'f' :: ' ' ::
          (style.text .disjunction condition ++ ' ' :: 'e' :: 'l' :: 's' :: 'e' :: ' ' ::
            (style.text .conditional otherwise ++ rest)) := by
      simp [Style.text, TextTemplate.infixed]
    rw [whole]
    exact ParsesLevel.conditional_some (spelled.closed_text Ends.condition)
      (spelled'.closed_text Ends.otherwise) (spelled''.closed_text ends)
  called filter := by cases filter

end Conditional

end Spelled

/-! ### The round trip -/

/-- **Every expression that has a text is spelled by it.** -/
theorem spelled_of_writable {expr : Expr} (style : Style) (writable : Writable expr) :
    Spelled style expr := by
  induction writable with
  | null => exact .null
  | bool b => exact .bool b
  | int natural => exact .int natural
  | string s => exact .string s
  | array _ items => exact .array items
  | name valid free => exact .name valid free
  | field _ filled continues target => exact target.field filled continues
  | index _ _ target selector => exact target.index selector
  | call _ _ callee args => exact callee.call args
  | filter _ valid _ target args => exact target.filter valid args
  | not _ operand => exact operand.not
  | and _ _ left right => exact left.and right
  | or _ _ left right => exact left.or right
  | compare op _ _ left right => exact .compare op left right
  | member negated _ _ item container => exact .member negated item container
  | test negated _ known _ target args => exact .test negated known target args
  | arith op _ _ left right => exact .arith op left right
  | neg _ operand => exact operand.neg
  | condition _ _ value condition => exact value.conditional_none condition
  | choice _ _ _ value condition otherwise => exact value.conditional_some condition otherwise

/-- A written expression is parsed as the expression, in every style. -/
theorem parseExpr_written {expr : Expr} (style : Style) (writable : Writable expr) :
    parseExpr (style.written expr) = .ok expr := by
  have reads := (spelled_of_writable style writable).closed_text Ends.nil
  rw [List.append_nil] at reads
  exact parseExpr_eq_ok_of_reads reads

/-- **The parser inverts writing**, with as few parentheses as the grammar allows and with parentheses
around every expression. -/
theorem parseExpr_fewest_and_full {expr : Expr} (spelling : Spelling) (writable : Writable expr) :
    parseExpr ((Style.fewest spelling).written expr) = .ok expr ∧
      parseExpr ((Style.full spelling).written expr) = .ok expr :=
  ⟨parseExpr_written (Style.fewest spelling) writable, parseExpr_written (Style.full spelling) writable⟩

/-- A choice with a filter that is called, a number before a point and operators of most levels. -/
theorem parseExpr_of_mixed_levels :
    let expr := .conditional
        (.call (.filter (.field (.literal (.int 5)) "x") "f" [])
          [.neg (.arith .sub (.name "a") (.name "b"))])
        (.and (.not (.name "c")) (.test (.name "d") "odd" [] true))
        (some (.literal (.string "it")))
    (Style.fewest ⟨false, true⟩).written expr =
        "(5).x | f()(-(a - b)) if not c and d is not odd else 'it'".toList ∧
      parseExpr ((Style.fewest ⟨false, true⟩).written expr) = .ok expr := by
  have callee : Writable (.filter (.field (.literal (.int 5)) "x") "f" []) :=
    .filter (.field (.int (by decide)) (by decide) (List.all_eq_true.mp (by decide))) (by decide) (by simp)
  have arg : Writable (.neg (.arith .sub (.name "a") (.name "b"))) :=
    .neg (.arith .sub (.name (by decide) (by decide)) (.name (by decide) (by decide)))
  have condition : Writable (.and (.not (.name "c")) (.test (.name "d") "odd" [] true)) :=
    .and (.not (.name (by decide) (by decide)))
      (.test true (.name (by decide) (by decide)) (by decide) (by simp))
  exact ⟨by rfl, (parseExpr_fewest_and_full ⟨false, true⟩
    (.choice (.call callee (by simpa using arg)) condition (.string "it"))).1⟩

end TextTemplate
