/-
**Names and literals of expressions.**

Names, numbers and quoted texts have no fixed characters. Each of them is read up to a place that the
characters up to it decide, so it is read as well without a tail that no token reaches into.

* `Cursor.Splits.passed`: what is passed in front of a tail is passed without it;
* `Cursor.identifier_front`, `parseNumber_front`, `parseQuoted_front`: **names, numbers and quoted texts
  are read without the tail** behind them;
* `Cursor.length_of_identifier`, `length_of_parseNumber_cons`, `length_of_parseQuoted`: reading them gets
  on.
-/

import TextTemplate.Proofs.Expressions.Tokens

namespace TextTemplate

/-! ### Names and closing signs get on -/

namespace Cursor

variable {front whole here next : Cursor} {tail : Text}

theorem length_of_takeWhile {p : Char → Bool} {run : Text} (taken : here.takeWhile p = (run, next)) :
    next.rest.length ≤ here.rest.length := by
  rw [← (Prod.mk.inj taken).2]
  exact (List.dropWhile_suffix p).length_le

theorem length_of_identifier {name : String} (named : here.identifier = .ok (name, next)) :
    next.rest.length < here.skipBlank.rest.length := by
  obtain ⟨begins, run, taken, -⟩ := identifier_eq_ok_iff.mp named
  have next_eq : next.rest = here.skipBlank.rest.dropWhile continuesName := by
    rw [← (Prod.mk.inj taken).2]
    rfl
  cases rest_eq : here.skipBlank.rest with
  | nil => simp [sees, rest_eq] at begins
  | cons c rest =>
    rw [sees, rest_eq] at begins
    have shorter := (List.dropWhile_suffix continuesName (l := rest)).length_le
    rw [next_eq, rest_eq, List.dropWhile_cons_of_pos (continuesName_of_beginsName begins)]
    exact Nat.lt_succ_of_le shorter

theorem length_of_expect {c : Char} (closed : here.expect [c] = .ok next) :
    next.rest.length < here.rest.length :=
  (Lexes.length_of_take? (List.cons_ne_nil c []) (expect_eq_ok_iff.mp closed)).trans_le
    (Text.length_trimStart_le here.rest)

end Cursor

/-! ### What is passed in front of a tail -/

/-- **What is passed up to a visible character, and not more than the blanks of a tail, is passed in
front of the tail.** -/
theorem exists_append_of_inside {source tail passed rest : Text} {c : Char}
    (atEnd : passed.getLast? = some c) (visible : Text.isBlank c = false)
    (same : source ++ tail = passed ++ rest) (inside : tail.trimStart.length ≤ rest.length) :
    ∃ between, source = passed ++ between ∧ rest = between ++ tail := by
  rcases List.append_eq_append_iff.mp same with ⟨between, whole, behind⟩ | ⟨between, whole, behind⟩
  · -- the character stands in the tail
    by_cases empty : between = []
    · subst empty
      exact ⟨[], by simpa using whole.symm, by simpa using behind.symm⟩
    · have last : between.getLast? = some c := by
        rw [whole, List.getLast?_append_of_ne_nil _ empty] at atEnd
        exact atEnd
      have nonBlank : Text.trimStart between ≠ [] := by
        intro blank
        have blank' := List.dropWhile_eq_nil_iff.mp blank c (List.mem_of_getLast? last)
        rw [visible] at blank'
        cases blank'
      rw [behind, Text.trimStart_append_of_ne_nil nonBlank, List.length_append] at inside
      have some := List.length_pos_iff.mpr nonBlank
      omega
  · exact ⟨between, whole, behind⟩

namespace Cursor

variable {front whole next : Cursor} {tail : Text}

/-- What is passed behind a visible character is passed in front of a tail. -/
theorem Splits.passed {passed : Text} {c : Char} (splits : whole.Splits front tail)
    (passes : whole.Passes passed next) (atEnd : passed.getLast? = some c)
    (visible : Text.isBlank c = false) (inside : tail.trimStart.length ≤ next.rest.length) :
    ∃ between, front.rest = passed ++ between ∧ next.rest = between ++ tail ∧ Unjoined between tail := by
  have unjoined := splits.unjoined
  obtain ⟨between, front_eq, next_eq⟩ :=
    exists_append_of_inside atEnd visible (splits.rest.symm.trans passes.rest) inside
  rw [front_eq] at unjoined
  exact ⟨between, front_eq, next_eq, unjoined.of_append⟩

/-- The characters of a name in front of a tail. -/
theorem takeWhile_front (splits : whole.Splits front tail) {c : Char} {run : Text}
    (taken : whole.takeWhile continuesName = (c :: run, next))
    (inside : tail.trimStart.length ≤ next.rest.length) :
    ∃ next', front.takeWhile continuesName = (c :: run, next') ∧ next.Splits next' tail := by
  have continues : ∀ d ∈ c :: run, continuesName d = true := by
    rw [← (Prod.mk.inj taken).1]
    exact fun d member => List.mem_takeWhile_imp member
  obtain ⟨d, atEnd⟩ : ∃ d, (c :: run).getLast? = some d :=
    ⟨_, List.getLast?_eq_some_getLast (List.cons_ne_nil c run)⟩
  have visible := isBlank_of_continuesName (continues d (List.mem_of_getLast? atEnd))
  obtain ⟨between, front_eq, next_eq, unjoined⟩ :=
    splits.passed (Passes.of_takeWhile taken) atEnd visible inside
  have ends : EndsName between := by
    intro e first
    have stops := List.head?_dropWhile_not continuesName whole.rest
    have next_eq' : whole.rest.dropWhile continuesName = next.rest := by
      rw [← (Prod.mk.inj taken).2]
      rfl
    obtain ⟨between', rfl⟩ := List.head?_eq_some_iff.mp first
    rw [next_eq', next_eq] at stops
    simpa using stops
  refine ⟨⟨between, front.position.after (c :: run)⟩, ?_, next_eq, unjoined⟩
  rw [takeWhile, front_eq, takeWhile_append_of_endsName continues ends,
    dropWhile_append_of_endsName continues ends]
  rfl

/-- A name in front of a tail. -/
theorem identifier_front (parts : whole.Parts front tail) {name : String}
    (named : whole.identifier = .ok (name, next))
    (inside : tail.trimStart.length ≤ next.rest.length) :
    ∃ next', front.identifier = .ok (name, next') ∧ next.Splits next' tail := by
  have shorter := length_of_identifier named
  obtain ⟨begins, run, taken, same⟩ := identifier_eq_ok_iff.mp named
  rcases Lexes.skipBlank_cases parts with ⟨-, behind⟩ | ⟨filled, splits⟩
  · rw [behind] at shorter
    omega
  · cases run with
    | nil =>
      have passed := (Passes.of_takeWhile taken).rest
      rw [List.nil_append] at passed
      rw [passed] at shorter
      omega
    | cons c run =>
      obtain ⟨next', taken', splits'⟩ := takeWhile_front splits taken inside
      rw [Lexes.sees_append splits.rest fun ends => absurd ends filled] at begins
      exact ⟨next', identifier_eq_ok_iff.mpr ⟨begins, c :: run, taken', same⟩, splits'⟩

/-- A closing sign in front of a tail. -/
theorem expect_front {c : Char} (parts : whole.Parts front tail) (closed : whole.expect [c] = .ok next)
    (inside : tail.trimStart.length ≤ next.rest.length) :
    ∃ next', front.expect [c] = .ok next' ∧ next.Splits next' tail := by
  obtain ⟨next', taken, -, splits⟩ :=
    Lexes.character.found_front parts (expect_eq_ok_iff.mp closed) inside
  exact ⟨next', expect_eq_ok_iff.mpr taken, splits⟩

end Cursor

/-! ### Numbers -/

section Numbers

variable {tail : Text}

/-- A digit of a number, or an underscore or the point between two digits. -/
theorem mem_numberRun {pointPassed : Bool} {text : Text} {c : Char}
    (member : c ∈ numberRun pointPassed text) : c.isDigit = true ∨ c = '_' ∨ c = '.' := by
  fun_induction numberRun pointPassed text with
  | case1 => cases member
  | case2 pointPassed d rest digit ih =>
    rcases List.mem_cons.mp member with rfl | later
    · simp only [Bool.or_eq_true, beq_iff_eq] at digit
      exact digit.imp_right Or.inl
    · exact ih later
  | case3 pointPassed d rest other point ih =>
    rcases List.mem_cons.mp member with rfl | later
    · simp only [Bool.and_eq_true, beq_iff_eq] at point
      exact .inr (.inr point.1.1)
    · exact ih later
  | case4 => cases member

theorem numberRun_begins (pointPassed : Bool) (text : Text) :
    numberRun pointPassed text <+: text := by
  fun_induction numberRun pointPassed text with
  | case1 => exact List.prefix_refl []
  | case2 pointPassed c rest digit ih => exact (List.prefix_cons_inj c).mpr ih
  | case3 pointPassed c rest other point ih => exact (List.prefix_cons_inj c).mpr ih
  | case4 => exact List.nil_prefix

theorem passes_parseNumber (here : Cursor) :
    here.Passes (numberRun false here.rest) (parseNumber here).2 :=
  ⟨(List.prefix_iff_eq_append.mp (numberRun_begins false here.rest)).symm, rfl⟩

/-- A number ends where it does without what stands behind. -/
theorem numberRun_of_append {pointPassed : Bool} {run between : Text}
    (same : numberRun pointPassed (run ++ (between ++ tail)) = run) :
    numberRun pointPassed (run ++ between) = run := by
  induction run generalizing pointPassed with
  | nil =>
    cases between with
    | nil => rfl
    | cons c between =>
      rw [List.nil_append, List.cons_append, numberRun] at same
      rw [List.nil_append, numberRun]
      split at same
      · cases same
      · rename_i other
        rw [if_neg other]
        split at same
        · cases same
        · rename_i point
          rw [if_neg fun point' => point ?_]
          cases between with
          | nil => simp at point'
          | cons d between => exact point'
  | cons c run ih =>
    rw [List.cons_append, numberRun] at same
    rw [List.cons_append, numberRun]
    split at same
    · rename_i digit
      rw [if_pos digit, ih (List.cons.inj same).2]
    · rename_i other
      rw [if_neg other]
      split at same
      · rename_i point
        have same := (List.cons.inj same).2
        -- the point stands before a digit of the number
        have point' : (c == '.' && !pointPassed &&
            ((run ++ between).head?.map Char.isDigit).getD false) = true := by
          cases run with
          | cons d run => exact point
          | nil =>
            simp only [Bool.and_eq_true] at point
            rw [List.nil_append] at same point
            cases rest_eq : between ++ tail with
            | nil => simp [rest_eq] at point
            | cons d rest =>
              rw [rest_eq, numberRun] at same
              have digit : d.isDigit = true := by simpa [rest_eq] using point.2
              rw [if_pos (by simp [digit])] at same
              cases same
        rw [if_pos point', ih same]
      · cases same

/-- A number in front of a tail. -/
theorem parseNumber_front {front whole : Cursor} {c : Char} {rest : Text}
    (begins : whole.rest = c :: rest) (digit : c.isDigit = true) (splits : whole.Splits front tail)
    (inside : tail.trimStart.length ≤ (parseNumber whole).2.rest.length) :
    (parseNumber whole).1 = (parseNumber front).1 ∧
      (parseNumber whole).2.Splits (parseNumber front).2 tail := by
  have filled : numberRun false whole.rest ≠ [] := by
    rw [begins, numberRun, if_pos (by rw [digit]; rfl)]
    exact List.cons_ne_nil _ _
  obtain ⟨d, atEnd⟩ : ∃ d, (numberRun false whole.rest).getLast? = some d :=
    ⟨_, List.getLast?_eq_some_getLast filled⟩
  have visible : Text.isBlank d = false := by
    rcases mem_numberRun (List.mem_of_getLast? atEnd) with digit | rfl | rfl
    · exact isBlank_of_continuesName (continuesName_of_isDigit digit)
    · rfl
    · rfl
  obtain ⟨between, front_eq, next_eq, unjoined⟩ :=
    splits.passed (passes_parseNumber whole) atEnd visible inside
  have run : numberRun false front.rest = numberRun false whole.rest := by
    rw [front_eq]
    have whole_eq := (passes_parseNumber whole).rest
    rw [next_eq] at whole_eq
    exact numberRun_of_append (by rw [← whole_eq])
  have front_rest : (parseNumber front).2.rest = between := by
    have same := (passes_parseNumber front).rest
    rw [run, front_eq] at same
    exact (List.append_cancel_left same).symm
  refine ⟨?_, ?_, ?_⟩
  · simp only [parseNumber, run]
  · rw [next_eq, front_rest]
  · rw [front_rest]
    exact unjoined

theorem length_of_parseNumber (here : Cursor) :
    (parseNumber here).2.rest.length ≤ here.rest.length :=
  (passes_parseNumber here).length_le

/-- A digit is passed. -/
theorem length_of_parseNumber_cons {here : Cursor} {c : Char} {rest : Text}
    (begins : here.rest = c :: rest) (digit : c.isDigit = true) :
    (parseNumber here).2.rest.length ≤ rest.length := by
  show (here.rest.drop (numberRun false here.rest).length).length ≤ rest.length
  rw [begins, numberRun, digit, Bool.true_or, if_pos rfl, List.length_cons, List.drop_succ_cons,
    List.length_drop]
  exact Nat.sub_le _ _

end Numbers

/-! ### Quoted texts -/

section Quoted

variable {quote : Char} {done text source tail : Text} {position : Position} {next : Cursor}

/-- **A quoted text is read up to the quote that ends it**, whatever follows. -/
theorem exists_of_parseQuoted (ok : parseQuoted quote done position source = .ok (text, next)) :
    ∃ body, (Cursor.mk source position).Passes (body ++ [quote]) next ∧ ∀ position' rest, ∃ next',
      parseQuoted quote done position' (body ++ quote :: rest) = .ok (text, next') ∧
        next'.rest = rest := by
  fun_induction parseQuoted quote done position source with
  | case1 => cases ok
  | case2 done position rest =>
    cases ok
    refine ⟨[], ⟨rfl, rfl⟩, fun position' rest' => ⟨⟨rest', position'.step quote⟩, ?_, rfl⟩⟩
    rw [List.nil_append, parseQuoted.eq_def]
    simp only [if_true]
  | case3 => cases ok
  | case4 done position c rest other ih =>
    obtain ⟨body, passes, again⟩ := ih ok
    refine ⟨'\\' :: c :: body, ?_, fun position' rest' => ?_⟩
    · exact ⟨congrArg ('\\' :: c :: ·) passes.rest, passes.position⟩
    · obtain ⟨next', ok', same⟩ := again ((position'.step '\\').step c) rest'
      refine ⟨next', ?_, same⟩
      rw [List.cons_append, List.cons_append, parseQuoted.eq_def]
      simp only [if_neg other, if_true]
      exact ok'
  | case5 done position c rest other plain ih =>
    obtain ⟨body, passes, again⟩ := ih ok
    refine ⟨c :: body, ?_, fun position' rest' => ?_⟩
    · exact ⟨congrArg (c :: ·) passes.rest, passes.position⟩
    · obtain ⟨next', ok', same⟩ := again (position'.step c) rest'
      refine ⟨next', ?_, same⟩
      rw [List.cons_append, parseQuoted.eq_def]
      simp only [if_neg other, if_neg plain]
      exact ok'

/-- A quoted text in front of a tail. -/
theorem parseQuoted_front {front : Cursor} (visible : Text.isBlank quote = false)
    (ok : parseQuoted quote done position source = .ok (text, next))
    (splits : (Cursor.mk source position).Splits front tail)
    (inside : tail.trimStart.length ≤ next.rest.length) :
    ∃ next', parseQuoted quote done front.position front.rest = .ok (text, next') ∧
      next.Splits next' tail := by
  obtain ⟨body, passes, again⟩ := exists_of_parseQuoted ok
  obtain ⟨between, front_eq, rest_eq, unjoined⟩ :=
    splits.passed passes List.getLast?_concat visible inside
  obtain ⟨next', ok', rfl⟩ := again front.position between
  refine ⟨next', ?_, rest_eq, unjoined⟩
  rw [front_eq, List.append_assoc]
  exact ok'

theorem length_of_parseQuoted (ok : parseQuoted quote done position source = .ok (text, next)) :
    next.rest.length < source.length := by
  obtain ⟨body, passes, -⟩ := exists_of_parseQuoted ok
  exact passes.length_lt (List.append_ne_nil_of_right_ne_nil body (List.cons_ne_nil quote []))

end Quoted

end TextTemplate
