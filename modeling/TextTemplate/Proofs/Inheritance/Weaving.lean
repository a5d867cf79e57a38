/-
**Replacing includes one after the other.**

A text cut into pieces is woven with replacements if each include tag gives way to the replacement
of its name and all else stays. Replacing the first include and scanning again does the same: what
was inserted has no include itself, and the tags behind it are found again (`Cut.append`).

* `woven`: the text of some pieces with the include tags replaced, all at once;
* `Met.woven_eq`: putting a text in front changes nothing of what is woven behind it;
* `replaceIncludes_eq_woven`: **replacing the includes one after the other weaves the text**, and
  leaves a text that can be scanned and has no includes.
-/

import TextTemplate.Inheritance.Include
import TextTemplate.Proofs.Edits.Splice
import TextTemplate.Proofs.Tags.Junction

namespace TextTemplate

/-! ### Weaving -/

/-- The template that the tag of a piece includes. -/
def Piece.included? (piece : Piece) : Option String :=
  (piece.tag Position.start).reference? "include"

/-- Whether a tag includes a template does not depend on where it stands. -/
theorem Piece.reference?_tag (piece : Piece) (here : Position) :
    (piece.tag here).reference? "include" = piece.included? := rfl

/-- The templates that some pieces include. -/
def included (pieces : List Piece) : List String :=
  pieces.filterMap Piece.included?

/-- The tag of a piece, or the replacement of the template that it includes. -/
def Piece.wovenTag (replacement : String → Text) (piece : Piece) : Text :=
  match piece.included? with
  | some name => replacement name
  | none => piece.tagText

/-- **The text of some pieces with the include tags replaced**, all at once. -/
def woven (replacement : String → Text) (pieces : List Piece) : Text :=
  pieces.flatMap fun piece => piece.gap ++ piece.wovenTag replacement

variable {replacement : String → Text}

@[simp] theorem woven_nil : woven replacement [] = [] := rfl

@[simp] theorem woven_cons (piece : Piece) (pieces : List Piece) :
    woven replacement (piece :: pieces) =
      piece.gap ++ piece.wovenTag replacement ++ woven replacement pieces := by
  simp [woven]

@[simp] theorem woven_append (front rest : List Piece) :
    woven replacement (front ++ rest) = woven replacement front ++ woven replacement rest :=
  List.flatMap_append

@[simp] theorem included_append (front rest : List Piece) :
    included (front ++ rest) = included front ++ included rest :=
  List.filterMap_append

/-- Pieces without includes are woven as they are. -/
theorem woven_of_included_eq_nil {pieces : List Piece} (none : included pieces = []) :
    woven replacement pieces = textOf pieces := by
  induction pieces with
  | nil => rfl
  | cons piece pieces ih =>
    have all := List.filterMap_eq_nil_iff.mp none
    have first : piece.included? = .none := all piece List.mem_cons_self
    have rest : included pieces = [] :=
      List.filterMap_eq_nil_iff.mpr fun other member => all other (List.mem_cons_of_mem _ member)
    rw [woven_cons, ih rest, textOf_cons, Piece.wovenTag, first]
    rfl

/-- **Text in front changes nothing of what is woven behind it.** -/
theorem Attached.woven_eq {front last last' : Text} {pieces pieces' : List Piece}
    (attached : Attached front pieces last pieces' last') (replacement : String → Text) :
    woven replacement pieces' ++ last' = front ++ (woven replacement pieces ++ last) ∧
      included pieces' = included pieces := by
  cases attached with
  | last => exact ⟨rfl, rfl⟩
  | gap piece pieces last =>
    refine ⟨?_, rfl⟩
    have same : ({ piece with gap := front ++ piece.gap } : Piece).wovenTag replacement =
        piece.wovenTag replacement := rfl
    rw [woven_cons, woven_cons, same]
    simp

/-- An expression tag includes nothing, with or without a brace before it. -/
theorem Met.woven_eq {front last last' : Text} {pieces pieces' : List Piece}
    (met : Met front pieces last pieces' last') (replacement : String → Text) :
    woven replacement pieces' ++ last' = front ++ (woven replacement pieces ++ last) ∧
      included pieces' = included pieces := by
  cases met with
  | attached attached => exact attached.woven_eq replacement
  | brace gap body last pieces =>
    refine ⟨?_, rfl⟩
    simp [Piece.wovenTag, Piece.included?, Piece.tag, Tag.reference?, Tag.directive?, Piece.tagText,
      TagKind.opener]

/-! ### The first include -/

/-- The first include among the tags of some pieces. -/
theorem findSome?_tagsFrom (here : Position) (pieces : List Piece) :
    included pieces = [] ∧
        (tagsFrom here pieces).findSome? (fun tag => (tag.reference? "include").map (tag, ·)) = none ∨
      ∃ before piece after name, pieces = before ++ piece :: after ∧ included before = [] ∧
        piece.included? = some name ∧
          (tagsFrom here pieces).findSome? (fun tag => (tag.reference? "include").map (tag, ·)) =
            some (piece.tag (here.after (textOf before)), name) := by
  induction pieces generalizing here with
  | nil => exact Or.inl ⟨rfl, rfl⟩
  | cons piece pieces ih =>
    rw [tagsFrom_cons, List.findSome?_cons, piece.reference?_tag]
    rcases here' : piece.included? with _ | name
    · rcases ih (here.after piece.text) with ⟨none, found⟩ | ⟨before, first, after, name, rfl, none,
        names, found⟩
      · exact Or.inl ⟨by rw [included, List.filterMap_cons, here']; exact none, found⟩
      · refine Or.inr ⟨piece :: before, first, after, name, rfl, ?_, names, ?_⟩
        · rw [included, List.filterMap_cons, here']
          exact none
        · rw [textOf_cons, Position.after_append]
          exact found
    · exact Or.inr ⟨[], piece, pieces, name, rfl, rfl, here', rfl⟩

/-- The templates that the tags of some pieces include. -/
theorem filterMap_reference?_tagsFrom (here : Position) (pieces : List Piece) :
    (tagsFrom here pieces).filterMap (Tag.reference? "include") = included pieces := by
  induction pieces generalizing here with
  | nil => rfl
  | cons piece pieces ih =>
    show _ = List.filterMap Piece.included? (piece :: pieces)
    rw [tagsFrom_cons, List.filterMap_cons, List.filterMap_cons, ih, piece.reference?_tag]
    rfl

/-- A text that can be scanned and includes nothing. -/
def IncludeFree (text : Text) : Prop :=
  ∃ pieces last, Cut text pieces last ∧ included pieces = []

theorem includeFree_nil : IncludeFree [] :=
  ⟨[], [], Cut.nil List.isChain_nil, rfl⟩

theorem IncludeFree.scan {text : Text} (free : IncludeFree text) :
    ∃ tags, scan text = .ok tags ∧ ∀ tag ∈ tags, tag.reference? "include" = none := by
  obtain ⟨pieces, last, cut, none⟩ := free
  refine ⟨_, cut.scanFrom_eq Position.start, ?_⟩
  rw [← filterMap_reference?_tagsFrom Position.start] at none
  exact List.filterMap_eq_nil_iff.mp none

/-! ### Replacing the includes one after the other -/

/-- The first include of a text, by its pieces. -/
theorem firstReference?_eq {text last : Text} {pieces : List Piece} (cut : Cut text pieces last) :
    firstReference? "include" text = .ok ((tagsFrom Position.start pieces).findSome?
      fun tag => (tag.reference? "include").map (tag, ·)) := by
  have scanned : scan text = .ok (tagsFrom Position.start pieces) := cut.scanFrom_eq Position.start
  rw [firstReference?, scanned]
  rfl

/-- Replacing the tag of a piece keeps what stands before and behind it. -/
theorem applyEdits_tag (before : List Piece) (piece : Piece) (rest new : Text) :
    applyEdits (textOf before ++ (piece.text ++ rest))
        [⟨(piece.tag (Position.start.after (textOf before))).span, new⟩] =
      textOf before ++ piece.gap ++ new ++ rest := by
  have span : (piece.tag (Position.start.after (textOf before))).span =
      ⟨(textOf before ++ piece.gap).byteSize, (textOf before ++ piece.gap ++ piece.tagText).byteSize⟩ := by
    simp [Tag.span, Piece.tag, Position.after_offset, Position.start]
    omega
  have regroup : textOf before ++ (piece.text ++ rest) =
      textOf before ++ piece.gap ++ piece.tagText ++ rest := by
    simp [Piece.text]
  rw [span, regroup]
  show List.foldl Edit.apply _ (List.mergeSort [_] _) = _
  rw [List.mergeSort_singleton, List.foldl_cons, List.foldl_nil, Edit.apply_append]

/-- **One replacement.** A text with an include replaced by a text without includes is, if it can be
scanned, woven like the text before, and includes what that includes behind the replaced tag. -/
theorem cut_of_replaced (replacement : String → Text) {before after : List Piece} {piece : Piece}
    {last new : Text} (sound : ∀ other ∈ before ++ piece :: after, other.Sound) (plain : Plain last)
    (free : IncludeFree new) {tags : List Tag}
    (scanned : scan (textOf before ++ piece.gap ++ new ++ (textOf after ++ last)) = .ok tags) :
    ∃ pieces last', Cut (textOf before ++ piece.gap ++ new ++ (textOf after ++ last)) pieces last' ∧
      woven replacement pieces ++ last' =
        woven replacement before ++ piece.gap ++ new ++ (woven replacement after ++ last) ∧
      included pieces = included before ++ included after := by
  obtain ⟨inner, end', cutNew, none⟩ := free
  have soundBefore : ∀ other ∈ before, other.Sound :=
    fun other member => sound other (List.mem_append_left _ member)
  have soundPiece : piece.Sound := sound piece (by simp)
  have soundAfter : ∀ other ∈ after, other.Sound :=
    fun other member => sound other (by simp [member])
  have cutFront : Cut (textOf before ++ piece.gap) before piece.gap :=
    ⟨rfl, soundBefore, soundPiece.plain_gap⟩
  have cutRest : Cut (textOf after ++ last) after last := ⟨rfl, soundAfter, plain⟩
  have scanned' := scanned
  rw [List.append_assoc (textOf before ++ piece.gap)] at scanned'
  obtain ⟨joint, middle, cutMiddle, attached⟩ :=
    cutFront.append_of_no_brace cutNew soundPiece.gap scanned'
  obtain ⟨joint', last', whole, met⟩ := cutMiddle.append cutRest scanned
  obtain ⟨wovenNew, includedNew⟩ := attached.woven_eq replacement
  obtain ⟨wovenRest, includedRest⟩ := met.woven_eq replacement
  refine ⟨before ++ joint ++ joint', last', whole, ?_, ?_⟩
  · calc woven replacement (before ++ joint ++ joint') ++ last'
        = woven replacement before ++ woven replacement joint ++ (woven replacement joint' ++ last') := by
          simp
      _ = woven replacement before ++ (woven replacement joint ++ middle) ++
            (woven replacement after ++ last) := by
          rw [wovenRest]
          simp
      _ = woven replacement before ++ piece.gap ++ new ++ (woven replacement after ++ last) := by
          rw [wovenNew, woven_of_included_eq_nil none, ← cutNew.joined]
          simp
  · rw [included_append, included_append, includedNew, includedRest, none, List.append_nil]

/-- A text whose includes are replaced at least once is scanned. -/
theorem scan_of_replaceIncludes {expansion : String → Except ScanError Text} {rounds : Nat}
    {text out : Text} (ok : replaceIncludes expansion (rounds + 1) text = .ok out) :
    ∃ pieces last, Cut text pieces last := by
  rcases scanned : scan text with error | tags
  · rw [replaceIncludes, firstReference?, scanned] at ok
    cases ok
  · obtain ⟨pieces, last, cut, -⟩ := scan_eq_ok_iff.mp scanned
    exact ⟨pieces, last, cut⟩

/-- **The first round.** A text without includes is the result; else its first include is replaced
and the further rounds go on with that. -/
theorem replaceIncludes_cases {expansion : String → Except ScanError Text} {rounds : Nat}
    {text out last : Text} {pieces : List Piece} (cut : Cut text pieces last)
    (ok : replaceIncludes expansion (rounds + 1) text = .ok out) :
    included pieces = [] ∧ out = text ∨
      ∃ before piece after name new, pieces = before ++ piece :: after ∧ included before = [] ∧
        piece.included? = some name ∧ expansion name = .ok new ∧
          replaceIncludes expansion rounds
            (textOf before ++ piece.gap ++ new ++ (textOf after ++ last)) = .ok out := by
  rw [replaceIncludes, firstReference?_eq cut] at ok
  rcases findSome?_tagsFrom Position.start pieces with ⟨none, found⟩ | ⟨before, piece, after, name,
    rfl, none, names, found⟩
  · rw [found] at ok
    cases ok
    exact Or.inl ⟨none, rfl⟩
  · rw [found] at ok
    rcases expanded : expansion name with error | new
    · simp only [bind, Except.bind, expanded] at ok
      cases ok
    · simp only [bind, Except.bind, expanded] at ok
      have joined : text = textOf before ++ (piece.text ++ (textOf after ++ last)) := by
        rw [cut.joined]
        simp
      rw [joined, applyEdits_tag] at ok
      exact Or.inr ⟨before, piece, after, name, new, rfl, none, names, expanded, ok⟩

/-- **Replacing the includes one after the other weaves the text**, if what takes the place of a name
can be scanned and includes nothing. The result is such a text again. -/
theorem replaceIncludes_eq_woven {expansion : String → Except ScanError Text}
    (expands : ∀ name new, expansion name = .ok new → replacement name = new ∧ IncludeFree new)
    {rounds : Nat} {text out last : Text} {pieces : List Piece} (cut : Cut text pieces last)
    (enough : (included pieces).length < rounds)
    (ok : replaceIncludes expansion rounds text = .ok out) :
    out = woven replacement pieces ++ last ∧ IncludeFree out ∧
      ∀ name ∈ included pieces, expansion name = .ok (replacement name) := by
  induction rounds generalizing text pieces last with
  | zero => exact absurd enough (Nat.not_lt_zero _)
  | succ rounds ih =>
    rcases replaceIncludes_cases cut ok with ⟨none, rfl⟩ | ⟨before, piece, after, name, new, rfl,
      none, names, expanded, ok⟩
    · refine ⟨?_, ⟨pieces, last, cut, none⟩, ?_⟩
      · rw [woven_of_included_eq_nil none]
        exact cut.joined
      · rw [none]
        exact fun name member => absurd member List.not_mem_nil
    · obtain ⟨same, free⟩ := expands name new expanded
      have listed : included (before ++ piece :: after) = name :: included after := by
        rw [included_append, none, List.nil_append, included, List.filterMap_cons, names]
        rfl
      rw [listed, List.length_cons] at enough
      -- a round is left, and it scans the text once more
      obtain ⟨rounds, rfl⟩ : ∃ fewer, rounds = fewer + 1 := ⟨rounds - 1, by omega⟩
      obtain ⟨pieces', last', cut'⟩ := scan_of_replaceIncludes ok
      obtain ⟨pieces, last', cut', woven', included'⟩ := cut_of_replaced replacement cut.sound
        cut.plain free (cut'.scanFrom_eq Position.start)
      rw [none, List.nil_append] at included'
      obtain ⟨result, free', later⟩ := ih cut' (by rw [included']; omega) ok
      refine ⟨?_, free', ?_⟩
      · rw [result, woven', woven_append, woven_cons, Piece.wovenTag, names, ← same]
        simp
      · rw [listed]
        intro other member
        rcases List.mem_cons.mp member with rfl | behind
        · rw [expanded, same]
        · exact later other (included'.symm ▸ behind)

end TextTemplate
