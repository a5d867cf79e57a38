/-
**Calls of `super()` in the bodies of blocks.**

The body that overrides a block is searched for `super()` between double braces as it stands, without
a look at its tags. What is found are the expression tags that say `super()`, with one exception: in a
tag that takes a third brace into its body, the search begins with the second one.

* `Tag.isSuper`, `Tag.isBracedSuper`: such tags and the exceptions;
* `Replaces`: what replacing every match of a matcher gives, without the bounds of `replaceMatches`;
* `superMatcher_braces`: an expression tag is matched just if it says `super()`;
* `overrideBody_eq_overridden`: **an override has the replaced body in the place of its `super()`
  tags**, and nothing else changes;
* `Composed.overrideBody`, `Drawn.overrideBody`: so it is composed of the tags of the two bodies.
-/

import TextTemplate.Inheritance.Block
import TextTemplate.Proofs.Inheritance.Stripping
import TextTemplate.Proofs.Tags.Composed

namespace TextTemplate

/-! ### Tags that call `super()` -/

/-- The call that stands for the body of the block that is overridden. -/
def superCall : Text := ['s', 'u', 'p', 'e', 'r', '(', ')']

/-- Whether an expression tag says `super()`. -/
def Tag.isSuper (tag : Tag) : Bool :=
  tag.kind = .expression && tag.inner == superCall

/-- Whether an expression tag says `super()` behind another brace. -/
def Tag.isBracedSuper (tag : Tag) : Bool :=
  match tag.kind, tag.body with
  | .expression, '{' :: rest => Text.trim rest == superCall
  | _, _ => false

/-- Whether the tag of a piece says `super()`. -/
def Piece.isSuper (piece : Piece) : Bool :=
  (piece.tag Position.start).isSuper

/-- Whether the tag of a piece says `super()` behind another brace. -/
def Piece.isBracedSuper (piece : Piece) : Bool :=
  (piece.tag Position.start).isBracedSuper

/-- Whether a tag says `super()` is a matter of its kind and its body. -/
theorem Tag.isSuper_congr {tag tag' : Tag} (kind : tag.kind = tag'.kind) (body : tag.body = tag'.body) :
    tag.isSuper = tag'.isSuper ∧ tag.isBracedSuper = tag'.isBracedSuper := by
  unfold isSuper isBracedSuper inner
  rw [kind, body]
  exact ⟨rfl, rfl⟩

/-! ### Replacing without bounds -/

/-- **What replacing every match gives**: the characters where nothing matches are kept, and each
match gives way to the new text, behind which the search goes on. -/
inductive Replaces (find : Text.Matcher) (new : Text) : Text → Text → Prop
  | nil : Replaces find new [] []
  | keep {c : Char} {text result : Text} :
    find (c :: text) = none → Replaces find new text result →
      Replaces find new (c :: text) (c :: result)
  | replace {c : Char} {text matched rest result : Text} :
    find (c :: text) = some (matched, rest) → rest.length ≤ text.length →
      Replaces find new rest result → Replaces find new (c :: text) (new ++ result)

section Replaces

variable {find : Text.Matcher} {new text result : Text}

/-- The bounds of a replacement are never reached. -/
theorem Replaces.replaceMatches_eq (replaces : Replaces find new text result)
    (consumes : find.Consumes) : text.replaceMatches find (fun _ => new) = result := by
  induction replaces with
  | nil => rfl
  | keep unmatched _ ih => rw [consumes.replaceMatches_cons unmatched, ih]
  | replace matched _ _ ih => rw [consumes.replaceMatches_of_match matched, ih]

end Replaces

/-! ### Where the matcher finds a call -/

namespace Text

theorem exists_trimStart (text : Text) : ∃ blanks, text = blanks ++ text.trimStart := by
  obtain ⟨blanks, joined⟩ := List.dropWhile_suffix (l := text) isBlank
  exact ⟨blanks, joined.symm⟩

theorem trimStart_append_cons {c : Char} (visible : isBlank c = false) (front rest : Text) :
    trimStart (front ++ c :: rest) = front.trimStart ++ c :: rest := by
  rw [trimStart, trimStart, List.dropWhile_append]
  split
  · rename_i nothing
    rw [List.isEmpty_iff.mp nothing, List.nil_append, List.dropWhile_cons_of_neg (by simp [visible])]
  · rfl

/-- A text says `super()` if the call stands behind blanks, with nothing but blanks behind it. -/
theorem trim_eq_superCall_iff {text : Text} :
    text.trim = superCall ↔ ∃ more, text.trimStart = superCall ++ more ∧ more.trimStart = [] := by
  constructor
  · intro calls
    obtain ⟨back, joined, blank⟩ := exists_dropRightWhile isBlank text.trimStart
    refine ⟨back, ?_, List.dropWhile_eq_nil_iff.mpr blank⟩
    rw [← calls]
    exact joined
  · rintro ⟨more, joined, blank⟩
    have blank' : more.reverse.dropWhile isBlank = [] := by
      rw [List.dropWhile_eq_nil_iff]
      exact fun c member => List.dropWhile_eq_nil_iff.mp blank c (List.mem_reverse.mp member)
    show (text.trimStart.reverse.dropWhile isBlank).reverse = superCall
    rw [joined, List.reverse_append, List.dropWhile_append, blank']
    decide

end Text

/-- What is passed are blanks and the text that is looked for. -/
theorem exists_of_passBlankThen? {part text rest : Text}
    (passed : passBlankThen? part text = some rest) :
    ∃ blanks : Text, blanks.all Text.isBlank = true ∧ text = blanks ++ (part ++ rest) := by
  rw [passBlankThen?, Text.dropPrefix?_eq_some_iff] at passed
  refine ⟨text.takeWhile Text.isBlank, List.all_takeWhile, ?_⟩
  rw [← passed, Text.trimStart, List.takeWhile_append_dropWhile]

/-- The matcher takes at least the braces of a call. -/
theorem superMatcher_consumes : Text.Matcher.Consumes superMatcher := by
  intro text call rest found
  obtain ⟨rest', passed, same⟩ := Option.map_eq_some_iff.mp found
  obtain ⟨inside, opener, passed⟩ := Option.bind_eq_some_iff.mp passed
  obtain ⟨behind, named, closer⟩ := Option.bind_eq_some_iff.mp passed
  obtain ⟨-, rfl⟩ := Prod.mk.inj same
  obtain ⟨blanks, -, rfl⟩ := exists_of_passBlankThen? named
  obtain ⟨blanks', -, rfl⟩ := exists_of_passBlankThen? closer
  rw [Text.dropPrefix?_eq_some_iff.mp opener]
  simp only [List.length_append, List.length_cons]
  omega

/-- A text of which the closing braces of a tag are found behind blanks only is blank, if they do not
overlap its end. -/
theorem passBlankThen?_braces {text : Text} (plain : Plain (text ++ ['}'])) (rest : Text) :
    passBlankThen? ['}', '}'] (text ++ '}' :: '}' :: rest) =
      if text.trimStart = [] then some rest else none := by
  have visible : Text.isBlank '}' = false := by decide
  rw [passBlankThen?, Text.trimStart_append_cons visible]
  rcases core : text.trimStart with _ | ⟨c, more⟩
  · rw [if_pos rfl]
    exact Text.dropPrefix?_eq_some_iff.mpr rfl
  · rw [if_neg (List.cons_ne_nil c more), Option.eq_none_iff_forall_ne_some]
    intro found same
    -- a closer would begin in the text
    have plain' : Plain (c :: (more ++ ['}'])) := by
      obtain ⟨blanks, joined⟩ := Text.exists_trimStart text
      rw [joined, core, List.append_assoc] at plain
      exact (List.isChain_append.mp plain).2.1
    have joined := Text.dropPrefix?_eq_some_iff.mp same
    have first : c = '}' := (List.cons.inj joined).1
    subst first
    cases more with
    | nil => exact absurd (List.isChain_cons_cons.mp plain').1.noCloser (by decide)
    | cons d more =>
      have second : d = '}' := (List.cons.inj (List.cons.inj joined).2).1
      subst second
      exact absurd (List.isChain_cons_cons.mp plain').1.noCloser (by decide)

/-- A call of `super()` does not reach over the end of a text that is closed by a brace. -/
theorem passBlankThen?_superCall (text rest : Text) :
    passBlankThen? superCall (text ++ '}' :: rest) =
      (Text.dropPrefix? superCall text.trimStart).map (· ++ '}' :: rest) := by
  have visible : Text.isBlank '}' = false := by decide
  rw [passBlankThen?, Text.trimStart_append_cons visible]
  rcases found : Text.dropPrefix? superCall text.trimStart with _ | more
  · rw [Option.map_none, Option.eq_none_iff_forall_ne_some]
    intro more same
    rcases List.append_eq_append_iff.mp (Text.dropPrefix?_eq_some_iff.mp same) with
      ⟨between, longer, tail⟩ | ⟨between, longer, tail⟩
    · -- the brace would belong to the call
      cases between with
      | nil =>
        have whole : text.trimStart = superCall ++ [] := by rw [longer, List.append_nil, List.append_nil]
        rw [Text.dropPrefix?_eq_some_iff.mpr whole] at found
        cases found
      | cons c between =>
        obtain ⟨rfl, -⟩ := List.cons.inj tail
        have member : '}' ∈ superCall := by
          rw [longer]
          exact List.mem_append_right _ List.mem_cons_self
        exact absurd member (by decide)
    · rw [Text.dropPrefix?_eq_some_iff.mpr longer] at found
      cases found
  · have joined := Text.dropPrefix?_eq_some_iff.mp found
    rw [joined, Option.map_some, Text.dropPrefix?_eq_some_iff, List.append_assoc]

/-- **The matcher finds an expression tag just if it says `super()`**, and goes on behind it. -/
theorem superMatcher_braces {body : Text} (plain : Plain (body ++ ['}'])) (rest : Text) :
    (superMatcher ('{' :: '{' :: (body ++ '}' :: '}' :: rest))).map Prod.snd =
      if body.trim = superCall then some rest else none := by
  have opener : Text.dropPrefix? ['{', '{'] ('{' :: '{' :: (body ++ '}' :: '}' :: rest)) =
      some (body ++ '}' :: '}' :: rest) := Text.dropPrefix?_eq_some_iff.mpr rfl
  have value : (superMatcher ('{' :: '{' :: (body ++ '}' :: '}' :: rest))).map Prod.snd =
      (passBlankThen? superCall (body ++ '}' :: '}' :: rest)).bind (passBlankThen? ['}', '}']) := by
    show Option.map Prod.snd (Option.map _ (Option.bind _ _)) = _
    rw [opener, Option.bind_some, Option.map_map]
    exact Option.map_id'
  rw [value, passBlankThen?_superCall]
  rcases called : Text.dropPrefix? superCall body.trimStart with _ | more
  · rw [if_neg]
    · rfl
    · intro calls
      obtain ⟨more, joined, -⟩ := Text.trim_eq_superCall_iff.mp calls
      rw [Text.dropPrefix?_eq_some_iff.mpr joined] at called
      cases called
  · have joined := Text.dropPrefix?_eq_some_iff.mp called
    have plain' : Plain (more ++ ['}']) := by
      obtain ⟨blanks, whole⟩ := Text.exists_trimStart body
      rw [whole, joined, List.append_assoc, List.append_assoc] at plain
      exact (List.isChain_append.mp (List.isChain_append.mp plain).2.1).2.1
    rw [Option.map_some, Option.bind_some, passBlankThen?_braces plain']
    refine if_congr ?_ rfl rfl
    rw [Text.trim_eq_superCall_iff]
    constructor
    · exact fun blank => ⟨more, joined, blank⟩
    · rintro ⟨more', joined', blank⟩
      rw [joined] at joined'
      rwa [List.append_cancel_left joined']

/-- The matcher finds nothing where no expression tag begins. -/
theorem superMatcher_eq_none {c : Char} {text : Text}
    (unopened : ∀ d ∈ text.head?, opens? c d ≠ some .expression) :
    superMatcher (c :: text) = none := by
  have noPrefix : Text.dropPrefix? ['{', '{'] (c :: text) = none := by
    rw [Option.eq_none_iff_forall_ne_some]
    intro rest found
    obtain ⟨rfl, rfl⟩ := List.cons.inj (Text.dropPrefix?_eq_some_iff.mp found)
    exact unopened '{' rfl rfl
  show Option.map _ (Option.bind _ _) = none
  rw [noPrefix]
  rfl

/-! ### Overridden bodies -/

section Override

variable {new rest result : Text}

/-- A quiet text begins no tag with the first character of what follows. -/
theorem Quiet.unopened_before {front : Text} (quiet : Quiet front) (rest : Text) :
    Unopened (front ++ rest.head?.toList) := by
  refine quiet.append_unopened ?_
  cases rest with
  | nil => exact List.isChain_nil
  | cons c rest => exact List.isChain_singleton c

/-- A stretch of text in which no tag begins is kept. -/
theorem Replaces.stretch {front : Text} (unopened : Unopened (front ++ rest.head?.toList))
    (later : Replaces superMatcher new rest result) :
    Replaces superMatcher new (front ++ rest) (front ++ result) := by
  induction front with
  | nil => exact later
  | cons c front ih =>
    obtain ⟨first, unopened'⟩ := List.isChain_cons.mp unopened
    refine Replaces.keep (superMatcher_eq_none fun d isFirst => ?_) (ih unopened')
    have same : (front ++ rest.head?.toList).head? = (front ++ rest).head? := by
      cases front with
      | nil => cases rest <;> rfl
      | cons e front => rfl
    rw [first d (same ▸ isFirst)]
    exact (Option.some_ne_none _).symm

/-- What stands in a tag behind its opener is kept, and so is its closer. -/
theorem Replaces.body {kind : TagKind} {body : Text} (plain : Plain (body ++ [kind.closeMark]))
    (later : Replaces superMatcher new rest result) :
    Replaces superMatcher new (body ++ (kind.closer ++ rest)) (body ++ (kind.closer ++ result)) := by
  have closer : Replaces superMatcher new (kind.closer ++ rest) (kind.closer ++ result) := by
    refine Replaces.stretch ?_ later
    rw [TagKind.closer_eq]
    cases rest with
    | nil => cases kind <;> decide
    | cons d rest =>
      refine List.isChain_cons_cons.mpr ⟨?_, List.isChain_cons_cons.mpr ⟨rfl, List.isChain_singleton _⟩⟩
      cases kind <;> rfl
  refine Replaces.stretch ?_ closer
  rw [TagKind.closer_eq]
  exact plain.unopened

/-- The matcher finds nothing at the opener of a tag that does not say `super()`. -/
theorem superMatcher_opener {kind : TagKind} {body : Text} (plain : Plain (body ++ [kind.closeMark]))
    (noSuper : (Piece.mk [] kind body).isSuper = false) (rest : Text) :
    superMatcher ('{' :: kind.openMark :: (body ++ (kind.closer ++ rest))) = none := by
  cases kind with
  | statement =>
    refine superMatcher_eq_none fun d isFirst => ?_
    cases isFirst
    decide
  | expression =>
    have calls : ¬ Text.trim body = superCall := by
      simpa [Piece.isSuper, Tag.isSuper, Piece.tag, Tag.inner] using noSuper
    have unmatched := superMatcher_braces plain rest
    rw [if_neg calls, Option.map_eq_none_iff] at unmatched
    exact unmatched

/-- The matcher finds nothing at the second character of an opener, if the tag does not say `super()`
behind a brace. -/
theorem superMatcher_openMark {kind : TagKind} {body : Text} (plain : Plain (body ++ [kind.closeMark]))
    (unbraced : (Piece.mk [] kind body).isBracedSuper = false) (rest : Text) :
    superMatcher (kind.openMark :: (body ++ (kind.closer ++ rest))) = none := by
  cases kind with
  | statement =>
    refine superMatcher_eq_none fun d _ => ?_
    rw [Ne, opens?_eq_some_iff]
    exact fun opener => absurd opener.1 (by decide)
  | expression =>
    cases body with
    | nil =>
      refine superMatcher_eq_none fun d isFirst => ?_
      cases isFirst
      decide
    | cons b body =>
      by_cases brace : b = '{'
      · -- the second brace of the opener and a brace in the body
        subst brace
        have calls : ¬ Text.trim body = superCall := by
          simpa [Piece.isBracedSuper, Tag.isBracedSuper, Piece.tag] using unbraced
        have unmatched := superMatcher_braces plain.tail rest
        rw [if_neg calls, Option.map_eq_none_iff] at unmatched
        exact unmatched
      · refine superMatcher_eq_none fun d isFirst => ?_
        cases isFirst
        rw [Ne, opens?_eq_some_iff]
        exact fun opener => brace opener.2

/-- A tag that does not say `super()`, with or without a brace, is kept. -/
theorem Replaces.tag {piece : Piece} (plain : Plain (piece.body ++ [piece.kind.closeMark]))
    (noSuper : piece.isSuper = false) (unbraced : piece.isBracedSuper = false)
    (later : Replaces superMatcher new rest result) :
    Replaces superMatcher new (piece.tagText ++ rest) (piece.tagText ++ result) := by
  obtain ⟨gap, kind, body⟩ := piece
  have regroup : ∀ text : Text, Piece.tagText ⟨gap, kind, body⟩ ++ text =
      '{' :: kind.openMark :: (body ++ (kind.closer ++ text)) := by
    intro text
    simp [Piece.tagText, TagKind.opener_eq]
  rw [regroup, regroup]
  exact Replaces.keep (superMatcher_opener plain noSuper rest)
    (Replaces.keep (superMatcher_openMark plain unbraced rest) (Replaces.body plain later))

/-- A tag that says `super()` is replaced. -/
theorem Replaces.call {piece : Piece} (plain : Plain (piece.body ++ [piece.kind.closeMark]))
    (calls : piece.isSuper = true) (later : Replaces superMatcher new rest result) :
    Replaces superMatcher new (piece.tagText ++ rest) (new ++ result) := by
  obtain ⟨gap, kind, body⟩ := piece
  obtain ⟨expression, calls⟩ := Bool.and_eq_true_iff.mp calls
  obtain rfl : kind = .expression := of_decide_eq_true expression
  have calls : Text.trim body = superCall := beq_iff_eq.mp calls
  have found := superMatcher_braces plain rest
  rw [if_pos calls, Option.map_eq_some_iff] at found
  obtain ⟨⟨matched, rest⟩, found, rfl⟩ := found
  have regroup : Piece.tagText ⟨gap, .expression, body⟩ ++ rest =
      '{' :: '{' :: (body ++ '}' :: '}' :: rest) := by
    simp [Piece.tagText, TagKind.opener, TagKind.closer]
  rw [regroup]
  refine Replaces.replace found ?_ later
  simp only [List.length_cons, List.length_append]
  omega

/-- What the tag of a piece becomes in an override. -/
def Piece.overriddenTag (new : Text) (piece : Piece) : Text :=
  if piece.isSuper then new else piece.tagText

/-- **The text of some pieces with another text in the place of the `super()` tags.** -/
def overridden (new : Text) (pieces : List Piece) : Text :=
  pieces.flatMap fun piece => piece.gap ++ piece.overriddenTag new

@[simp] theorem overridden_nil (new : Text) : overridden new [] = [] := rfl

@[simp] theorem overridden_cons (new : Text) (piece : Piece) (pieces : List Piece) :
    overridden new (piece :: pieces) =
      piece.gap ++ piece.overriddenTag new ++ overridden new pieces := rfl

/-- A piece in whose place the search for `super()` finds just what it should. -/
structure Piece.Searchable (piece : Piece) : Prop where
  gap : Quiet piece.gap
  body : Plain (piece.body ++ [piece.kind.closeMark])
  unbraced : piece.isBracedSuper = false

/-- Tags in none of which `super()` stands behind another brace. -/
def UnbracedTags (inside : TagKind → Text → Prop) : Prop :=
  ∀ piece : Piece, inside piece.kind piece.body → piece.isBracedSuper = false

theorem Composes.searchable {neighbours : Neighbours} {inside : TagKind → Text → Prop}
    {front back : Bool} {pieces : List Piece} {last : Text}
    (composes : Composes neighbours inside back front pieces last) (unbraced : UnbracedTags inside) :
    ∀ piece ∈ pieces, piece.Searchable := by
  intro piece member
  obtain ⟨quiet, plain, fits⟩ := composes.of_mem piece member
  exact ⟨quiet, plain, unbraced piece fits⟩

theorem Replaces.piece {piece : Piece} (searchable : piece.Searchable)
    (later : Replaces superMatcher new rest result) :
    Replaces superMatcher new (piece.text ++ rest)
      (piece.gap ++ piece.overriddenTag new ++ result) := by
  have tag : Replaces superMatcher new (piece.tagText ++ rest) (piece.overriddenTag new ++ result) := by
    unfold Piece.overriddenTag
    split
    · rename_i calls
      exact Replaces.call searchable.body calls later
    · rename_i calls
      exact Replaces.tag searchable.body (Bool.eq_false_iff.mpr calls) searchable.unbraced later
  rw [Piece.text, List.append_assoc, List.append_assoc]
  refine Replaces.stretch ?_ tag
  rw [Piece.tagText, TagKind.opener_eq]
  exact searchable.gap

/-- Pieces and the text behind them are searched in one way, whatever follows them. -/
theorem Replaces.pieces {pieces : List Piece} {last : Text}
    (searchable : ∀ piece ∈ pieces, piece.Searchable)
    (unopened : Unopened (last ++ rest.head?.toList)) (later : Replaces superMatcher new rest result) :
    Replaces superMatcher new (textOf pieces ++ (last ++ rest))
      (overridden new pieces ++ (last ++ result)) := by
  induction pieces with
  | nil =>
    have kept : Replaces superMatcher new (last ++ rest) (last ++ result) :=
      Replaces.stretch unopened later
    exact kept
  | cons piece pieces ih =>
    obtain ⟨head, others⟩ := List.forall_mem_cons.mp searchable
    have whole := Replaces.piece head (ih others)
    simp only [textOf_cons, overridden_cons, List.append_assoc] at whole ⊢
    exact whole

/-- **An override has the replaced body in the place of its `super()` tags**, and is as it was
elsewhere. -/
theorem overrideBody_eq_overridden {pieces : List Piece} {last : Text}
    (searchable : ∀ piece ∈ pieces, piece.Searchable) (unopened : Unopened last) (new : Text) :
    overrideBody new (textOf pieces ++ last) = overridden new pieces ++ last := by
  have ended : Unopened (last ++ ([] : Text).head?.toList) := by
    show Unopened (last ++ [])
    rwa [List.append_nil]
  have replaces : Replaces superMatcher new (textOf pieces ++ (last ++ []))
      (overridden new pieces ++ (last ++ [])) := Replaces.pieces searchable ended Replaces.nil
  rw [List.append_nil] at replaces
  exact replaces.replaceMatches_eq superMatcher_consumes

/-- **A search goes on in the texts that have taken the places of `super()` tags**: what it makes of
these texts takes the places. -/
theorem Replaces.overridden {pieces : List Piece} {middle middle' last : Text}
    (searchable : ∀ piece ∈ pieces, piece.Searchable) (quiet : Quiet last)
    (inner : ∀ {rest result}, Replaces superMatcher new rest result →
      Replaces superMatcher new (middle ++ rest) (middle' ++ result)) :
    Replaces superMatcher new (overridden middle pieces ++ last) (overridden middle' pieces ++ last) := by
  induction pieces with
  | nil =>
    have behind : Replaces superMatcher new (last ++ []) (last ++ []) :=
      Replaces.stretch (quiet.unopened_before []) Replaces.nil
    rwa [List.append_nil] at behind
  | cons piece pieces ih =>
    obtain ⟨head, others⟩ := List.forall_mem_cons.mp searchable
    have later := ih others
    simp only [overridden_cons, List.append_assoc]
    refine Replaces.stretch (head.gap.unopened_before _) ?_
    unfold Piece.overriddenTag
    split
    · exact inner later
    · rename_i other
      exact Replaces.tag head.body (Bool.eq_false_iff.mpr other) head.unbraced later

end Override

/-! ### Overrides of composed bodies -/

section Composed

variable {neighbours : Neighbours} {own inside : TagKind → Text → Prop} {body replaced : Text}

/-- Composed pieces with a composed text in the place of their `super()` tags. -/
theorem Composes.overridden {front : Bool} {pieces : List Piece} {last : Text}
    (composes : Composes neighbours own true front pieces last)
    (among : ∀ kind body, own kind body → inside kind body)
    (replaced' : Composed neighbours inside true true replaced) :
    Composed neighbours inside front true (overridden replaced pieces ++ last) := by
  induction composes with
  | last stretch => exact Composed.of_stretch stretch
  | @piece front piece pieces last gap plain fits _ ih =>
    have tag : Composed neighbours inside true true (piece.overriddenTag replaced) := by
      unfold Piece.overriddenTag
      split
      · exact replaced'
      · exact Composed.of_tag plain (among _ _ fits)
    rw [overridden_cons, List.append_assoc]
    exact ((Composed.of_stretch gap).append tag).append ih

/-- **An override is composed of the tags of both bodies**, if in none of its own `super()` stands
behind another brace. -/
theorem Composed.overrideBody (composed : Composed neighbours own true true body)
    (unbraced : UnbracedTags own) (among : ∀ kind body, own kind body → inside kind body)
    (replaced' : Composed neighbours inside true true replaced) :
    Composed neighbours inside true true (overrideBody replaced body) := by
  obtain ⟨pieces, last, rfl, composes⟩ := composed
  obtain ⟨_, stretch⟩ := composes.stretch_last
  rw [overrideBody_eq_overridden (composes.searchable unbraced) stretch.unopened]
  exact composes.overridden among replaced'

/-- **Overriding one body after the other** is the same in either order. -/
theorem Composed.overrideBody_overrideBody {neighbours' : Neighbours} {middle : Text}
    (composed : Composed neighbours own true true body) (unbraced : UnbracedTags own)
    (composed' : Composed neighbours' inside true true middle) (unbraced' : UnbracedTags inside)
    (new : Text) :
    TextTemplate.overrideBody new (TextTemplate.overrideBody middle body) =
      TextTemplate.overrideBody (TextTemplate.overrideBody new middle) body := by
  obtain ⟨pieces, last, rfl, composes⟩ := composed
  obtain ⟨pieces', last', rfl, composes'⟩ := composed'
  obtain ⟨_, stretch⟩ := composes.stretch_last
  obtain ⟨_, stretch'⟩ := composes'.stretch_last
  have searchable := composes.searchable unbraced
  have searchable' := composes'.searchable unbraced'
  rw [overrideBody_eq_overridden searchable stretch.unopened,
    overrideBody_eq_overridden searchable' stretch'.unopened,
    overrideBody_eq_overridden searchable stretch.unopened]
  refine (Replaces.overridden searchable stretch.quiet fun {rest result} later => ?_).replaceMatches_eq
    superMatcher_consumes
  rw [List.append_assoc, List.append_assoc]
  exact Replaces.pieces searchable' (stretch'.quiet.unopened_before rest) later

end Composed

/-! ### Overrides by tags -/

/-- The tags of a text that say `super()`. -/
def superTags (text : Text) : List Tag :=
  match scan text with
  | .ok tags => tags.filter Tag.isSuper
  | .error _ => []

/-- **A body with another text in the place of its `super()` tags**, all at once. -/
def withSuper (new body : Text) : Text :=
  applyEdits body ((superTags body).map fun tag => ⟨tag.span, new⟩)

/-- A text in the place of the `super()` tags of some pieces, tag by tag. -/
theorem overridden_eq_replacedFrom (new : Text) (here : Position) (pieces : List Piece) :
    overridden new pieces =
      replacedFrom (fun tag => if tag.isSuper then some new else none) here pieces := by
  induction pieces generalizing here with
  | nil => rfl
  | cons piece pieces ih =>
    have same : (piece.tag here).isSuper = piece.isSuper := rfl
    rw [overridden_cons, replacedFrom, ← ih (here.after piece.text), Piece.overriddenTag, same]
    split <;> rfl

/-- **An override replaces the `super()` tags of the body.** -/
theorem Composed.overrideBody_eq_withSuper {neighbours : Neighbours}
    {own : TagKind → Text → Prop} {front back : Bool} {body : Text} {tags : List Tag}
    (composed : Composed neighbours own front back body) (unbraced : UnbracedTags own)
    (scanned : scan body = .ok tags) (new : Text) :
    TextTemplate.overrideBody new body = withSuper new body := by
  obtain ⟨pieces, last, cut, rfl⟩ := composed.exists_cut scanned
  obtain ⟨_, stretch⟩ := cut.composes.stretch_last
  let replace (tag : Tag) : Option Text := if tag.isSuper then some new else none
  have splices := splices_replaced replace Position.start pieces last
  have edits : ((tagsFrom Position.start pieces).filterMap fun tag =>
      (replace tag).map (Edit.mk tag.span)) =
        (superTags body).map fun tag => (⟨tag.span, new⟩ : Edit) := by
    unfold superTags
    rw [scanned]
    show _ = List.map _ (List.filter _ _)
    rw [← List.filterMap_eq_filter, List.map_filterMap]
    refine List.filterMap_congr fun tag _ => ?_
    by_cases calls : tag.isSuper = true <;> simp [replace, calls, Option.guard]
  rw [withSuper, ← edits, cut.cut.joined, applyEdits_eq_of_splices splices (List.Perm.refl _),
    overrideBody_eq_overridden (cut.composes.searchable unbraced) stretch.unopened,
    overridden_eq_replacedFrom new Position.start]

/-- **An override has only tags of the two bodies**, if in no tag of its own `super()` stands behind
another brace. -/
theorem Drawn.overrideBody {own tags : List Tag} {replaced body : Text}
    (drawn : Drawn own ['{'] body) (unbraced : ∀ tag ∈ own, tag.isBracedSuper = false)
    (among : own ⊆ tags) (drawn' : Drawn tags ['{'] replaced) :
    Drawn tags ['{'] (overrideBody replaced body) := by
  rw [drawn_iff_composed] at drawn drawn' ⊢
  refine drawn.overrideBody ?_ (fun kind body => ?_) drawn'
  · rintro piece ⟨tag, member, kind, body⟩
    rw [← unbraced tag member]
    exact (Tag.isSuper_congr kind body).2.symm
  · rintro ⟨tag, member, same⟩
    exact ⟨tag, among member, same⟩

end TextTemplate
