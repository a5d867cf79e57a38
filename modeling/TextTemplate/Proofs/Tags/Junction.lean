/-
**Texts one behind the other.**

Two texts that can be scanned do not always make one that can: a delimiter may form where they meet.
A closer is then a fault whatever follows. An opener is one too, with a single exception: an
expression tag that begins the second text takes the brace before it into its body.

* `scanFrom_stray_closer`: **a closer that forms outside of a tag is a fault**;
* `Cut.append_of_no_brace`: a text that does not end with a brace keeps its tags, and so does the text
  behind it, if the scanner succeeds on the whole;
* `Cut.append`: **the tags of both texts are those of the whole**, apart from that exception.
-/

import TextTemplate.Proofs.Tags.Decomposition

namespace TextTemplate

/-! ### Delimiters that form where two texts meet -/

/-- **A closer that forms outside of a tag is a fault**, whatever follows. -/
theorem scanFrom_stray_closer {front : Text} {c d : Char} {close : TagKind}
    (plain : Plain (front ++ [c])) (closes : closes? c d = some close) (here : Position)
    (rest : Text) :
    scanFrom none here (front ++ c :: d :: rest) = .error ⟨here.after front, .unexpectedClose close⟩ := by
  obtain ⟨rfl, rfl⟩ := closes?_eq_some_iff.mp closes
  rw [scanFrom_plain plain, Option.map_none]
  have fault := scanFrom_closer_outside close (here.after front) rest
  rw [TagKind.closer_eq] at fault
  exact fault

/-- Inside of a tag, a text without delimiters is passed up to an opener, which is a fault. -/
theorem scanFrom_opener_ahead (tag : OpenTag) {text : Text} (plain : Plain (text ++ ['{']))
    (kind : TagKind) (here : Position) (rest : Text) :
    scanFrom (some tag) here (text ++ '{' :: kind.openMark :: rest) =
      .error ⟨tag.start, .unterminated tag.kind⟩ := by
  rw [scanFrom_plain plain, Option.map_some]
  have fault := scanFrom_opener_inside (tag.extend text) kind (here.after text) rest
  rw [TagKind.opener_eq] at fault
  exact fault

/-- Inside of a tag, a text without delimiters is passed up to a closer of the other kind, which is
a fault. -/
theorem scanFrom_closer_other_ahead {tag : OpenTag} {kind : TagKind} (other : kind ≠ tag.kind)
    {text : Text} (plain : Plain (text ++ [kind.closeMark])) (here : Position)
    (rest : Text) :
    scanFrom (some tag) here (text ++ kind.closeMark :: '}' :: rest) =
      .error ⟨tag.start, .mismatched tag.kind kind⟩ := by
  rw [scanFrom_plain plain, Option.map_some]
  have other' : kind ≠ (tag.extend text).kind := other
  have fault := scanFrom_closer_other other' (here.after text) rest
  rw [TagKind.closer_eq] at fault
  exact fault

/-- A statement tag whose opening brace is taken by a brace before it is a fault: what remains of it
is closed by the wrong closer. -/
theorem scanFrom_robbed_statement (tag : OpenTag) (expression : tag.kind = .expression) {body : Text}
    (plain : Plain (body ++ ['%'])) (here : Position) (rest : Text) :
    ∃ error, scanFrom (some tag) here ('%' :: (body ++ '%' :: '}' :: rest)) = .error error := by
  have other : TagKind.statement ≠ tag.kind := by
    rw [expression]
    decide
  cases body with
  | nil =>
    have percent : Plain (['%'] ++ ['%']) := by
      refine List.isChain_cons_cons.mpr ⟨?_, List.isChain_singleton _⟩
      exact ⟨rfl, rfl⟩
    exact ⟨_, scanFrom_closer_other_ahead other percent here rest⟩
  | cons b body =>
    by_cases closing : b = '}'
    · subst closing
      have nothing : Plain ([] ++ ['%']) := List.isChain_singleton _
      exact ⟨_, scanFrom_closer_other_ahead other nothing here (body ++ '%' :: '}' :: rest)⟩
    · have loose : Loose '%' b := by
        rw [loose_iff]
        exact ⟨fun _ opener => absurd opener.1 (by decide), fun _ closer => closing closer.2⟩
      have longer : Plain (('%' :: b :: body) ++ ['%']) := List.isChain_cons_cons.mpr ⟨loose, plain⟩
      exact ⟨_, scanFrom_closer_other_ahead other longer here rest⟩

/-- An expression tag whose opening brace is taken by a brace before it has the other brace in its
body, where it makes no opener if the scanner goes on. -/
theorem plain_robbed_expression {tag : OpenTag} {body : Text} (plain : Plain (body ++ ['}']))
    {here : Position} {rest : Text} {tags : List Tag}
    (ok : scanFrom (some tag) here ('{' :: (body ++ '}' :: rest)) = .ok tags) :
    Plain ('{' :: (body ++ ['}'])) := by
  cases body with
  | nil => exact List.isChain_cons_cons.mpr ⟨⟨rfl, rfl⟩, List.isChain_singleton _⟩
  | cons b body =>
    refine List.isChain_cons_cons.mpr ⟨loose_iff.mpr ⟨fun kind opener => ?_, fun kind closer => ?_⟩,
      plain⟩
    · obtain ⟨-, rfl⟩ := opener
      have nothing : Plain ([] ++ ['{']) := List.isChain_singleton _
      have fault := scanFrom_opener_ahead tag nothing kind here (body ++ '}' :: rest)
      exact absurd (fault.symm.trans ok) (by simp)
    · obtain ⟨same, -⟩ := closer
      cases kind <;> exact absurd same (by decide)

/-- **A tag whose opening brace is taken by a brace before it is an expression tag** if the scanner
goes on, and has its other brace in its body. -/
theorem expression_of_robbed {tag : OpenTag} (expression : tag.kind = .expression) {kind : TagKind}
    {body : Text} (plain : Plain (body ++ [kind.closeMark])) {here : Position} {rest : Text}
    {tags : List Tag}
    (ok : scanFrom (some tag) here (kind.openMark :: (body ++ (kind.closer ++ rest))) = .ok tags) :
    kind = .expression ∧ Plain ('{' :: (body ++ ['}'])) := by
  cases kind with
  | expression => exact ⟨rfl, plain_robbed_expression plain ok⟩
  | statement =>
    obtain ⟨error, fault⟩ := scanFrom_robbed_statement tag expression plain here rest
    exact absurd (fault.symm.trans ok) (by simp)

/-! ### Joining -/

/-- Where two texts meet outside of a tag and the scanner goes on, the two characters make no
delimiter or an opener. -/
theorem loose_or_opens {front : Text} {c d : Char} (plain : Plain (front ++ [c])) {here : Position}
    {rest : Text} {tags : List Tag} (ok : scanFrom none here (front ++ c :: d :: rest) = .ok tags) :
    Loose c d ∨ ∃ kind, opens? c d = some kind := by
  rcases opens : opens? c d with _ | kind
  · rcases closes : closes? c d with _ | close
    · exact Or.inl ⟨opens, closes⟩
    · rw [scanFrom_stray_closer plain closes] at ok
      cases ok
  · exact Or.inr ⟨kind, rfl⟩

/-- Behind sound pieces the scanner goes on as if there were nothing before. -/
theorem ok_behind_pieces {pieces : List Piece} (sound : ∀ piece ∈ pieces, piece.Sound)
    {here : Position} {rest : Text} {tags : List Tag}
    (ok : scanFrom none here (textOf pieces ++ rest) = .ok tags) :
    ∃ later, scanFrom none (here.after (textOf pieces)) rest = .ok later := by
  rw [scanFrom_pieces sound] at ok
  obtain ⟨later, ok, -⟩ := eq_ok_of_map_eq_ok ok
  exact ⟨later, ok⟩

/-- What becomes of the pieces of a text behind another text: the end of that text belongs to the
first gap, or gives its last brace to the expression tag that begins the second text. -/
inductive Met : Text → List Piece → Text → List Piece → Text → Prop
  | attached {front last last' : Text} {pieces pieces' : List Piece} :
      Attached front pieces last pieces' last' → Met front pieces last pieces' last'
  | brace (gap body last : Text) (pieces : List Piece) :
      Met (gap ++ ['{']) (⟨[], .expression, body⟩ :: pieces) last
        (⟨gap, .expression, '{' :: body⟩ :: pieces) last

namespace Cut

theorem pieces_append {front : List Piece} (sound : ∀ piece ∈ front, piece.Sound) {source : Text}
    {pieces : List Piece} {last : Text} (cut : Cut source pieces last) :
    Cut (textOf front ++ source) (front ++ pieces) last := by
  refine ⟨?_, fun piece member => ?_, cut.plain⟩
  · rw [textOf_append, List.append_assoc, ← cut.joined]
  · rcases List.mem_append.mp member with inside | inside
    · exact sound piece inside
    · exact cut.sound piece inside

section

variable {front source last last' : Text} {pieces pieces' : List Piece} {here : Position}
  {tags : List Tag}

/-- **A text that does not end with a brace keeps its tags**, and so does the text behind it,
whatever follows, if the scanner succeeds on the whole. -/
theorem append_of_no_brace (cut : Cut front pieces last) (cut' : Cut source pieces' last')
    (noBrace : Plain (last ++ ['{'])) {rest : Text}
    (ok : scanFrom none here (front ++ (source ++ rest)) = .ok tags) :
    ∃ joint end', Cut (front ++ source) (pieces ++ joint) end' ∧
      Attached last pieces' last' joint end' := by
  have loose : ∀ c ∈ last.getLast?, ∀ d ∈ source.head?, Loose c d := by
    intro c isLast d isFirst
    obtain ⟨before, rfl⟩ := List.getLast?_eq_some_iff.mp isLast
    obtain ⟨after, rfl⟩ := List.head?_eq_some_iff.mp isFirst
    rw [cut.joined, List.append_assoc] at ok
    obtain ⟨later, ok⟩ := ok_behind_pieces cut.sound ok
    simp only [List.append_assoc, List.cons_append, List.nil_append] at ok
    rcases loose_or_opens cut.plain ok with loose | ⟨kind, opens⟩
    · exact loose
    · -- an opener would begin with a brace, and no two braces stand together
      obtain ⟨rfl, -⟩ := opens?_eq_some_iff.mp opens
      rw [List.append_assoc] at noBrace
      have braces := (List.isChain_append.mp noBrace).2.1
      exact absurd (List.isChain_cons_cons.mp braces).1.noOpener (by decide)
  obtain ⟨joint, end', whole, attached⟩ := cut'.attach cut.plain loose
  refine ⟨joint, end', ?_, attached⟩
  rw [cut.joined, List.append_assoc]
  exact pieces_append cut.sound whole

/-- Behind a text that ends with a brace, the scanner succeeds on a text that makes an opener with
the brace only if an expression tag begins that text. -/
theorem meets_brace {gap : Text} {d : Char} {kind : TagKind} (plain : Plain (gap ++ ['{']))
    (cut : Cut (d :: source) pieces last) (opens : opens? '{' d = some kind)
    (ok : scanFrom none here (gap ++ '{' :: d :: source) = .ok tags) :
    ∃ joint end', Cut (gap ++ '{' :: d :: source) joint end' ∧
      Met (gap ++ ['{']) pieces last joint end' := by
  obtain ⟨-, rfl⟩ := opens?_eq_some_iff.mp opens
  rw [scanFrom_plain plain, Option.map_none] at ok
  have entered := scanFrom_opener kind (here.after gap) source
  rw [TagKind.opener_eq] at entered
  rw [show '{' :: kind.openMark :: source = ['{', kind.openMark] ++ source from rfl, entered] at ok
  cases pieces with
  | nil =>
    -- no tag follows that could close this one
    have same : kind.openMark :: source = last := cut.joined
    have rest : Plain source := (same ▸ cut.plain : Plain (kind.openMark :: source)).tail
    rw [scanFrom_plain_end rest] at ok
    cases ok
  | cons piece pieces =>
    obtain ⟨sound, joined, rest⟩ := cut.uncons
    rw [piece.text_eq_gap_cons] at joined
    obtain ⟨pieceGap, pieceKind, body⟩ := piece
    cases pieceGap with
    | cons e gap' =>
      -- the next tag begins inside of this one
      obtain ⟨-, rfl⟩ := List.cons.inj joined
      have before : Plain (gap' ++ ['{']) := sound.gap.tail
      have fault := scanFrom_opener_ahead ⟨kind, here.after gap, []⟩ before pieceKind
        ((here.after gap).after ['{', kind.openMark])
        (body ++ (pieceKind.closer ++ (textOf pieces ++ last)))
      exact absurd (fault.symm.trans ok) (by simp)
    | nil =>
      obtain ⟨mark, rfl⟩ := List.cons.inj joined
      obtain rfl : kind = .expression := by
        cases kind with
        | expression => rfl
        | statement => exact absurd mark (by decide)
      obtain ⟨rfl, robbed⟩ := expression_of_robbed rfl sound.body ok
      let longer : Piece := ⟨gap, .expression, '{' :: body⟩
      have whole : Cut (longer.text ++ (textOf pieces ++ last)) (longer :: pieces) last :=
        Cut.cons ⟨plain, robbed⟩ rest
      rw [longer.text_eq_gap_cons] at whole
      exact ⟨_, last, whole, Met.brace gap body last pieces⟩

/-- **The tags of two texts are those of the whole** if the scanner succeeds on it, except that an
expression tag may take a brace before it into its body. -/
theorem append (cut : Cut front pieces last) (cut' : Cut source pieces' last')
    (ok : scanFrom none here (front ++ source) = .ok tags) :
    ∃ joint end', Cut (front ++ source) (pieces ++ joint) end' ∧
      Met last pieces' last' joint end' := by
  by_cases loose : ∀ c ∈ last.getLast?, ∀ d ∈ source.head?, Loose c d
  · obtain ⟨joint, end', whole, attached⟩ := cut'.attach cut.plain loose
    refine ⟨joint, end', ?_, Met.attached attached⟩
    rw [cut.joined, List.append_assoc]
    exact pieces_append cut.sound whole
  · push Not at loose
    obtain ⟨c, isLast, d, isFirst, tight⟩ := loose
    obtain ⟨before, rfl⟩ := List.getLast?_eq_some_iff.mp isLast
    obtain ⟨after, rfl⟩ := List.head?_eq_some_iff.mp isFirst
    have joined := cut.joined
    rw [joined, List.append_assoc] at ok
    obtain ⟨later, ok⟩ := ok_behind_pieces cut.sound ok
    rw [List.append_assoc, List.singleton_append] at ok
    obtain ⟨kind, opens⟩ := (loose_or_opens cut.plain ok).resolve_left tight
    obtain ⟨rfl, -⟩ := opens?_eq_some_iff.mp opens
    obtain ⟨joint, end', whole, met⟩ := meets_brace cut.plain cut' opens ok
    refine ⟨joint, end', ?_, met⟩
    rw [joined, List.append_assoc, List.append_assoc, List.singleton_append]
    exact pieces_append cut.sound whole

end

end Cut

end TextTemplate
