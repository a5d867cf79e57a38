/-
**Stripping lines breaks no tag.**

A line that is removed holds whole tags with blanks around them. Tags do not nest, so such a line
begins outside of all tags, also where tags go over several lines; and a line break belongs to no
delimiter, so nothing forms where the lines around it meet.

* `scanFrom_moved`: whether the scanner succeeds does not depend on where a text stands;
* `readsLine`: **the scanner reads a line in one way**, whatever the lines behind it are;
* `StructuralParts.readAs`: a structural line is read as structural statements, and stands outside of
  all tags;
* `scan_stripLines`: **what is left of a text without its structural lines can be scanned.**
-/

import TextTemplate.Inheritance.Strip
import TextTemplate.Proofs.Rendering.Written
import TextTemplate.Proofs.Tags.Junction
import TextTemplate.Proofs.Tags.Parts
import TextTemplate.Proofs.Tags.Slices

namespace TextTemplate

/-! ### The parts of a text -/

namespace Text

/-- **The lines of a text**: each of them but perhaps the last one ends with a line break, and there
are no other line breaks. -/
inductive Lines : List Text → Prop
  | nil : Lines []
  | last {line : Text} : '\n' ∉ line → Lines [line]
  | next {line : Text} {lines : List Text} :
    '\n' ∉ line → Lines lines → Lines ((line ++ ['\n']) :: lines)

theorem splitAfterEach_append (isEnd : Char → Bool) (line : Text) (lines : List Text) (text : Text) :
    splitAfterEach isEnd line lines text = lines.reverse ++ splitAfterEach isEnd line [] text := by
  induction text generalizing line lines with
  | nil =>
    unfold splitAfterEach
    split <;> simp
  | cons c text ih =>
    unfold splitAfterEach
    split
    · rw [ih [] ((c :: line).reverse :: lines), ih [] [(c :: line).reverse]]
      simp
    · exact ih (c :: line) lines

/-- **A text is cut into its lines**, which make up the text. -/
theorem lines_splitLines (text : Text) : Lines text.splitLines ∧ text.splitLines.flatten = text := by
  suffices general : ∀ line : Text, '\n' ∉ line →
      Lines (splitAfterEach (· == '\n') line [] text) ∧
        (splitAfterEach (· == '\n') line [] text).flatten = line.reverse ++ text from
    general [] List.not_mem_nil
  induction text with
  | nil =>
    intro line unbroken
    unfold splitAfterEach
    split
    · rename_i empty
      rw [List.isEmpty_iff.mp empty]
      exact ⟨Lines.nil, rfl⟩
    · exact ⟨Lines.last fun member => unbroken (List.mem_reverse.mp member), by simp⟩
  | cons c text ih =>
    intro line unbroken
    unfold splitAfterEach
    split
    · rename_i breaks
      obtain rfl : c = '\n' := beq_iff_eq.mp breaks
      obtain ⟨lines, flat⟩ := ih [] List.not_mem_nil
      have first : splitAfterEach (· == '\n') [] [('\n' :: line).reverse] text =
          (line.reverse ++ ['\n']) :: splitAfterEach (· == '\n') [] [] text := by
        rw [splitAfterEach_append]
        simp
      rw [first]
      refine ⟨Lines.next (fun member => unbroken (List.mem_reverse.mp member)) lines, ?_⟩
      rw [List.flatten_cons, flat]
      simp
    · rename_i other
      have longer : '\n' ∉ c :: line := by
        intro member
        rcases List.mem_cons.mp member with rfl | inside
        · exact other rfl
        · exact unbroken inside
      obtain ⟨lines, flat⟩ := ih (c :: line) longer
      exact ⟨lines, by rw [flat]; simp⟩

end Text

/-! ### Where a text stands -/

/-- **Whether the scanner succeeds does not depend on where a text stands**, nor on what the tag that
may be open holds. -/
theorem scanFrom_moved {pending pending' : Option OpenTag}
    (alike : pending.map OpenTag.kind = pending'.map OpenTag.kind) {here : Position} (here' : Position)
    {text : Text} {tags : List Tag} (ok : scanFrom pending here text = .ok tags) :
    ∃ tags', scanFrom pending' here' text = .ok tags' := by
  have ended : ∀ {pending pending' : Option OpenTag} {tags},
      pending.map OpenTag.kind = pending'.map OpenTag.kind → scanEnd pending = .ok tags →
        ∃ tags', scanEnd pending' = .ok tags' := by
    intro pending pending' tags alike ok
    cases pending with
    | none =>
      obtain rfl : pending' = none := Option.map_eq_none_iff.mp alike.symm
      exact ⟨[], rfl⟩
    | some tag => cases ok
  fun_induction scanFrom pending here text generalizing pending' here' tags with
  | case1 => exact ended alike ok
  | case2 => exact ended alike ok
  | case3 here c d rest past kind opened =>
    rename_i ih
    obtain rfl : pending' = none := Option.map_eq_none_iff.mp alike.symm
    simp only [scanFrom, opened]
    have sameKind : (some (OpenTag.mk kind here [])).map OpenTag.kind =
        (some (OpenTag.mk kind here' [])).map OpenTag.kind := rfl
    exact ih sameKind _ ok
  | case4 => cases ok
  | case5 here c d rest noCloser noOpener ih =>
    obtain rfl : pending' = none := Option.map_eq_none_iff.mp alike.symm
    simp only [scanFrom, noOpener, noCloser]
    exact ih rfl _ ok
  | case6 => cases ok
  | case7 here c d rest past tag noOpener closed =>
    rename_i ih
    obtain ⟨tag', rfl, kind⟩ := Option.map_eq_some_iff.mp alike.symm
    obtain ⟨inner, read, -⟩ := eq_ok_of_map_eq_ok ok
    obtain ⟨inner', read'⟩ := ih rfl ((here'.step c).step d) read
    refine ⟨⟨tag'.kind, tag'.start, (here'.step c).step d, tag'.body.reverse⟩ :: inner', ?_⟩
    simp only [scanFrom, noOpener, closed, kind, read', if_true]
    rfl
  | case8 => cases ok
  | case9 here c d rest tag noCloser noOpener ih =>
    obtain ⟨tag', rfl, kind⟩ := Option.map_eq_some_iff.mp alike.symm
    simp only [scanFrom, noOpener, noCloser]
    have sameKind : (some { tag with body := c :: tag.body }).map OpenTag.kind =
        (some { tag' with body := c :: tag'.body }).map OpenTag.kind := congrArg some kind.symm
    exact ih sameKind _ ok

/-! ### Reading a line -/

/-- **What the scanner makes of two characters**, whatever follows them: they are a fault, or it
passes both of them, or only the first one. -/
theorem scanFrom_two (pending : Option OpenTag) (here : Position) (c d : Char) :
    (∃ error, ∀ rest, scanFrom pending here (c :: d :: rest) = .error error) ∨
    (∃ found pending', ∀ rest, scanFrom pending here (c :: d :: rest) =
      (found ++ ·) <$> scanFrom pending' ((here.step c).step d) rest) ∨
    Loose c d := by
  rcases opened : opens? c d with - | kind
  · rcases closed : closes? c d with - | close
    · exact Or.inr (Or.inr ⟨opened, closed⟩)
    · cases pending with
      | none =>
        refine Or.inl ⟨⟨here, .unexpectedClose close⟩, fun rest => ?_⟩
        simp only [scanFrom, opened, closed]
      | some tag =>
        by_cases same : close = tag.kind
        · let read : Tag := ⟨tag.kind, tag.start, (here.step c).step d, tag.body.reverse⟩
          refine Or.inr (Or.inl ⟨[read], none, fun rest => ?_⟩)
          simp only [scanFrom, opened, closed, if_pos same]
          rfl
        · refine Or.inl ⟨⟨tag.start, .mismatched tag.kind close⟩, fun rest => ?_⟩
          simp only [scanFrom, opened, closed, if_neg same]
  · cases pending with
    | none =>
      refine Or.inr (Or.inl ⟨[], some ⟨kind, here, []⟩, fun rest => ?_⟩)
      simp only [scanFrom, opened]
      exact (id_map _).symm
    | some tag =>
      refine Or.inl ⟨⟨tag.start, .unterminated tag.kind⟩, fun rest => ?_⟩
      simp only [scanFrom, opened]

/-- A character that is no brace and no percent sign is passed, whatever follows it. -/
theorem scanFrom_bare {c : Char} (notOpen : c ≠ '{') (notClose : c ≠ '}') (notPercent : c ≠ '%')
    (pending : Option OpenTag) (here : Position) (rest : Text) :
    scanFrom pending here (c :: rest) =
      scanFrom (pending.map (·.extend [c])) (here.step c) rest := by
  cases rest with
  | nil => exact (scanEnd_extend pending [c]).symm
  | cons d rest => exact scanFrom_loose (Loose.of_ne d notOpen notClose notPercent) pending here rest

/-- **The scanner reads a line in one way**: with a line break behind it, it finds some tags and goes
on, or fails, whatever follows. -/
def ReadsLine (pending : Option OpenTag) (here : Position) (line : Text) : Prop :=
  (∃ found pending', ∀ rest, scanFrom pending here (line ++ '\n' :: rest) =
    (found ++ ·) <$> scanFrom pending' (here.after (line ++ ['\n'])) rest) ∨
  ∃ error, ∀ rest, scanFrom pending here (line ++ '\n' :: rest) = .error error

theorem readsLine_nil (pending : Option OpenTag) (here : Position) : ReadsLine pending here [] := by
  refine Or.inl ⟨[], pending.map (·.extend ['\n']), fun rest => ?_⟩
  rw [List.nil_append, scanFrom_bare (by decide) (by decide) (by decide)]
  exact (id_map _).symm

/-- A character that makes no delimiter with the next one may stand before a line. -/
theorem ReadsLine.cons {pending : Option OpenTag} {here : Position} {c : Char} {line : Text}
    (read : ReadsLine (pending.map (·.extend [c])) (here.step c) line)
    (loose : ∀ d ∈ (line ++ ['\n']).head?, Loose c d) : ReadsLine pending here (c :: line) := by
  have passed : ∀ rest, scanFrom pending here (c :: line ++ '\n' :: rest) =
      scanFrom (pending.map (·.extend [c])) (here.step c) (line ++ '\n' :: rest) := by
    intro rest
    cases line with
    | nil => exact scanFrom_loose (loose _ rfl) pending here rest
    | cons d line => exact scanFrom_loose (loose _ rfl) pending here _
  rcases read with ⟨found, pending', read⟩ | ⟨error, read⟩
  · exact Or.inl ⟨found, pending', fun rest => (passed rest).trans (read rest)⟩
  · exact Or.inr ⟨error, fun rest => (passed rest).trans (read rest)⟩

/-- **The scanner reads every line in one way.** -/
theorem readsLine : (pending : Option OpenTag) → (here : Position) → (line : Text) →
    ReadsLine pending here line
  | pending, here, [] => readsLine_nil pending here
  | pending, here, [c] => by
    refine (readsLine_nil _ _).cons fun d first => ?_
    obtain rfl : '\n' = d := Option.some.inj first
    exact loose_iff.mpr ⟨fun kind opener => by cases kind <;> exact absurd opener.2 (by decide),
      fun kind closer => absurd closer.2 (by decide)⟩
  | pending, here, c :: d :: line => by
    rcases scanFrom_two pending here c d with ⟨error, fault⟩ | ⟨found, pending', passed⟩ | loose
    · exact Or.inr ⟨error, fun rest => fault _⟩
    · rcases readsLine pending' ((here.step c).step d) line with ⟨found', last, read⟩ | ⟨error, read⟩
      · refine Or.inl ⟨found ++ found', last, fun rest => ?_⟩
        have both := passed (line ++ '\n' :: rest)
        rw [read rest, Functor.map_map] at both
        simpa using both
      · refine Or.inr ⟨error, fun rest => ?_⟩
        have both := passed (line ++ '\n' :: rest)
        rw [read rest] at both
        exact both
    · refine (readsLine _ _ (d :: line)).cons fun e first => ?_
      obtain rfl : d = e := Option.some.inj first
      exact loose

/-! ### Structural lines -/

/-- A piece of a structural line: blanks and a structural statement. -/
structure Piece.Structural (extra : List String) (piece : Piece) : Prop where
  gap : ∀ c ∈ piece.gap, isSpace c = true
  tag : (piece.tag Position.start).isStructural extra = true

/-- What stands before the tag of a piece, behind a front part of the text. -/
theorem slice_before_tag {front : Text} {here : Position} (atFront : front.byteSize = here.offset)
    (before : List Piece) (piece : Piece) (after : List Piece) (last : Text) :
    Text.slice here.offset (piece.tag (here.after (textOf before))).start.offset
      (front ++ (textOf (before ++ piece :: after) ++ last)) = textOf before ++ piece.gap := by
  have found := Text.slice?_append front (textOf before ++ piece.gap)
    (piece.tagText ++ textOf after ++ last)
  rw [Text.slice, Piece.tag, Position.after_offset, Position.after_offset, ← atFront]
  simpa [Piece.text, Nat.add_assoc] using congrArg (·.getD []) found

/-- **A text of structural statements and blanks**: its pieces are structural, and nothing stands behind
them. -/
theorem structural_of_structuralFrom {extra : List String} {pieces : List Piece} {last : Text}
    (front : Text) (here : Position) (atFront : front.byteSize = here.offset)
    (structural : structuralFrom extra (front ++ (textOf pieces ++ last)) here.offset
      ((tagsFrom here pieces).filter fun tag => tag.kind = .statement) = true) :
    (∀ piece ∈ pieces, piece.Structural extra) ∧ last = [] := by
  induction pieces generalizing front here with
  | nil =>
    have ended : here.offset = (front ++ last).byteSize := beq_iff_eq.mp structural
    rw [Text.byteSize_append, atFront] at ended
    exact ⟨fun _ member => absurd member List.not_mem_nil, Text.byteSize_eq_zero_iff.mp (by omega)⟩
  | cons piece pieces ih =>
    rw [tagsFrom_cons, List.filter_cons] at structural
    split at structural
    · -- the statement is structural, and so is what follows
      simp only [structuralFrom, Bool.and_eq_true] at structural
      obtain ⟨⟨blank, statement⟩, later⟩ := structural
      have gap := slice_before_tag atFront [] piece pieces last
      rw [textOf_nil, Position.after_nil, List.nil_append, List.nil_append] at gap
      rw [gap, List.all_eq_true] at blank
      have behind : (front ++ piece.text).byteSize = (here.after piece.text).offset := by
        rw [Text.byteSize_append, Position.after_offset, atFront]
      have regroup : front ++ (textOf (piece :: pieces) ++ last) =
          (front ++ piece.text) ++ (textOf pieces ++ last) := by simp
      rw [regroup] at later
      obtain ⟨rest, ended⟩ := ih _ _ behind later
      exact ⟨List.forall_mem_cons.mpr ⟨⟨blank, statement⟩, rest⟩, ended⟩
    · -- the tag is an expression, which would have to be blank
      exfalso
      rcases others : (tagsFrom (here.after piece.text) pieces).filter
          (fun tag => tag.kind = .statement) with - | ⟨tag, tags⟩
      · rw [others] at structural
        have ended : here.offset = _ := beq_iff_eq.mp structural
        simp only [Text.byteSize_append, textOf_cons, Piece.byteSize_text] at ended
        omega
      · rw [others] at structural
        simp only [structuralFrom, Bool.and_eq_true] at structural
        have member : tag ∈ tagsFrom (here.after piece.text) pieces :=
          (List.mem_filter.mp (others ▸ List.mem_cons_self)).1
        obtain ⟨before, next, after, rfl, rfl⟩ := exists_piece_of_mem_tagsFrom member
        have stretch := slice_before_tag atFront (piece :: before) next after last
        rw [textOf_cons, Position.after_append] at stretch
        have blank := structural.1.1
        rw [← List.cons_append, stretch, List.append_assoc, piece.text_eq_gap_cons,
          List.all_eq_true] at blank
        exact absurd (blank '{' (by simp)) (by decide)

/-- **A structural line** is blanks, structural pieces and blanks. -/
structure StructuralParts (extra : List String) (line front : Text) (pieces : List Piece)
    (back : Text) : Prop where
  joined : line = front ++ (textOf pieces ++ back)
  bareFront : Bare front
  structural : ∀ piece ∈ pieces, piece.Sound ∧ piece.Structural extra
  someTag : pieces ≠ []
  bareBack : Bare back

theorem bare_of_isSpace {text : Text} (blank : ∀ c ∈ text, isSpace c = true) : Bare text := by
  intro c member
  have space := blank c member
  refine ⟨?_, ?_, ?_⟩ <;> (rintro rfl; exact absurd space (by decide))

theorem bare_of_isLineEnd {text : Text} (ends : ∀ c ∈ text, isLineEnd c = true) : Bare text := by
  intro c member
  have isEnd := ends c member
  refine ⟨?_, ?_, ?_⟩ <;> (rintro rfl; exact absurd isEnd (by decide))

/-- A structural line can be scanned, and has structural statements from its first character on. -/
theorem scan_of_isStructuralLine {extra : List String} {line : Text}
    (structural : isStructuralLine extra line = true) :
    ∃ tags, scan (line.stripWhile isSpace) = .ok tags ∧
      (tags.filter fun tag => tag.kind = .statement) ≠ [] ∧
        structuralFrom extra (line.stripWhile isSpace) 0
          (tags.filter fun tag => tag.kind = .statement) = true := by
  unfold isStructuralLine scanStatements at structural
  dsimp only at structural
  rcases scanned : scan (line.stripWhile isSpace) with error | tags
  · rw [scanned] at structural
    cases structural
  · rw [scanned] at structural
    refine ⟨tags, rfl, ?_⟩
    simp only [Functor.map, Except.map] at structural
    split at structural
    · cases structural
    · cases structural
    · rename_i statements notNil found
      cases found
      exact ⟨fun empty => notNil (by rw [empty]), structural⟩

theorem exists_structuralParts {extra : List String} {line : Text}
    (structural : isStructuralLine extra (line.dropRightWhile isLineEnd) = true) :
    ∃ front pieces back, StructuralParts extra line front pieces back := by
  obtain ⟨ends, joined, isEnd⟩ := Text.exists_dropRightWhile isLineEnd line
  obtain ⟨front, back, joined', space, space'⟩ :=
    Text.exists_stripWhile isSpace (line.dropRightWhile isLineEnd)
  obtain ⟨tags, scanned, statements, structural⟩ := scan_of_isStructuralLine structural
  obtain ⟨pieces, last, cut, rfl⟩ := scan_eq_ok_iff.mp scanned
  rw [cut.joined] at structural joined'
  obtain ⟨structural', rfl⟩ := structural_of_structuralFrom [] .start rfl structural
  have someTag : pieces ≠ [] := by
    rintro rfl
    exact statements rfl
  refine ⟨front, pieces, back ++ ends, ?_, bare_of_isSpace space, ?_, someTag, ?_⟩
  · rw [joined, joined']
    simp
  · exact fun piece member => ⟨cut.sound piece member, structural' piece member⟩
  · exact (bare_of_isSpace space').append (bare_of_isLineEnd isEnd)

namespace StructuralParts

variable {extra : List String} {line front back : Text} {pieces : List Piece}
  (parts : StructuralParts extra line front pieces back)
include parts

/-- **A structural line is read as its statements**, whatever follows it. -/
theorem readAs (here : Position) :
    ReadAs here line (tagsFrom (here.after front) pieces) := by
  have middle : ReadAs (here.after front) (textOf pieces) (tagsFrom (here.after front) pieces) :=
    scanFrom_pieces (fun piece member => (parts.structural piece member).1) (here.after front)
  have whole := (ReadAs.bare parts.bareFront here).append (middle.append (ReadAs.bare parts.bareBack _))
  rw [parts.joined]
  simpa using whole

/-- **A structural line stands outside of all tags**: no tag may begin inside of another one. -/
theorem scanFrom_inside (tag : OpenTag) (here : Position) (rest : Text) :
    scanFrom (some tag) here (line ++ rest) = .error ⟨tag.start, .unterminated tag.kind⟩ := by
  obtain ⟨piece, later, rfl⟩ := List.exists_cons_of_ne_nil parts.someTag
  have first := (parts.structural piece List.mem_cons_self).2
  have blank : Bare (front ++ piece.gap) := parts.bareFront.append (bare_of_isSpace first.gap)
  have regroup : line ++ rest = (front ++ piece.gap) ++ '{' :: piece.kind.openMark ::
      (piece.body ++ (piece.kind.closer ++ (textOf later ++ (back ++ rest)))) := by
    rw [parts.joined, textOf_cons, List.append_assoc, List.append_assoc, List.append_assoc,
      piece.text_eq_gap_cons]
    simp
  rw [regroup]
  exact scanFrom_opener_ahead tag (blank.plain '{') piece.kind here _

end StructuralParts

/-! ### Removing structural lines -/

/-- The lines that are kept. -/
def keptLines (extra : List String) (lines : List Text) : List Text :=
  lines.filter fun line => !isStructuralLine extra (line.dropRightWhile isLineEnd)

/-- Where a structural line has been read, the scanner goes on as if the line were not there. -/
theorem scanFrom_behind_structural {extra : List String} {line : Text}
    (structural : isStructuralLine extra (line.dropRightWhile isLineEnd) = true)
    {pending : Option OpenTag} {here : Position} {rest : Text} {tags : List Tag}
    (ok : scanFrom pending here (line ++ rest) = .ok tags) :
    pending = none ∧ ∃ tags', scanFrom none here rest = .ok tags' := by
  obtain ⟨front, pieces, back, parts⟩ := exists_structuralParts structural
  cases pending with
  | some tag =>
    rw [parts.scanFrom_inside] at ok
    cases ok
  | none =>
    rw [parts.readAs here rest] at ok
    obtain ⟨later, ok, -⟩ := eq_ok_of_map_eq_ok ok
    exact ⟨rfl, scanFrom_moved rfl here ok⟩

/-- **Without its structural lines a text can still be scanned**, from the middle of a tag as well. -/
theorem scanFrom_keptLines (extra : List String) {lines : List Text} (shape : Text.Lines lines)
    {pending : Option OpenTag} {here : Position} {tags : List Tag}
    (ok : scanFrom pending here lines.flatten = .ok tags) :
    ∃ tags', scanFrom pending here (keptLines extra lines).flatten = .ok tags' := by
  induction shape generalizing pending here tags with
  | nil => exact ⟨tags, ok⟩
  | @last line unbroken =>
    by_cases structural : isStructuralLine extra (line.dropRightWhile isLineEnd) = true
    · have removed : keptLines extra [line] = [] := by simp [keptLines, structural]
      rw [removed]
      obtain ⟨rfl, later⟩ := scanFrom_behind_structural structural ok
      exact later
    · have kept : keptLines extra [line] = [line] := by simp [keptLines, structural]
      rw [kept]
      exact ⟨tags, ok⟩
  | @next line lines unbroken shape ih =>
    rw [List.flatten_cons] at ok
    by_cases structural : isStructuralLine extra ((line ++ ['\n']).dropRightWhile isLineEnd) = true
    · have removed : keptLines extra ((line ++ ['\n']) :: lines) = keptLines extra lines := by
        simp [keptLines, structural]
      rw [removed]
      obtain ⟨rfl, tags', later⟩ := scanFrom_behind_structural structural ok
      exact ih later
    · have kept : keptLines extra ((line ++ ['\n']) :: lines) =
          (line ++ ['\n']) :: keptLines extra lines := by
        simp [keptLines, structural]
      rw [kept, List.flatten_cons, List.append_assoc, List.singleton_append]
      rw [List.append_assoc, List.singleton_append] at ok
      rcases readsLine pending here line with ⟨found, pending', read⟩ | ⟨error, read⟩
      · rw [read] at ok ⊢
        obtain ⟨later, ok, -⟩ := eq_ok_of_map_eq_ok ok
        obtain ⟨later', ok'⟩ := ih ok
        exact ⟨found ++ later', by rw [ok']; rfl⟩
      · rw [read] at ok
        cases ok

/-- **What is left of a text without its structural lines can be scanned** if the text can. -/
theorem scan_stripLines (extra : List String) {text : Text} {tags : List Tag}
    (scanned : scan text = .ok tags) : ∃ tags', scan (stripLines extra text) = .ok tags' := by
  obtain ⟨shape, joined⟩ := Text.lines_splitLines text
  rw [scan, ← joined] at scanned
  exact scanFrom_keptLines extra shape scanned

end TextTemplate
