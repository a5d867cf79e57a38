/-
**What stripping lines keeps.**

Whether a line is removed is decided by that line alone, though tags may go over several lines. Where
a structural line stands in a text that can be scanned, no tag is open, so the scanner finds the same
tags in it; and the lines around it are read as before when it is gone.

* `Text.splitLines_flatten`: lines put together are cut into the same lines again;
* `stripLines_stripLines`: **stripping is idempotent**;
* `removedLines`, `Tag.liesIn`: where the removed lines stand, and the tags in them;
* `Survive`: what is left of the tags of a text when some parts of it are removed;
* `exists_survive`: one more line is kept or removed;
* `stripLines_exact`: **stripping keeps the other lines, and of the tags those on no removed line.**
-/

import TextTemplate.Proofs.Edits.Nesting
import TextTemplate.Proofs.Inheritance.Stripping

namespace TextTemplate

/-! ### Cutting lines again -/

namespace Text

/-- A line with its line break is cut off. -/
theorem splitAfterEach_line {line : Text} (unbroken : '\n' ∉ line) (before rest : Text) :
    splitAfterEach (· == '\n') before [] (line ++ '\n' :: rest) =
      (before.reverse ++ (line ++ ['\n'])) :: splitAfterEach (· == '\n') [] [] rest := by
  induction line generalizing before with
  | nil =>
    rw [List.nil_append, splitAfterEach, if_pos (by decide), splitAfterEach_append]
    simp
  | cons c line ih =>
    obtain ⟨other, unbroken'⟩ := not_or.mp (mt List.mem_cons.mpr unbroken)
    have goesOn : ¬ (c == '\n') = true := fun same => other (beq_iff_eq.mp same).symm
    rw [List.cons_append, splitAfterEach, if_neg goesOn, ih unbroken']
    simp

/-- The last line is cut off if it is not empty. -/
theorem splitAfterEach_last {line : Text} (unbroken : '\n' ∉ line) (before : Text)
    (filled : before ++ line ≠ []) :
    splitAfterEach (· == '\n') before [] line = [before.reverse ++ line] := by
  induction line generalizing before with
  | nil =>
    rw [List.append_nil] at filled
    rw [splitAfterEach, if_neg (by simpa using filled)]
    simp
  | cons c line ih =>
    obtain ⟨other, unbroken'⟩ := not_or.mp (mt List.mem_cons.mpr unbroken)
    have goesOn : ¬ (c == '\n') = true := fun same => other (beq_iff_eq.mp same).symm
    rw [splitAfterEach, if_neg goesOn, ih unbroken' (c :: before) (by simp)]
    simp

/-- **Lines put together are cut into the same lines again**, if none of them is empty. -/
theorem splitLines_flatten {lines : List Text} (shape : Lines lines) (filled : [] ∉ lines) :
    splitLines lines.flatten = lines := by
  induction shape with
  | nil => rfl
  | @last line unbroken =>
    have visible : line ≠ [] := fun empty => filled (by simp [empty])
    rw [List.flatten_singleton, splitLines, splitAfterEach_last unbroken [] visible]
    rfl
  | @next line lines unbroken _ ih =>
    have later : [] ∉ lines := fun member => filled (List.mem_cons_of_mem _ member)
    rw [List.flatten_cons, List.append_assoc, List.singleton_append, splitLines,
      splitAfterEach_line unbroken, ← splitLines, ih later]
    rfl

/-- No line of a text is empty. -/
theorem nil_notMem_splitLines (text : Text) : [] ∉ text.splitLines := by
  suffices general : ∀ line, [] ∉ splitAfterEach (· == '\n') line [] text from general []
  induction text with
  | nil =>
    intro line member
    unfold splitAfterEach at member
    split at member
    · exact absurd member List.not_mem_nil
    · rename_i filled
      have same : [] = line.reverse := List.mem_singleton.mp member
      exact filled (by rw [List.reverse_eq_nil_iff.mp same.symm]; rfl)
  | cons c text ih =>
    intro line member
    unfold splitAfterEach at member
    split at member
    · rw [splitAfterEach_append] at member
      rcases List.mem_append.mp member with first | later
      · simp at first
      · exact ih [] later
    · exact ih (c :: line) member

/-- Some of the lines of a text are the lines of another one. -/
theorem Lines.filter {lines : List Text} (shape : Lines lines) (keep : Text → Bool) :
    Lines (lines.filter keep) := by
  induction shape with
  | nil => exact Lines.nil
  | @last line unbroken =>
    rw [List.filter_cons]
    split
    · exact Lines.last unbroken
    · exact Lines.nil
  | @next line lines unbroken _ ih =>
    rw [List.filter_cons]
    split
    · exact Lines.next unbroken ih
    · exact ih

end Text

section Lines

variable (extra : List String) (text : Text)

/-- **The lines that are kept are unchanged** and in order. -/
theorem splitLines_stripLines :
    (stripLines extra text).splitLines = keptLines extra text.splitLines := by
  obtain ⟨shape, -⟩ := Text.lines_splitLines text
  refine Text.splitLines_flatten (shape.filter _) fun member => ?_
  exact Text.nil_notMem_splitLines text (List.mem_of_mem_filter member)

/-- **Stripping is idempotent.** -/
theorem stripLines_stripLines : stripLines extra (stripLines extra text) = stripLines extra text := by
  show (keptLines extra (stripLines extra text).splitLines).flatten = _
  rw [splitLines_stripLines, keptLines, keptLines, List.filter_filter]
  simp only [Bool.and_self]
  rfl

end Lines

/-! ### Where the removed lines stand -/

/-- The spans of the lines that are removed, the first line beginning at an offset. -/
def removedFrom (extra : List String) : (here : Nat) → List Text → List Span
  | _, [] => []
  | here, line :: lines =>
    let behind := here + line.byteSize
    if isStructuralLine extra (line.dropRightWhile isLineEnd) then
      ⟨here, behind⟩ :: removedFrom extra behind lines
    else removedFrom extra behind lines

/-- The spans of the lines of a text that are removed. -/
def removedLines (extra : List String) (text : Text) : List Span :=
  removedFrom extra 0 text.splitLines

/-- Whether two spans have a byte in common. -/
def Span.meets (a b : Span) : Bool :=
  a.start < b.stop && b.start < a.stop

/-- Whether a tag has a byte in one of some spans. -/
def Tag.liesIn (spans : List Span) (tag : Tag) : Bool :=
  spans.any fun span => span.meets tag.span

theorem Span.meets_iff {a b : Span} : a.meets b = true ↔ a.start < b.stop ∧ b.start < a.stop := by
  simp [Span.meets]

theorem Tag.liesIn_eq_false_iff {spans : List Span} {tag : Tag} :
    tag.liesIn spans = false ↔ ∀ span ∈ spans, ¬ span.meets tag.span = true := by
  rw [liesIn, List.any_eq_false]

/-- The removed lines behind an offset begin behind it. -/
theorem le_start_of_mem_removedFrom {extra : List String} {here : Nat} {lines : List Text}
    {span : Span} (member : span ∈ removedFrom extra here lines) : here ≤ span.start := by
  induction lines generalizing here with
  | nil => exact absurd member List.not_mem_nil
  | cons line lines ih =>
    have behind : span ∈ removedFrom extra (here + line.byteSize) lines → here ≤ span.start :=
      fun later => Nat.le_trans (Nat.le_add_right _ _) (ih later)
    unfold removedFrom at member
    dsimp only at member
    split at member
    · rcases List.mem_cons.mp member with rfl | later
      · exact Nat.le_refl _
      · exact behind later
    · exact behind member

/-! ### Tags that survive -/

/-- **What is left of the tags of a text** when some parts of it are removed: the texts of the tags that
have no byte in them. Each of the other tags lies in such a part as a whole, and is structural. -/
structure Survive (extra : List String) (removed : List Span) (tags : List Tag)
    (left : List Text) : Prop where
  texts : left = (tags.filter fun tag => !tag.liesIn removed).map Tag.text
  inside : ∀ tag ∈ tags, ∀ span ∈ removed, span.meets tag.span = true →
    span.encloses tag.span = true ∧ tag.isStructural extra = true

theorem survive_all (extra : List String) (tags : List Tag) :
    Survive extra [] tags (tags.map Tag.text) := by
  refine ⟨?_, fun tag _ span member => absurd member List.not_mem_nil⟩
  have all : (tags.filter fun tag => !tag.liesIn []) = tags := List.filter_eq_self.mpr fun _ _ => rfl
  rw [all]

/-- **Tags in front of a removed line, in it and behind it**: the first ones survive, the next ones do
not, and the last ones as they do without the line. -/
theorem Survive.line {extra : List String} {line : Span} {removed : List Span}
    {front own later : List Tag} {left : List Text} (survive : Survive extra removed later left)
    (forward : line.start ≤ line.stop) (ordered : ∀ span ∈ removed, line.stop ≤ span.start)
    (before : ∀ tag ∈ front, tag.stop.offset ≤ line.start)
    (within : ∀ tag ∈ own, line.start ≤ tag.start.offset ∧ tag.start.offset < tag.stop.offset ∧
      tag.stop.offset ≤ line.stop)
    (structural : ∀ tag ∈ own, tag.isStructural extra = true)
    (behind : ∀ tag ∈ later, line.stop ≤ tag.start.offset) :
    Survive extra (line :: removed) (front ++ (own ++ later)) (front.map Tag.text ++ left) := by
  have apartFront : ∀ tag ∈ front, ∀ span ∈ line :: removed, ¬ span.meets tag.span = true := by
    intro tag member span listed meets
    have early := before tag member
    have overlap : span.start < tag.stop.offset := (Span.meets_iff.mp meets).1
    rcases List.mem_cons.mp listed with rfl | later
    · omega
    · have late := ordered span later
      omega
  have apartOwn : ∀ tag ∈ own, ∀ span ∈ removed, ¬ span.meets tag.span = true := by
    intro tag member span listed meets
    have late := ordered span listed
    have early := (within tag member).2.2
    have overlap : span.start < tag.stop.offset := (Span.meets_iff.mp meets).1
    omega
  have apartLater : ∀ tag ∈ later, ¬ line.meets tag.span = true := by
    intro tag member meets
    have late := behind tag member
    have overlap : tag.start.offset < line.stop := (Span.meets_iff.mp meets).2
    omega
  refine ⟨?_, fun tag member span listed meets => ?_⟩
  · have keptFront : (front.filter fun tag => !tag.liesIn (line :: removed)) = front := by
      refine List.filter_eq_self.mpr fun tag member => ?_
      rw [Tag.liesIn_eq_false_iff.mpr (apartFront tag member)]
      rfl
    have lostOwn : (own.filter fun tag => !tag.liesIn (line :: removed)) = [] := by
      refine List.filter_eq_nil_iff.mpr fun tag member => ?_
      obtain ⟨first, wide, last⟩ := within tag member
      have meets : line.meets tag.span = true :=
        Span.meets_iff.mpr ⟨Nat.lt_of_le_of_lt first wide, Nat.lt_of_lt_of_le wide last⟩
      rw [Tag.liesIn, List.any_cons, meets, Bool.true_or]
      decide
    have sameLater : (later.filter fun tag => !tag.liesIn (line :: removed)) =
        later.filter fun tag => !tag.liesIn removed := by
      refine List.filter_congr fun tag member => ?_
      rw [Tag.liesIn, List.any_cons, Bool.eq_false_iff.mpr (apartLater tag member), Bool.false_or]
      rfl
    rw [List.filter_append, List.filter_append, keptFront, lostOwn, sameLater, List.nil_append,
      List.map_append, survive.texts]
  · rcases List.mem_append.mp member with inFront | member
    · exact absurd meets (apartFront tag inFront span listed)
    rcases List.mem_append.mp member with inOwn | inLater
    · rcases List.mem_cons.mp listed with rfl | other
      · obtain ⟨first, -, last⟩ := within tag inOwn
        exact ⟨Span.encloses_iff.mpr ⟨first, last⟩, structural tag inOwn⟩
      · exact absurd meets (apartOwn tag inOwn span other)
    · rcases List.mem_cons.mp listed with rfl | other
      · exact absurd meets (apartLater tag inLater)
      · exact survive.inside tag inLater span other meets

/-! ### Reading what is left -/

/-- A structural tag is a statement with a keyword of the one or the other kind. -/
theorem keyword_of_isStructural {extra : List String} {tag : Tag}
    (structural : tag.isStructural extra = true) :
    tag.kind = .statement ∧ ∃ keyword argument, tag.directive? = some (keyword, argument) ∧
      (keyword ∈ structuralKeywords ∨ keyword ∈ extra) := by
  unfold Tag.isStructural at structural
  split at structural
  · rename_i keyword argument found
    refine ⟨?_, keyword, argument, found, ?_⟩
    · unfold Tag.directive? at found
      split at found
      · assumption
      · cases found
    · simpa [isStructural] using structural
  · cases structural

/-- The tags of some pieces have the texts of the pieces, wherever these stand. -/
theorem texts_tagsFrom (here : Position) (pieces : List Piece) :
    (tagsFrom here pieces).map Tag.text = pieces.map Piece.tagText := by
  induction pieces generalizing here with
  | nil => rfl
  | cons piece pieces ih => rw [tagsFrom_cons, List.map_cons, List.map_cons, ih, Piece.tag_text]

/-- **The tags of a text have the same texts elsewhere.** -/
theorem scanFrom_elsewhere {here : Position} {text : Text} {tags : List Tag}
    (ok : scanFrom none here text = .ok tags) (here' : Position) :
    ∃ tags', scanFrom none here' text = .ok tags' ∧ tags'.map Tag.text = tags.map Tag.text := by
  obtain ⟨pieces, last, cut, rfl⟩ := reads_of_scanFrom ok
  exact ⟨_, cut.scanFrom_eq here', by rw [texts_tagsFrom, texts_tagsFrom]⟩

/-- The tags of a text lie in it. -/
theorem within_of_scanFrom {here : Position} {text : Text} {tags : List Tag}
    (ok : scanFrom none here text = .ok tags) :
    ∀ tag ∈ tags, here.offset ≤ tag.start.offset ∧ tag.start.offset < tag.stop.offset ∧
      tag.stop.offset ≤ (here.after text).offset := by
  obtain ⟨pieces, last, cut, rfl⟩ := reads_of_scanFrom ok
  intro tag member
  obtain ⟨before, piece, after, rfl, rfl⟩ := exists_piece_of_mem_tagsFrom member
  rw [cut.joined]
  simp only [Piece.tag, Position.after_offset, Text.byteSize_append, textOf_append, textOf_cons,
    Piece.byteSize_text]
  omega

theorem ReadAs.scanFrom_eq {here : Position} {text : Text} {tags : List Tag}
    (read : ReadAs here text tags) : scanFrom none here text = .ok tags := by
  have whole := read []
  rw [List.append_nil] at whole
  rw [whole]
  show Except.ok (tags ++ []) = _
  rw [List.append_nil]

/-- **Around a structural line nothing is open**: what stands in front of it is read as a whole, if it
ends with a line break, and so is the line, as structural statements. -/
theorem exists_parts_of_structural {extra : List String} {front line rest : Text} {here : Position}
    {tags : List Tag} (ended : front = [] ∨ ∃ line, front = line ++ ['\n'])
    (structural : isStructuralLine extra (line.dropRightWhile isLineEnd) = true)
    (ok : scanFrom none here (front ++ (line ++ rest)) = .ok tags) :
    ∃ found own later, tags = found ++ (own ++ later) ∧ ReadAs here front found ∧
      ReadAs (here.after front) line own ∧ (∀ tag ∈ own, tag.isStructural extra = true) ∧
        scanFrom none (here.after (front ++ line)) rest = .ok later := by
  obtain ⟨found, read⟩ : ∃ found, ReadAs here front found := by
    rcases ended with rfl | ⟨first, rfl⟩
    · exact ⟨[], ReadAs.bare (fun c member => absurd member List.not_mem_nil) here⟩
    · rw [List.append_assoc, List.singleton_append] at ok
      rcases readsLine none here first with ⟨found, pending, read⟩ | ⟨error, fault⟩
      · rw [read] at ok
        obtain ⟨later, ok, -⟩ := eq_ok_of_map_eq_ok ok
        obtain ⟨rfl, -⟩ := scanFrom_behind_structural structural ok
        refine ⟨found, fun rest => ?_⟩
        rw [List.append_assoc, List.singleton_append]
        exact read rest
      · rw [fault] at ok
        cases ok
  obtain ⟨before, pieces, back, parts⟩ := exists_structuralParts structural
  have read' := parts.readAs (here.after front)
  rw [read, read'] at ok
  obtain ⟨both, behind, rfl⟩ := eq_ok_of_map_eq_ok ok
  obtain ⟨later, ok', rfl⟩ := eq_ok_of_map_eq_ok behind
  rw [← Position.after_append] at ok'
  refine ⟨found, _, later, rfl, read, read', fun tag member => ?_, ok'⟩
  obtain ⟨ahead, piece, behind, rfl, rfl⟩ := exists_piece_of_mem_tagsFrom member
  exact (parts.structural piece (by simp)).2.tag

/-- **One more line is removed**: the tags behind it survive as before. -/
theorem exists_survive_removed {extra : List String} {front line rest kept : Text} {here : Position}
    {tags : List Tag} {removed : List Span} (ended : front = [] ∨ ∃ line, front = line ++ ['\n'])
    (structural : isStructuralLine extra (line.dropRightWhile isLineEnd) = true)
    (ordered : ∀ span ∈ removed, (here.after (front ++ line)).offset ≤ span.start)
    (survives : ∀ later, scanFrom none (here.after (front ++ line)) rest = .ok later →
      ∃ later', scanFrom none (here.after (front ++ line)) kept = .ok later' ∧
        Survive extra removed later (later'.map Tag.text))
    (ok : scanFrom none here (front ++ (line ++ rest)) = .ok tags) :
    ∃ tags', scanFrom none here (front ++ kept) = .ok tags' ∧
      Survive extra (⟨(here.after front).offset, (here.after (front ++ line)).offset⟩ :: removed) tags
        (tags'.map Tag.text) := by
  obtain ⟨found, own, later, rfl, read, read', statements, ok⟩ :=
    exists_parts_of_structural ended structural ok
  obtain ⟨later', ok', survive⟩ := survives later ok
  obtain ⟨moved, ok'', same⟩ := scanFrom_elsewhere ok' (here.after front)
  refine ⟨found ++ moved, by rw [read, ok'']; rfl, ?_⟩
  rw [List.map_append, same]
  refine survive.line ?_ ordered (fun tag member => ?_) (fun tag member => ?_) statements ?_
  · show (here.after front).offset ≤ (here.after (front ++ line)).offset
    rw [Position.after_append, Position.after_offset (here.after front)]
    exact Nat.le_add_right _ _
  · exact (within_of_scanFrom read.scanFrom_eq tag member).2.2
  · have inside := within_of_scanFrom read'.scanFrom_eq tag member
    rwa [← Position.after_append] at inside
  · exact fun tag member => (within_of_scanFrom ok tag member).1

/-- **The tags that survive the removal of some lines.** -/
theorem exists_survive (extra : List String) {lines : List Text} (shape : Text.Lines lines)
    {front : Text} {here : Position} {tags : List Tag}
    (ended : front = [] ∨ ∃ line, front = line ++ ['\n'])
    (ok : scanFrom none here (front ++ lines.flatten) = .ok tags) :
    ∃ tags', scanFrom none here (front ++ (keptLines extra lines).flatten) = .ok tags' ∧
      Survive extra (removedFrom extra (here.after front).offset lines) tags
        (tags'.map Tag.text) := by
  induction shape generalizing front here tags with
  | nil => exact ⟨tags, ok, survive_all extra tags⟩
  | @last line unbroken =>
    by_cases structural : isStructuralLine extra (line.dropRightWhile isLineEnd) = true
    · have removed : keptLines extra [line] = [] := by simp [keptLines, structural]
      rw [removed, removedFrom, if_pos structural, ← Position.after_offset, ← Position.after_append]
      exact exists_survive_removed ended structural (fun span member => absurd member List.not_mem_nil)
        (fun later ok => ⟨later, ok, survive_all extra later⟩) ok
    · have kept : keptLines extra [line] = [line] := by simp [keptLines, structural]
      rw [kept, removedFrom, if_neg structural]
      exact ⟨tags, ok, survive_all extra tags⟩
  | @next line lines unbroken shape ih =>
    rw [List.flatten_cons] at ok
    rw [removedFrom, ← Position.after_offset, ← Position.after_append]
    by_cases structural : isStructuralLine extra ((line ++ ['\n']).dropRightWhile isLineEnd) = true
    · have removed : keptLines extra ((line ++ ['\n']) :: lines) = keptLines extra lines := by
        simp [keptLines, structural]
      rw [removed, if_pos structural]
      exact exists_survive_removed ended structural (fun span => le_start_of_mem_removedFrom)
        (fun later ok => ih (Or.inl rfl) ok) ok
    · -- the line is read together with what stands in front of it
      have kept : keptLines extra ((line ++ ['\n']) :: lines) =
          (line ++ ['\n']) :: keptLines extra lines := by
        simp [keptLines, structural]
      rw [kept, if_neg structural, List.flatten_cons, ← List.append_assoc]
      rw [← List.append_assoc] at ok
      exact ih (Or.inr ⟨front ++ line, (List.append_assoc _ _ _).symm⟩) ok

/-! ### Stripping -/

/-- **Stripping is exact.** It is idempotent and keeps every other line as it is. Where a text can be
scanned, so can what is left of it: its tags are those of the text that have no byte on a removed line,
with the same texts in the same order. Each of the others lies on such a line as a whole, and is a
statement whose keyword is structural or among the further ones. -/
theorem stripLines_exact (extra : List String) (text : Text) :
    stripLines extra (stripLines extra text) = stripLines extra text ∧
    (stripLines extra text).splitLines = keptLines extra text.splitLines ∧
    ∀ tags, scan text = .ok tags →
      ∃ tags', scan (stripLines extra text) = .ok tags' ∧
        tags'.map Tag.text =
          (tags.filter fun tag => !tag.liesIn (removedLines extra text)).map Tag.text ∧
        ∀ tag ∈ tags, ∀ line ∈ removedLines extra text, line.meets tag.span = true →
          line.encloses tag.span = true ∧ tag.kind = .statement ∧
            ∃ keyword argument, tag.directive? = some (keyword, argument) ∧
              (keyword ∈ structuralKeywords ∨ keyword ∈ extra) := by
  refine ⟨stripLines_stripLines extra text, splitLines_stripLines extra text, fun tags scanned => ?_⟩
  obtain ⟨shape, joined⟩ := Text.lines_splitLines text
  have ok : scanFrom none .start ([] ++ text.splitLines.flatten) = .ok tags := by
    rw [joined]
    exact scanned
  obtain ⟨tags', ok', survive⟩ := exists_survive extra shape (Or.inl rfl) ok
  refine ⟨tags', ok', survive.texts, fun tag member line removed meets => ?_⟩
  obtain ⟨encloses, structural⟩ := survive.inside tag member line removed meets
  exact ⟨encloses, keyword_of_isStructural structural⟩

/-- Tags that go over two lines stay, also a structural one; two lines are removed. -/
theorem stripLines_of_long_tags :
    let text := ("\x7b% block a %\x7d\r\n\x7b\x7b x\n| upper \x7d\x7d \x7b% endblock %\x7d\n" ++
      " \t\x7b% endblock %\x7d\x7b% note %\x7d \n\x7b% include\n'b' %\x7d").toList
    let left := ("\x7b\x7b x\n| upper \x7d\x7d \x7b% endblock %\x7d\n\x7b% include\n'b' %\x7d").toList
    stripLines ["note"] text = left ∧ ∃ tags tags', scan text = .ok tags ∧ scan left = .ok tags' ∧
      tags'.map Tag.text =
        (tags.filter fun tag => !tag.liesIn (removedLines ["note"] text)).map Tag.text ∧
      ∀ tag ∈ tags, ∀ line ∈ removedLines ["note"] text, line.meets tag.span = true →
        line.encloses tag.span = true ∧ tag.kind = .statement ∧
          ∃ keyword argument, tag.directive? = some (keyword, argument) ∧
            (keyword ∈ structuralKeywords ∨ keyword ∈ ["note"]) := by
  intro text left
  have scanned : scan text = .ok ((scan text).toOption.getD []) := by decide +kernel
  have stripped : stripLines ["note"] text = left := by decide +kernel
  obtain ⟨tags', scanned', texts, removed⟩ := (stripLines_exact ["note"] text).2.2 _ scanned
  rw [stripped] at scanned'
  exact ⟨stripped, _, tags', scanned, scanned', texts, removed⟩

end TextTemplate
