/-
**Texts that have only the tags of another text.**

What a rendering scans is put together from parts of its source and from the texts of values. If no
tag begins in the texts of the values, then whatever is scanned has only tags of the source, however
the parts are put together.

* `Quiet`: a text that begins no tag, whatever stands behind it;
* `Drawn`: a text whose tags are drawn from a list, with quiet texts between them;
* `Drawn.slice`: **the part of such a text between two tags is of the kind again**;
* `Drawn.applyEdits_between`: **so is what the text becomes when texts between two tags are replaced**.
-/

import TextTemplate.Proofs.Tags.Slices

namespace TextTemplate

/-! ### Quiet texts -/

/-- **A text in which no tag begins.** -/
abbrev Unopened (text : Text) : Prop := text.IsChain fun c d => opens? c d = none

/-- **A quiet text**: no tag begins in it, nor with its last character, whatever stands behind it.
The last character is no opening brace, or a tag would begin before another opening brace. -/
abbrev Quiet (text : Text) : Prop := Unopened (text ++ ['{'])

theorem Plain.unopened {text : Text} (plain : Plain text) : Unopened text :=
  plain.imp fun _ _ loose => loose.noOpener

/-- Behind a quiet text a tag begins only in the text that follows. -/
theorem Quiet.append_unopened {front rest : Text} (quiet : Quiet front) (unopened : Unopened rest) :
    Unopened (front ++ rest) := by
  obtain ⟨front', -, noBrace⟩ := List.isChain_append.mp quiet
  refine List.isChain_append.mpr ⟨front', unopened, fun c isLast d _ => ?_⟩
  -- a last character that opens a tag opens one before a brace
  rcases opened : opens? c d with - | kind
  · rfl
  · obtain ⟨rfl, -⟩ := opens?_eq_some_iff.mp opened
    exact absurd (noBrace '{' isLast '{' rfl) (by decide)

theorem quiet_nil : Quiet [] := List.isChain_singleton _

/-- Quiet texts one behind the other are quiet. -/
theorem Quiet.append {front rest : Text} (first : Quiet front) (second : Quiet rest) :
    Quiet (front ++ rest) := by
  have whole := first.append_unopened second
  rwa [← List.append_assoc] at whole

theorem quiet_flatten {texts : List Text} (quiet : ∀ text ∈ texts, Quiet text) :
    Quiet texts.flatten := by
  induction texts with
  | nil => exact quiet_nil
  | cons text texts ih =>
    obtain ⟨first, later⟩ := List.forall_mem_cons.mp quiet
    exact first.append (ih later)

/-! ### Texts in which no tag begins -/

/-- Before the first tag the scanner finds no opener, so it passes the text or finds a stray closer. -/
theorem plain_or_stray {front : Text} {next : Char} (unopened : Unopened (front ++ [next]))
    (here : Position) (rest : Text) :
    Plain (front ++ [next]) ∨ ∃ there close,
      scanFrom none here (front ++ next :: rest) = .error ⟨there, .unexpectedClose close⟩ := by
  induction front generalizing here with
  | nil => exact Or.inl (List.isChain_singleton next)
  | cons c front ih =>
    obtain ⟨d, more, shape⟩ : ∃ d more, front ++ [next] = d :: more := by
      cases front with
      | nil => exact ⟨next, [], rfl⟩
      | cons d front => exact ⟨d, front ++ [next], rfl⟩
    obtain ⟨later, shape'⟩ : ∃ later, front ++ next :: rest = d :: later := by
      refine ⟨more ++ rest, ?_⟩
      rw [← List.cons_append, ← shape, List.append_assoc, List.singleton_append]
    rw [List.cons_append, shape] at unopened ⊢
    rw [List.cons_append, shape']
    obtain ⟨noOpener, unopened'⟩ := List.isChain_cons_cons.mp unopened
    rcases closes : closes? c d with - | close
    · have loose : Loose c d := ⟨noOpener, closes⟩
      rw [scanFrom_loose loose, ← shape']
      rw [← shape] at unopened' ⊢
      rcases ih unopened' (here.step c) with plain | stray
      · rw [shape] at plain ⊢
        exact Or.inl (List.isChain_cons_cons.mpr ⟨loose, plain⟩)
      · exact Or.inr stray
    · obtain ⟨rfl, rfl⟩ := closes?_eq_some_iff.mp closes
      have fault := scanFrom_closer_outside close here later
      rw [TagKind.closer_eq] at fault
      exact Or.inr ⟨here, close, fault⟩

/-- A text in which no tag begins is passed, or there is a stray closer in it. -/
theorem plain_or_stray_end {text : Text} (unopened : Unopened text) (here : Position) :
    Plain text ∨ ∃ there close,
      scanFrom none here text = .error ⟨there, .unexpectedClose close⟩ := by
  rcases List.eq_nil_or_concat text with rfl | ⟨front, last, rfl⟩
  · exact Or.inl List.isChain_nil
  · rw [List.concat_eq_append] at unopened ⊢
    exact plain_or_stray unopened here []

/-- Where the scanner succeeds, there is no delimiter before the first tag. -/
theorem plain_of_unopened {front : Text} {next : Char} (unopened : Unopened (front ++ [next]))
    {here : Position} {rest : Text} {tags : List Tag}
    (ok : scanFrom none here (front ++ next :: rest) = .ok tags) : Plain (front ++ [next]) := by
  rcases plain_or_stray unopened here rest with plain | ⟨there, close, stray⟩
  · exact plain
  · rw [stray] at ok
    cases ok

/-- A text in which no tag begins has no delimiter, if it can be scanned. -/
theorem plain_of_unopened_end {text : Text} (unopened : Unopened text) {here : Position}
    {tags : List Tag} (ok : scanFrom none here text = .ok tags) : Plain text := by
  rcases plain_or_stray_end unopened here with plain | ⟨there, close, stray⟩
  · exact plain
  · rw [stray] at ok
    cases ok

/-- **A text in which no tag begins has no tags.** -/
theorem scan_of_unopened {text : Text} (unopened : Unopened text) {tags : List Tag}
    (ok : scan text = .ok tags) : tags = [] := by
  have plain := plain_of_unopened_end unopened ok
  rw [scan, scanFrom_plain_end plain] at ok
  cases ok
  rfl

/-! ### Drawn texts -/

/-- A piece whose tag is one of a list, wherever the tag stands, behind a quiet text. -/
structure Piece.Drawn (tags : List Tag) (piece : Piece) : Prop where
  gap : Quiet piece.gap
  body : Plain (piece.body ++ [piece.kind.closeMark])
  tag : ∃ tag ∈ tags, tag.kind = piece.kind ∧ tag.body = piece.body

/-- **A text that has only tags of a list**, with quiet texts between them; no tag begins with its end
and the text that follows. -/
def Drawn (tags : List Tag) (next text : Text) : Prop :=
  ∃ pieces last, text = textOf pieces ++ last ∧ (∀ piece ∈ pieces, piece.Drawn tags) ∧
    Unopened (last ++ next)

section Append

variable {tags : List Tag} {next front text : Text}

/-- A text in which no tag begins is drawn from any tags. -/
theorem drawn_of_unopened (unopened : Unopened (text ++ next)) : Drawn tags next text :=
  ⟨[], text, rfl, fun _ member => absurd member List.not_mem_nil, unopened⟩

/-- **A drawn text behind another one**, which stands before a brace. -/
theorem Drawn.append (first : Drawn tags ['{'] front) (second : Drawn tags next text) :
    Drawn tags next (front ++ text) := by
  obtain ⟨pieces, last, rfl, drawn, quiet⟩ := first
  obtain ⟨pieces', last', rfl, drawn', behind⟩ := second
  cases pieces' with
  | nil =>
    refine ⟨pieces, last ++ last', by simp, drawn, ?_⟩
    rw [List.append_assoc]
    exact Quiet.append_unopened quiet behind
  | cons piece pieces' =>
    have head := drawn' piece List.mem_cons_self
    -- the end of the first text belongs to the first gap of the second one
    let longer : Piece := { piece with gap := last ++ piece.gap }
    refine ⟨pieces ++ longer :: pieces', last', ?_, fun other member => ?_, behind⟩
    · simp [longer, Piece.text, Piece.tagText]
    · rcases List.mem_append.mp member with before | after
      · exact drawn other before
      · rcases List.mem_cons.mp after with rfl | later
        · exact ⟨Quiet.append quiet head.gap, head.body, head.tag⟩
        · exact drawn' other (List.mem_cons_of_mem _ later)

end Append

/-- A text drawn from tags with the pieces that the scanner finds. -/
structure DrawnCut (tags : List Tag) (next text : Text) (pieces : List Piece) (last : Text) : Prop
    where
  cut : Cut text pieces last
  drawn : ∀ piece ∈ pieces, piece.Drawn tags
  behind : Unopened (last ++ next)

/-- The scanner finds no delimiters in drawn pieces but those of their tags, if it succeeds. -/
theorem sound_of_drawn {tags : List Tag} {pieces : List Piece} {last : Text}
    (drawn : ∀ piece ∈ pieces, piece.Drawn tags) (unopened : Unopened last) {here : Position}
    {found : List Tag} (ok : scanFrom none here (textOf pieces ++ last) = .ok found) :
    (∀ piece ∈ pieces, piece.Sound) ∧ Plain last := by
  induction pieces generalizing here found with
  | nil =>
    exact ⟨fun _ member => absurd member List.not_mem_nil, plain_of_unopened_end unopened ok⟩
  | cons piece pieces ih =>
    have head := drawn piece List.mem_cons_self
    rw [textOf_cons, List.append_assoc] at ok
    have plain : Plain (piece.gap ++ ['{']) := by
      rw [piece.text_eq_gap_cons] at ok
      exact plain_of_unopened head.gap ok
    have sound : piece.Sound := ⟨plain, head.body⟩
    rw [scanFrom_piece sound] at ok
    obtain ⟨later, ok, -⟩ := eq_ok_of_map_eq_ok ok
    obtain ⟨rest, plain'⟩ := ih (fun other member => drawn other (List.mem_cons_of_mem _ member)) ok
    exact ⟨List.forall_mem_cons.mpr ⟨sound, rest⟩, plain'⟩

/-- **The scanner finds the tags of a drawn text**, if it succeeds. -/
theorem Drawn.exists_cut {tags : List Tag} {next text : Text} (drawn : Drawn tags next text)
    {found : List Tag} (scanned : scan text = .ok found) :
    ∃ pieces last, DrawnCut tags next text pieces last ∧
      found = tagsFrom Position.start pieces := by
  obtain ⟨pieces, last, rfl, drawn, behind⟩ := drawn
  obtain ⟨sound, plain⟩ := sound_of_drawn drawn (List.isChain_append.mp behind).1 scanned
  have cut : Cut (textOf pieces ++ last) pieces last := ⟨rfl, sound, plain⟩
  refine ⟨pieces, last, ⟨cut, drawn, behind⟩, ?_⟩
  rw [scan, cut.scanFrom_eq] at scanned
  exact (Except.ok.inj scanned).symm

/-- A piece has a tag among those of the pieces. -/
theorem exists_tag_of_mem (here : Position) {pieces : List Piece} {piece : Piece}
    (member : piece ∈ pieces) :
    ∃ tag ∈ tagsFrom here pieces, tag.kind = piece.kind ∧ tag.body = piece.body := by
  induction pieces generalizing here with
  | nil => exact absurd member List.not_mem_nil
  | cons first pieces ih =>
    rcases List.mem_cons.mp member with rfl | later
    · exact ⟨piece.tag here, List.mem_cons_self, rfl, rfl⟩
    · obtain ⟨tag, found, same⟩ := ih (here.after first.text) later
      exact ⟨tag, List.mem_cons_of_mem _ found, same⟩

/-- **A text that can be scanned is drawn from its own tags.** -/
theorem drawn_of_scan {text : Text} {tags : List Tag} (scanned : scan text = .ok tags) :
    Drawn tags [] text := by
  obtain ⟨pieces, last, cut, rfl⟩ := scan_eq_ok_iff.mp scanned
  refine ⟨pieces, last, cut.joined, fun piece member => ?_, ?_⟩
  · have sound := cut.sound piece member
    exact ⟨sound.gap.unopened, sound.body, exists_tag_of_mem Position.start member⟩
  · rw [List.append_nil]
    exact cut.plain.unopened

/-! ### Parts between two tags -/

namespace DrawnCut

variable {tags : List Tag} {next text last : Text} {pieces : List Piece}

/-- **A part between two tags** is drawn from the same tags, and stands before a brace. -/
theorem drawn_part (cut : DrawnCut tags next text pieces last) {front part rest : Text}
    (joined : text = front ++ (part ++ rest))
    (begins : BeginsAt (tagsFrom Position.start pieces) front.byteSize)
    (ends : EndsAt (tagsFrom Position.start pieces) (front ++ part).byteSize) :
    Drawn tags ['{'] part := by
  obtain ⟨before, middle, piece, after, rfl, rfl, rfl⟩ := exists_part cut.cut.joined joined begins ends
  exact ⟨middle, piece.gap, rfl, fun other inside => cut.drawn other (by simp [inside]),
    (cut.drawn piece (by simp)).gap⟩

/-- The rest of a text from one of its tags on. -/
theorem drawn_rest_of_endsAt (cut : DrawnCut tags next text pieces last) {front rest : Text}
    (joined : text = front ++ rest)
    (ends : EndsAt (tagsFrom Position.start pieces) front.byteSize) : Drawn tags next rest := by
  obtain ⟨before, piece, after, rfl, -, rfl⟩ := exists_of_endsAt cut.cut.joined joined ends
  have head := cut.drawn piece (by simp)
  refine ⟨{ piece with gap := [] } :: after, last, by simp [Piece.text, Piece.tagText], ?_, cut.behind⟩
  exact List.forall_mem_cons.mpr ⟨⟨quiet_nil, head.body, head.tag⟩,
    fun other member => cut.drawn other (by simp [member])⟩

/-- A part that ends with a tag, from the start of the text or one of its tags on, is drawn from the
same tags. -/
theorem drawn_part_of_endsAt (cut : DrawnCut tags next text pieces last) {front part rest : Text}
    (joined : text = front ++ (part ++ rest))
    (starts : front = [] ∨ EndsAt (tagsFrom Position.start pieces) front.byteSize)
    (stops : BeginsAt (tagsFrom Position.start pieces) (front ++ part).byteSize) :
    Drawn tags ['{'] part := by
  have joined' : text = front ++ part ++ rest := by rw [joined, List.append_assoc]
  obtain ⟨before, after, rfl, between, -⟩ := exists_of_beginsAt cut.cut.joined joined' stops
  rcases starts with rfl | ends
  · exact ⟨before, [], by rw [List.append_nil, ← between]; rfl,
      fun piece member => cut.drawn piece (List.mem_append_left _ member), quiet_nil⟩
  · obtain ⟨before', piece, after', split, rfl, -⟩ := exists_of_endsAt cut.cut.joined joined ends
    have head := cut.drawn piece (by rw [split]; simp)
    rcases List.append_eq_append_iff.mp split with ⟨middle, rfl, -⟩ | ⟨middle, rfl, overlap⟩
    · -- the part would end before it begins, so it is empty
      have size := congrArg Text.byteSize between
      simp only [textOf_append, Text.byteSize_append] at size
      obtain rfl : part = [] := Text.byteSize_eq_zero_iff.mp (by omega)
      exact drawn_of_unopened quiet_nil
    · cases middle with
      | nil =>
        have size := congrArg Text.byteSize between
        simp only [List.append_nil, Text.byteSize_append] at size
        obtain rfl : part = [] := Text.byteSize_eq_zero_iff.mp (by omega)
        exact drawn_of_unopened quiet_nil
      | cons other middle =>
        obtain ⟨rfl, rfl⟩ := List.cons.inj overlap
        have inside : part = piece.tagText ++ textOf middle := by
          simp only [textOf_append, textOf_cons, Piece.text, List.append_assoc] at between
          exact List.append_cancel_left (List.append_cancel_left between)
        refine ⟨{ piece with gap := [] } :: middle, [], ?_, ?_, quiet_nil⟩
        · rw [inside]
          simp [Piece.text, Piece.tagText]
        · exact List.forall_mem_cons.mpr ⟨⟨quiet_nil, head.body, head.tag⟩,
            fun other member => cut.drawn other (by simp [member])⟩

end DrawnCut

theorem Drawn.mono {tags tags' : List Tag} {next text : Text} (drawn : Drawn tags next text)
    (among : tags ⊆ tags') : Drawn tags' next text := by
  obtain ⟨pieces, last, joined, drawn, behind⟩ := drawn
  refine ⟨pieces, last, joined, fun piece member => ?_, behind⟩
  have one := drawn piece member
  obtain ⟨tag, found, same⟩ := one.tag
  exact ⟨one.gap, one.body, tag, among found, same⟩

section Parts

variable {tags found : List Tag} {next text : Text} (drawn : Drawn tags next text)
  (scanned : scan text = .ok found)
include drawn scanned

/-- The tags found in a drawn text are those that it is drawn from, wherever they stand. -/
theorem Drawn.exists_tag {tag : Tag} (member : tag ∈ found) :
    ∃ tag' ∈ tags, tag'.kind = tag.kind ∧ tag'.body = tag.body := by
  obtain ⟨pieces, last, cut, rfl⟩ := drawn.exists_cut scanned
  obtain ⟨before, piece, after, rfl, rfl⟩ := exists_piece_of_mem_tagsFrom member
  exact (cut.drawn piece (by simp)).tag

/-- **The part of a drawn text between two of its tags** is drawn from the same tags. -/
theorem Drawn.slice {start stop : Nat} (begins : BeginsAt found start) (ends : EndsAt found stop) :
    Drawn tags ['{'] (text.slice start stop) := by
  obtain ⟨pieces, last, cut, rfl⟩ := drawn.exists_cut scanned
  rw [Text.slice]
  rcases part : text.slice? start stop with _ | middle
  · exact drawn_of_unopened quiet_nil
  · obtain ⟨front, rest, joined, rfl, rfl⟩ := Text.slice?_eq_some_iff.mp part
    rw [List.append_assoc] at joined
    exact cut.drawn_part joined begins ends

/-- **A drawn text in which the text between tags is replaced**: what stands behind one tag and before
another gives way to drawn texts. -/
theorem Drawn.splices_between {edits : List Edit} {result : Text}
    (splices : Splices 0 text edits result)
    (placed : ∀ edit ∈ edits, BeginsAt found edit.span.start ∧ EndsAt found edit.span.stop ∧
      Drawn tags ['{'] edit.replacement) : Drawn tags next result := by
  obtain ⟨pieces, last, cut, rfl⟩ := drawn.exists_cut scanned
  suffices general : ∀ {offset rest result} {edits : List Edit},
      Splices offset rest edits result → ∀ front, text = front ++ rest → front.byteSize = offset →
        (front = [] ∨ EndsAt (tagsFrom Position.start pieces) offset) →
          (∀ edit ∈ edits, BeginsAt (tagsFrom Position.start pieces) edit.span.start ∧
            EndsAt (tagsFrom Position.start pieces) edit.span.stop ∧
              Drawn tags ['{'] edit.replacement) → Drawn tags next result from
    general splices [] rfl rfl (Or.inl rfl) placed
  intro offset rest result edits splices
  induction splices with
  | keep =>
    rintro front joined rfl (rfl | ends) -
    · rw [List.nil_append] at joined
      rwa [← joined]
    · exact cut.drawn_rest_of_endsAt joined ends
  | @replace offset rest result edits gap old new later splices ih =>
    rintro front joined rfl starts placed
    obtain ⟨stops, ends, new'⟩ := placed _ List.mem_cons_self
    have rest' := ih (front ++ (gap ++ old)) (by rw [joined]; simp) (Text.byteSize_append _ _)
      (Or.inr ends) fun edit member => placed edit (List.mem_cons_of_mem _ member)
    have gap' : Drawn tags ['{'] gap :=
      cut.drawn_part_of_endsAt (by rw [joined, List.append_assoc]) starts
        (by rw [Text.byteSize_append]; exact stops)
    exact (gap'.append new').append rest'

/-- A batch of edits replaces the text between tags of a drawn text by drawn texts. -/
theorem Drawn.applyEdits_between {edits : List Edit} (sound : SoundSpans text (edits.map Edit.span))
    (placed : ∀ edit ∈ edits, BeginsAt found edit.span.start ∧ EndsAt found edit.span.stop ∧
      Drawn tags ['{'] edit.replacement) : Drawn tags next (TextTemplate.applyEdits text edits) := by
  obtain ⟨ordered, result, same, splices⟩ := exists_splices sound
  rw [applyEdits_eq_of_splices splices same]
  exact drawn.splices_between scanned splices fun edit member => placed edit (same.mem_iff.mpr member)

end Parts

end TextTemplate
