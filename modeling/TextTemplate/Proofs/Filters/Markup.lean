/-
**Removing the tags of markup.**

A tag of markup begins with `<` and ends with the next `>`. Removing one joins what stands on its two
sides, but never to another tag: what stands in front of the leftmost tag holds no `<` at all, as that
would begin a tag further left.

* `IsMarkupTag`, `Tagless`: tags, and texts in which no `<` is followed by a `>`;
* `tagless_iff`: these are the texts without tags;
* `tagless_withReplaced`: **what is left when the tags are removed is without tags**;
* `stripTags_stripTags`: so there is nothing to remove from it;
* `striptags_leaves_no_tag`: **what the filter `striptags` gives.**
-/

import Mathlib.Data.List.Basic
import TextTemplate.Filter.Builtin
import TextTemplate.Proofs.Matches
import TextTemplate.Proofs.Separators

namespace TextTemplate

open TextTemplate.Filter

/-! ### Tags -/

/-- **A tag of markup**: it begins with `<` and ends with the next `>`. -/
def IsMarkupTag (tag : Text) : Prop :=
  ∃ inside : Text, '>' ∉ inside ∧ tag = '<' :: (inside ++ ['>'])

/-- **A text without tags**: no `<` is followed by a `>`, wherever behind it. -/
def Tagless (text : Text) : Prop :=
  ∀ before behind, text = before ++ '<' :: behind → '>' ∉ behind

theorem IsMarkupTag.ne_nil {tag : Text} (isTag : IsMarkupTag tag) : tag ≠ [] := by
  obtain ⟨inside, -, rfl⟩ := isTag
  exact List.cons_ne_nil _ _

/-- **The matcher takes the tag at the front of a text**, if there is one. -/
theorem tagMatcher_eq_some_iff (text tag rest : Text) :
    tagMatcher text = some (tag, rest) ↔ text = tag ++ rest ∧ IsMarkupTag tag := by
  constructor
  · intro found
    unfold tagMatcher at found
    split at found
    · rename_i text
      split at found
      · rename_i close rest' behind
        obtain ⟨rfl, rfl⟩ := Prod.mk.inj (Option.some.inj found)
        obtain ⟨rfl, whole, clear⟩ := Text.eq_of_dropWhile_ne behind
        refine ⟨?_, _, clear, rfl⟩
        simpa using whole
      · cases found
    · cases found
  · rintro ⟨rfl, inside, clear, rfl⟩
    have joined : '<' :: (inside ++ ['>']) ++ rest = '<' :: (inside ++ '>' :: rest) := by simp
    rw [joined]
    simp [tagMatcher, Text.takeWhile_ne_append clear, Text.dropWhile_ne_append clear]

/-- The matcher finds the tags of a text. -/
theorem finds_tagMatcher : Text.Matcher.Finds tagMatcher IsMarkupTag :=
  .of_iff (fun _ isTag => isTag.ne_nil) tagMatcher_eq_some_iff

/-- A `<` that is followed by a `>` begins a tag. -/
theorem exists_markupTag {behind : Text} (closed : '>' ∈ behind) :
    ∃ tag rest, '<' :: behind = tag ++ rest ∧ IsMarkupTag tag := by
  obtain ⟨inside, rest, rfl, clear⟩ := List.eq_append_cons_of_mem closed
  exact ⟨'<' :: (inside ++ ['>']), rest, by simp, inside, clear, rfl⟩

/-- **The texts without tags are those in which no `<` is followed by a `>`.** -/
theorem tagless_iff {text : Text} :
    Tagless text ↔ ∀ before tag rest, text = before ++ (tag ++ rest) → ¬ IsMarkupTag tag := by
  constructor
  · rintro tagless before tag rest joined ⟨inside, -, rfl⟩
    refine tagless before (inside ++ ['>'] ++ rest) (by rw [joined]; simp) ?_
    simp
  · intro free before behind joined closed
    obtain ⟨tag, rest, begun, isTag⟩ := exists_markupTag closed
    exact free before tag rest (by rw [joined, begun]) isTag

/-! ### Removing them -/

/-- In front of the leftmost tag no `<` stands. -/
theorem notMem_before_tag {before tag rest : Text} (foremost : Text.Foremost IsMarkupTag before tag rest) :
    '<' ∉ before := by
  intro opened
  obtain ⟨front, behind, rfl⟩ := List.append_of_mem opened
  obtain ⟨inside, -, shape⟩ := foremost.isPart
  have closed : '>' ∈ behind ++ (tag ++ rest) := by rw [shape]; simp
  obtain ⟨tag', rest', begun, isTag⟩ := exists_markupTag closed
  have early := foremost.leftmost front tag' rest' (by rw [← begun]; simp) isTag
  rw [List.length_append, List.length_cons] at early
  omega

theorem Tagless.append {before text : Text} (clear : '<' ∉ before) (tagless : Tagless text) :
    Tagless (before ++ text) := by
  intro front behind joined
  rcases List.append_eq_append_iff.mp joined with ⟨between, rfl, same⟩ | ⟨between, rfl, same⟩
  · exact tagless between behind same
  · cases between with
    | nil => exact tagless [] behind same.symm
    | cons c between =>
      obtain ⟨rfl, -⟩ := List.cons.inj same
      exact absurd (List.mem_append_right _ (List.mem_cons_self ..)) clear

/-- **What is left when the tags are removed is without tags.** -/
theorem tagless_withReplaced {text last : Text} {found : List (Text × Text)}
    (tags : Text.MatchesIn IsMarkupTag text found last) :
    Tagless (Text.withReplaced (fun _ => []) found last) := by
  induction tags with
  | none free => exact tagless_iff.mpr free
  | next foremost _ ih =>
    rw [Text.withReplaced_cons, List.nil_append]
    exact ih.append (notMem_before_tag foremost)

/-- Characters other than the two do not matter. -/
theorem tagless_filter_iff {p : Char → Bool} (opener : p '<' = true) (closer : p '>' = true) {text : Text} :
    Tagless (text.filter p) ↔ Tagless text := by
  have sublist {text : Text} : Tagless text ↔ ¬ ['<', '>'].Sublist text := by
    refine ⟨fun tagless both => ?_, fun apart before behind joined closed => apart ?_⟩
    · obtain ⟨before, behind, rfl, opened, closed⟩ := List.cons_sublist_iff.mp both
      obtain ⟨front, between, rfl⟩ := List.append_of_mem opened
      refine tagless front (between ++ behind) (by simp) ?_
      exact List.mem_append_right _ (List.singleton_sublist.mp closed)
    · rw [joined]
      exact ((List.singleton_sublist.mpr closed).cons_cons '<').trans (List.sublist_append_right _ _)
  rw [sublist, sublist, not_iff_not]
  refine ⟨fun both => both.trans List.filter_sublist, fun both => ?_⟩
  have kept := both.filter p
  rwa [List.filter_cons_of_pos opener, List.filter_cons_of_pos closer] at kept

/-- **Joining the words of a text makes no tags**, as only blanks come and go. -/
theorem tagless_words_iff {text : Text} :
    Tagless ([' '].intercalate text.words) ↔ Tagless text := by
  have visible (text : Text) : Tagless (text.filter (!Text.isBlank ·)) ↔ Tagless text :=
    tagless_filter_iff (by decide) (by decide)
  rw [← visible, Text.filter_intercalate (by decide), Text.words, Text.flatten_splitRuns,
    List.reverse_nil, List.nil_append, visible, visible]

/-- The words of the joined words of a text are those words. -/
theorem words_joined (text : Text) : Text.words ([' '].intercalate text.words) = text.words :=
  Text.splitRuns_intercalate (by decide) (Text.mem_splitRuns fun _ member => absurd member List.not_mem_nil)

section Stripping

variable {text last : Text} {found : List (Text × Text)}

/-- What is left of a text is what stands between its tags. -/
theorem stripTags_eq (tags : Text.MatchesIn IsMarkupTag text found last) (keepBlanks : Bool) :
    stripTags keepBlanks text =
      let stripped := Text.withReplaced (fun _ => []) found last
      if keepBlanks then stripped else [' '].intercalate stripped.words := by
  rw [stripTags, finds_tagMatcher.replaceMatches_eq tags]

theorem tagless_stripTags (keepBlanks : Bool) (text : Text) : Tagless (stripTags keepBlanks text) := by
  obtain ⟨found, last, tags⟩ := finds_tagMatcher.exists_matchesIn text
  rw [stripTags_eq tags]
  cases keepBlanks with
  | true => exact tagless_withReplaced tags
  | false => exact tagless_words_iff.mpr (tagless_withReplaced tags)

/-- **What has been stripped of its tags stays as it is**: there are none left, and its words are joined
already. -/
theorem stripTags_stripTags (keepBlanks : Bool) (text : Text) :
    stripTags keepBlanks (stripTags keepBlanks text) = stripTags keepBlanks text := by
  have none := Text.MatchesIn.none (tagless_iff.mp (tagless_stripTags keepBlanks text))
  rw [stripTags_eq none keepBlanks, Text.withReplaced_nil]
  cases keepBlanks with
  | true => rfl
  | false =>
    obtain ⟨found, last, tags⟩ := finds_tagMatcher.exists_matchesIn text
    rw [stripTags_eq tags]
    exact congrArg [' '].intercalate (words_joined _)

-- removing the tag in the middle joins no other one
example : stripTags true ['<', '<', 'b', '>', 'i', '>'] = ['i', '>'] := by decide

end Stripping

/-- **What `striptags` gives**, for every value and whether blanks are to be kept or not: the text without
its tags, with its words joined by single spaces unless blanks are kept. In this text no `<` is followed by
a `>`, and the filter leaves it as it is. -/
theorem striptags_leaves_no_tag (value : Value) (args : List Value) :
    ∃ (found : List (Text × Text)) (last output : Text),
      Text.MatchesIn IsMarkupTag value.text found last ∧ Text.withReplaced id found last = value.text ∧
      applyBuiltin? "striptags" value args = some (.ok (.ofText output)) ∧
      (let stripped := Text.withReplaced (fun _ => []) found last
       output = if flagArg args 0 then stripped else [' '].intercalate stripped.words) ∧
      Tagless output ∧
      applyBuiltin? "striptags" (.ofText output) args = some (.ok (.ofText output)) := by
  obtain ⟨found, last, tags⟩ := finds_tagMatcher.exists_matchesIn value.text
  have applied (value : Value) : applyBuiltin? "striptags" value args =
      some (.ok (.ofText (stripTags (flagArg args 0) value.text))) := rfl
  have again (output : Text) : Value.text (.ofText output) = output := String.toList_ofList
  refine ⟨found, last, stripTags (flagArg args 0) value.text, tags, tags.joined, applied value,
    stripTags_eq tags _, tagless_stripTags _ _, ?_⟩
  rw [applied, again, stripTags_stripTags]

end TextTemplate
