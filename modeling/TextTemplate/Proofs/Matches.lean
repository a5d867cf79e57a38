/-
**Leftmost matches.**

A search for parts of some kind takes the part that begins leftmost, of those that begin there the
longest one, and goes on behind it. What it takes is said here by the kind alone, without the matcher
that finds the parts and without the loop that goes through the text.

* `Consumes.replaceLoop_eq`: the bounds of a replacement are never reached;
* `Foremost`, `MatchesIn`: the part that is taken first, and all parts that are taken;
* `Matcher.Finds`: a matcher finds the parts of a kind;
* `Finds.exists_matchesIn`, `Finds.replaceMatches_eq`: **a replacement has other texts in the place of all
  these parts**, of which every text has some or none, and leaves everything else as it is.
-/

import Mathlib.Data.List.Basic
import TextTemplate.Text.Search

namespace TextTemplate.Text

theorem dropPrefix?_eq_some_iff {front text rest : Text} :
    dropPrefix? front text = some rest ↔ text = front ++ rest := by
  rw [dropPrefix?, List.isPrefixOf?_eq_some_iff_append_eq, eq_comm]

/-! ### Replacing matches -/

namespace Matcher

/-- **A matcher consumes what it matches**: it takes at least one character. -/
def Consumes (find : Matcher) : Prop :=
  ∀ text part rest, find text = some (part, rest) → rest.length < text.length

namespace Consumes

variable {find : Matcher} {replacement : Text → Text} {text before part rest : Text}
  (consumes : find.Consumes)

include consumes

/-- **The bounds of a replacement are never reached**: each step takes at least one character. -/
theorem replaceLoop_eq {steps limit : Nat} (enough : text.length ≤ steps) (enough' : text.length ≤ limit)
    (done : Text) :
    replaceLoop find replacement steps limit done text =
      done.reverse ++ text.replaceMatches find replacement := by
  induction length : text.length using Nat.strongRecOn
    generalizing text steps limit done with
  | _ bound ih =>
    subst length
    cases text with
    | nil => cases steps <;> simp [replaceMatches, replaceLoop]
    | cons c text =>
      rw [List.length_cons] at enough enough'
      obtain ⟨steps, rfl⟩ : ∃ fewer, steps = fewer + 1 := ⟨steps - 1, by omega⟩
      obtain ⟨limit, rfl⟩ : ∃ fewer, limit = fewer + 1 := ⟨limit - 1, by omega⟩
      rw [replaceMatches, List.length_cons, replaceLoop, replaceLoop]
      cases matched : find (c :: text) with
      | none =>
        have shorter : text.length < (c :: text).length := by simp
        simp only
        rw [ih _ shorter (by omega) (by omega) (c :: done) rfl,
          ih _ shorter (Nat.le_refl _) (by omega) [c] rfl]
        simp
      | some taken =>
        obtain ⟨part, rest⟩ := taken
        have shorter := consumes _ _ _ matched
        have shorter' : rest.length ≤ text.length := Nat.le_of_lt_succ shorter
        simp only
        rw [ih _ shorter (by omega) (by omega) _ rfl, ih _ shorter shorter' shorter' _ rfl]
        simp

/-- A character where nothing matches is kept. -/
theorem replaceMatches_cons {c : Char} (unmatched : find (c :: text) = none) :
    replaceMatches find replacement (c :: text) = c :: text.replaceMatches find replacement := by
  rw [replaceMatches, List.length_cons, replaceLoop, unmatched]
  exact consumes.replaceLoop_eq (Nat.le_refl _) (Nat.le_succ _) [c]

/-- A match gives way to its replacement. -/
theorem replaceMatches_of_match (matched : find text = some (part, rest)) :
    text.replaceMatches find replacement = replacement part ++ rest.replaceMatches find replacement := by
  have shorter := consumes _ _ _ matched
  cases text with
  | nil => cases shorter
  | cons c text =>
    have shorter' : rest.length ≤ text.length := Nat.le_of_lt_succ shorter
    rw [replaceMatches, List.length_cons, replaceLoop, matched]
    simp only
    rw [consumes.replaceLoop_eq shorter' shorter']
    simp

/-- What is passed without a match is kept. -/
theorem replaceMatches_passed (unmatched : ∀ front behind, before = front ++ behind → behind ≠ [] →
    find (behind ++ rest) = none) :
    replaceMatches find replacement (before ++ rest) =
      before ++ rest.replaceMatches find replacement := by
  induction before with
  | nil => rfl
  | cons c before ih =>
    have here : find (c :: (before ++ rest)) = none := unmatched [] _ rfl (List.cons_ne_nil _ _)
    rw [List.cons_append, consumes.replaceMatches_cons here, ih fun front behind inside =>
      unmatched (c :: front) behind (by rw [inside, List.cons_append])]
    rfl

end Consumes

end Matcher

/-! ### The parts that a search takes -/

/-- **The part of a kind that a search takes first**: none begins further left, and none that begins
there is longer. -/
structure Foremost (IsPart : Text → Prop) (before part rest : Text) : Prop where
  isPart : IsPart part
  leftmost : ∀ before' part' rest', before ++ (part ++ rest) = before' ++ (part' ++ rest') →
    IsPart part' → before.length ≤ before'.length
  longest : ∀ part' rest', part ++ rest = part' ++ rest' → IsPart part' → part'.length ≤ part.length

/-- **The parts of a kind that a search takes in a text**, each with what stands between the one before
and it, and what stands behind the last one. -/
inductive MatchesIn (IsPart : Text → Prop) : Text → List (Text × Text) → Text → Prop
  | none {text : Text} :
    (∀ before part rest, text = before ++ (part ++ rest) → ¬ IsPart part) →
      MatchesIn IsPart text [] text
  | next {before part rest last : Text} {found : List (Text × Text)} :
    Foremost IsPart before part rest → MatchesIn IsPart rest found last →
      MatchesIn IsPart (before ++ (part ++ rest)) ((before, part) :: found) last

/-- A text with its parts replaced, given what stands in front of each and behind the last one. -/
def withReplaced (replacement : Text → Text) (found : List (Text × Text)) (last : Text) : Text :=
  found.flatMap (fun (before, part) => before ++ replacement part) ++ last

@[simp] theorem withReplaced_nil (replacement : Text → Text) (last : Text) :
    withReplaced replacement [] last = last := rfl

@[simp] theorem withReplaced_cons (replacement : Text → Text) (before part : Text)
    (found : List (Text × Text)) (last : Text) :
    withReplaced replacement ((before, part) :: found) last =
      before ++ (replacement part ++ withReplaced replacement found last) := by
  simp [withReplaced]

section Kinds

variable {IsPart : Text → Prop} {text last : Text} {found : List (Text × Text)}

/-- The parts and what stands between them are the text. -/
theorem MatchesIn.joined (parts : MatchesIn IsPart text found last) :
    withReplaced id found last = text := by
  induction parts with
  | none => rfl
  | next _ _ ih => rw [withReplaced_cons, ih, id]

/-- Each part that is taken is one of the kind. -/
theorem MatchesIn.isPart (parts : MatchesIn IsPart text found last) :
    ∀ taken ∈ found, IsPart taken.2 := by
  induction parts with
  | none => exact fun taken member => absurd member List.not_mem_nil
  | next foremost _ ih =>
    intro taken member
    rcases List.mem_cons.mp member with rfl | later
    · exact foremost.isPart
    · exact ih taken later

/-- No part stands in the empty text. -/
theorem not_isPart_of_nil (nonempty : ∀ part, IsPart part → part ≠ []) :
    ∀ before part rest, [] = before ++ (part ++ rest) → ¬ IsPart part := by
  intro before part rest joined isPart
  exact nonempty part isPart (List.append_eq_nil_iff.mp (List.append_eq_nil_iff.mp joined.symm).2).1

/-- A text that is of the kind is the only part that is taken of it. -/
theorem MatchesIn.whole (nonempty : ∀ part, IsPart part → part ≠ []) (isPart : IsPart text) :
    MatchesIn IsPart text [([], text)] [] := by
  have foremost : Foremost IsPart [] text [] := by
    refine ⟨isPart, fun _ _ _ _ _ => Nat.zero_le _, fun part' rest' joined _ => ?_⟩
    have long := congrArg List.length joined
    rw [List.append_nil, List.length_append] at long
    omega
  have parts := MatchesIn.next foremost (.none (not_isPart_of_nil nonempty))
  rwa [List.nil_append, List.append_nil] at parts

end Kinds

/-! ### Finding parts of a kind -/

namespace Matcher

/-- **A matcher finds the parts of a kind**: at the front of a text it takes the longest one, and fails
only where there is none. -/
structure Finds (find : Matcher) (IsPart : Text → Prop) : Prop where
  ne_nil : ∀ part, IsPart part → part ≠ []
  taken : ∀ text part rest, find text = some (part, rest) → text = part ++ rest ∧ IsPart part ∧
    ∀ part' rest', text = part' ++ rest' → IsPart part' → part'.length ≤ part.length
  missing : ∀ part rest, IsPart part → find (part ++ rest) ≠ none

namespace Finds

variable {find : Matcher} {IsPart : Text → Prop} {text before part rest : Text}

/-- A matcher that is told by the parts that it takes finds them. -/
theorem of_iff (nonempty : ∀ part, IsPart part → part ≠ [])
    (iff : ∀ text part rest, find text = some (part, rest) ↔ text = part ++ rest ∧ IsPart part) :
    find.Finds IsPart where
  ne_nil := nonempty
  taken := by
    intro text part rest found
    obtain ⟨joined, isPart⟩ := (iff text part rest).mp found
    refine ⟨joined, isPart, fun part' rest' joined' isPart' => ?_⟩
    have same := found.symm.trans ((iff text part' rest').mpr ⟨joined', isPart'⟩)
    obtain ⟨rfl, -⟩ := Prod.mk.inj (Option.some.inj same)
    exact Nat.le_refl _
  missing := by
    intro part rest isPart unmatched
    rw [(iff (part ++ rest) part rest).mpr ⟨rfl, isPart⟩] at unmatched
    cases unmatched

variable (finds : find.Finds IsPart)

include finds

/-- Where nothing is taken no part begins. -/
theorem not_isPart (unmatched : find text = none) (joined : text = part ++ rest) : ¬ IsPart part :=
  fun isPart => finds.missing part rest isPart (joined ▸ unmatched)

theorem consumes : find.Consumes := by
  intro text part rest matched
  obtain ⟨rfl, isPart, -⟩ := finds.taken _ _ _ matched
  have filled := List.length_pos_iff.mpr (finds.ne_nil part isPart)
  rw [List.length_append]
  omega

/-- The part that is taken first is found at its place. -/
theorem found (foremost : Foremost IsPart before part rest) :
    find (part ++ rest) = some (part, rest) := by
  cases matched : find (part ++ rest) with
  | none => exact absurd foremost.isPart (finds.not_isPart matched rfl)
  | some taken =>
    obtain ⟨part', rest'⟩ := taken
    obtain ⟨joined, isPart', longest⟩ := finds.taken _ _ _ matched
    have same : part'.length = part.length :=
      Nat.le_antisymm (foremost.longest part' rest' joined isPart') (longest part rest rfl foremost.isPart)
    obtain ⟨rfl, rfl⟩ := List.append_inj joined same.symm
    rfl

/-- Nothing is taken where no part begins. -/
theorem eq_none (free : ∀ part rest, text = part ++ rest → ¬ IsPart part) : find text = none := by
  rw [Option.eq_none_iff_forall_ne_some]
  rintro ⟨part, rest⟩ matched
  obtain ⟨joined, isPart, -⟩ := finds.taken _ _ _ matched
  exact free part rest joined isPart

/-- In front of the part that is taken first nothing is taken. -/
theorem eq_none_before (foremost : Foremost IsPart before part rest) {front behind : Text}
    (inside : before = front ++ behind) (filled : behind ≠ []) :
    find (behind ++ (part ++ rest)) = none := by
  refine finds.eq_none fun part' rest' joined isPart' => ?_
  have early := foremost.leftmost front part' rest' (by rw [inside, List.append_assoc, joined]) isPart'
  have long := List.length_pos_iff.mpr filled
  rw [inside, List.length_append] at early
  omega

/-- **Every text has a part that is taken first**, or none at all. -/
theorem exists_foremost (text : Text) :
    (∀ before part rest, text = before ++ (part ++ rest) → ¬ IsPart part) ∨
      ∃ before part rest, text = before ++ (part ++ rest) ∧ Foremost IsPart before part rest := by
  induction text with
  | nil => exact .inl (not_isPart_of_nil finds.ne_nil)
  | cons c text ih =>
    cases matched : find (c :: text) with
    | some taken =>
      obtain ⟨part, rest⟩ := taken
      obtain ⟨joined, isPart, longest⟩ := finds.taken _ _ _ matched
      refine .inr ⟨[], part, rest, joined, isPart, fun _ _ _ _ _ => Nat.zero_le _, ?_⟩
      exact fun part' rest' joined' => longest part' rest' (joined.trans joined')
    | none =>
      -- a part of the whole text is one of the text behind the first character
      have later : ∀ {before part rest}, c :: text = before ++ (part ++ rest) → IsPart part →
          ∃ before', before = c :: before' ∧ text = before' ++ (part ++ rest) := by
        intro before part rest joined isPart
        rcases before with _ | ⟨d, before⟩
        · exact absurd isPart (finds.not_isPart matched joined)
        · obtain ⟨rfl, joined'⟩ := List.cons.inj joined
          exact ⟨before, rfl, joined'⟩
      rcases ih with free | ⟨before, part, rest, rfl, foremost⟩
      · refine .inl fun before part rest joined isPart => ?_
        obtain ⟨before', -, joined'⟩ := later joined isPart
        exact free before' part rest joined' isPart
      · refine .inr ⟨c :: before, part, rest, rfl, foremost.isPart, ?_, foremost.longest⟩
        intro before' part' rest' joined isPart'
        obtain ⟨before'', rfl, joined'⟩ := later joined isPart'
        exact Nat.succ_le_succ (foremost.leftmost before'' part' rest' joined' isPart')

/-- **Every text has parts that a search takes**, or none. -/
theorem exists_matchesIn (text : Text) : ∃ found last, MatchesIn IsPart text found last := by
  induction length : text.length using Nat.strongRecOn generalizing text with
  | _ bound ih =>
    subst length
    rcases finds.exists_foremost text with free | ⟨before, part, rest, rfl, foremost⟩
    · exact ⟨[], text, .none free⟩
    · have filled := List.length_pos_iff.mpr (finds.ne_nil part foremost.isPart)
      have shorter : rest.length < (before ++ (part ++ rest)).length := by
        simp only [List.length_append]
        omega
      obtain ⟨found, last, parts⟩ := ih rest.length shorter rest rfl
      exact ⟨(before, part) :: found, last, .next foremost parts⟩

/-- **A replacement has other texts in the place of all the parts that a search takes**, and leaves
everything else as it is. -/
theorem replaceMatches_eq {replacement : Text → Text} {last : Text} {found : List (Text × Text)}
    (parts : MatchesIn IsPart text found last) :
    text.replaceMatches find replacement = withReplaced replacement found last := by
  induction parts with
  | @none text free =>
    have whole : replaceMatches find replacement (text ++ []) = text ++ [] := by
      refine finds.consumes.replaceMatches_passed fun front behind inside _ => finds.eq_none ?_
      intro part rest joined
      rw [List.append_nil] at joined
      exact free front part rest (by rw [inside, joined])
    rwa [List.append_nil] at whole
  | next foremost _ ih =>
    rw [finds.consumes.replaceMatches_passed fun front behind inside filled =>
      finds.eq_none_before foremost inside filled]
    rw [finds.consumes.replaceMatches_of_match (finds.found foremost), ih, withReplaced_cons]

end Finds

end Matcher

end TextTemplate.Text
