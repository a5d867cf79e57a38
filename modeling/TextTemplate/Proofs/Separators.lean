/-
**Parts between separators.**

A text is divided at each occurrence of a character, and its parts are joined again with that character
between them. It is also divided into the runs between its gaps, however long these are.

* `Text.splitOn_append`: a separator divides a text into two, with the parts of each;
* `Text.intercalate_splitOn`, `Text.splitOn_intercalate`: **dividing and joining are inverse to each
  other**;
* `Text.flatten_splitRuns`, `Text.splitRuns_intercalate`: a text without its gaps, and **runs with a gap
  between them are runs again**.
-/

import Mathlib.Data.List.Basic
import Mathlib.Data.List.Induction
import Mathlib.Data.List.TakeWhile
import TextTemplate.Text.Blank
import TextTemplate.Text.Search

namespace TextTemplate

namespace Text

variable {separator : Char} {text : Text}

theorem splitOnLoop_eq (separator : Char) (part : Text) (parts : List Text) (text : Text) :
    splitOnLoop separator part parts text = parts.reverse ++ splitOnLoop separator part [] text := by
  induction text generalizing part parts with
  | nil => simp [splitOnLoop]
  | cons c text ih =>
    unfold splitOnLoop
    split
    · rw [ih [] (part.reverse :: parts), ih [] [part.reverse], List.reverse_cons, List.append_assoc]
      rfl
    · exact ih (c :: part) parts

/-- A separator divides a text into two, with the parts of each. -/
theorem splitOn_append (front rest : Text) :
    splitOn separator (front ++ separator :: rest) = splitOn separator front ++ splitOn separator rest := by
  suffices ∀ part, splitOnLoop separator part [] (front ++ separator :: rest) =
      splitOnLoop separator part [] front ++ splitOn separator rest from this []
  intro part
  induction front generalizing part with
  | nil =>
    rw [List.nil_append]
    unfold splitOnLoop
    rw [if_pos rfl, splitOnLoop_eq]
    rfl
  | cons c front ih =>
    rw [List.cons_append]
    unfold splitOnLoop
    split
    · rw [splitOnLoop_eq, ih [], splitOnLoop_eq separator [] [part.reverse] front, List.append_assoc]
    · exact ih (c :: part)

theorem splitOn_of_notMem (whole : separator ∉ text) : splitOn separator text = [text] := by
  suffices ∀ part, splitOnLoop separator part [] text = [part.reverse ++ text] from this []
  intro part
  induction text generalizing part with
  | nil => simp [splitOnLoop]
  | cons c text ih =>
    have other : c ≠ separator := fun same => whole (same ▸ List.mem_cons_self ..)
    rw [splitOnLoop, if_neg other, ih fun member => whole (List.mem_cons_of_mem c member)]
    simp

theorem notMem_of_mem_splitOn {part : Text} (member : part ∈ splitOn separator text) :
    separator ∉ part := by
  suffices ∀ before, separator ∉ before → ∀ part ∈ splitOnLoop separator before [] text,
      separator ∉ part from this [] List.not_mem_nil part member
  clear member part
  intro before clear part member
  induction text generalizing before with
  | nil =>
    have same : part = before.reverse := by simpa [splitOnLoop] using member
    rw [same, List.mem_reverse]
    exact clear
  | cons c text ih =>
    unfold splitOnLoop at member
    split at member
    · rw [splitOnLoop_eq] at member
      rcases List.mem_append.mp member with first | later
      · have same : part = before.reverse := by simpa using first
        rw [same, List.mem_reverse]
        exact clear
      · exact ih [] List.not_mem_nil later
    · rename_i other
      refine ih (c :: before) (fun inside => ?_) member
      rcases List.mem_cons.mp inside with same | inside
      · exact other same.symm
      · exact clear inside

/-- Parts with a separator between them. -/
theorem intercalate_cons {part : Text} {parts : List Text} (filled : parts ≠ []) :
    [separator].intercalate (part :: parts) = part ++ separator :: [separator].intercalate parts := by
  cases parts with
  | nil => contradiction
  | cons next parts => simp [List.intercalate]

theorem intercalate_append {front rest : List Text} (filled : front ≠ []) (more : rest ≠ []) :
    [separator].intercalate (front ++ rest) =
      [separator].intercalate front ++ separator :: [separator].intercalate rest := by
  induction front with
  | nil => contradiction
  | cons part front ih =>
    by_cases last : front = []
    · subst last
      rw [List.singleton_append, intercalate_cons more]
      simp [List.intercalate]
    · rw [List.cons_append, intercalate_cons (by simp [last]), ih last, intercalate_cons last]
      simp

theorem intercalate_splitOn (separator : Char) (text : Text) :
    [separator].intercalate (splitOn separator text) = text := by
  suffices ∀ part, [separator].intercalate (splitOnLoop separator part [] text) = part.reverse ++ text
    from this []
  intro part
  induction text generalizing part with
  | nil => simp [splitOnLoop, List.intercalate]
  | cons c text ih =>
    unfold splitOnLoop
    split
    · rename_i same
      have more : splitOnLoop separator [] [] text ≠ [] := by
        intro empty
        have whole := ih []
        rw [empty] at whole
        have none : text = [] := whole.symm
        subst none
        simp [splitOnLoop] at empty
      rw [splitOnLoop_eq, List.reverse_singleton, List.singleton_append, intercalate_cons more, ih [], same]
      rfl
    · rw [ih (c :: part)]
      simp

theorem splitOn_ne_nil : splitOn separator text ≠ [] := by
  suffices ∀ part, splitOnLoop separator part [] text ≠ [] from this []
  intro part
  induction text generalizing part with
  | nil => simp [splitOnLoop]
  | cons c text ih =>
    unfold splitOnLoop
    split
    · rw [splitOnLoop_eq]
      simp
    · exact ih (c :: part)

/-- **Parts with separators between them are the parts of the text.** -/
theorem splitOn_intercalate {parts : List Text} (filled : parts ≠ [])
    (whole : ∀ part ∈ parts, separator ∉ part) :
    splitOn separator ([separator].intercalate parts) = parts := by
  induction parts with
  | nil => contradiction
  | cons part parts ih =>
    have first := splitOn_of_notMem (whole part (List.mem_cons_self ..))
    cases parts with
    | nil =>
      have single : [separator].intercalate [part] = part := by simp [List.intercalate]
      rw [single]
      exact first
    | cons next parts =>
      have more : next :: parts ≠ [] := List.cons_ne_nil _ _
      rw [intercalate_cons more, splitOn_append, ih more fun part member =>
        whole part (List.mem_cons_of_mem _ member)]
      exact congrArg (· ++ _) first

/-! ### The first separator -/

/-- What a search for a character stops at is that character, which does not occur before. -/
theorem eq_of_dropWhile_ne {c d : Char} {text rest : Text} (behind : text.dropWhile (· != c) = d :: rest) :
    d = c ∧ text = text.takeWhile (· != c) ++ c :: rest ∧ c ∉ text.takeWhile (· != c) := by
  have stopped := List.head_dropWhile_not (· != c) (by rw [behind]; exact List.cons_ne_nil _ _)
  have same : d = c := by simpa [behind] using stopped
  have whole := List.takeWhile_append_dropWhile (p := (· != c)) (l := text)
  rw [behind, same] at whole
  exact ⟨same, whole.symm, fun inside => by simpa using List.mem_takeWhile_imp inside⟩

section First

variable {c : Char} {front : Text}

/-- A search for a character passes over a text that does not hold it. -/
theorem passed_of_notMem (clear : c ∉ front) : ∀ d ∈ front, (d != c) = true :=
  fun _ inside => bne_iff_ne.mpr fun same => clear (same ▸ inside)

theorem takeWhile_ne_append (clear : c ∉ front) (rest : Text) :
    (front ++ c :: rest).takeWhile (· != c) = front := by
  rw [List.takeWhile_append_of_pos (passed_of_notMem clear)]
  simp

theorem dropWhile_ne_append (clear : c ∉ front) (rest : Text) :
    (front ++ c :: rest).dropWhile (· != c) = c :: rest := by
  rw [List.dropWhile_append_of_pos (passed_of_notMem clear)]
  simp

end First

/-! ### Runs between gaps -/

section Runs

variable {isGap : Char → Bool} {separator : Char} {text : Text}

theorem splitRuns_eq (isGap : Char → Bool) (run : Text) (runs : List Text) (text : Text) :
    splitRuns isGap run runs text = runs.reverse ++ splitRuns isGap run [] text := by
  induction text generalizing run runs with
  | nil => cases run <;> simp [splitRuns]
  | cons c text ih =>
    unfold splitRuns
    split
    · rw [ih [] (if run.isEmpty then runs else run.reverse :: runs),
        ih [] (if run.isEmpty then [] else [run.reverse])]
      cases run <;> simp
    · exact ih (c :: run) runs

/-- What is no gap goes on with a run. -/
theorem splitRuns_append {part : Text} (whole : ∀ c ∈ part, isGap c = false) (run rest : Text) :
    splitRuns isGap run [] (part ++ rest) = splitRuns isGap (part.reverse ++ run) [] rest := by
  induction part generalizing run with
  | nil => rfl
  | cons c part ih =>
    have inside : isGap c = false := whole c (List.mem_cons_self ..)
    rw [List.cons_append, splitRuns, inside, ih fun d member => whole d (List.mem_cons_of_mem c member)]
    simp

/-- A run holds something, and no gap. -/
theorem mem_splitRuns {run : Text} (clear : ∀ c ∈ run, isGap c = false) :
    ∀ part ∈ splitRuns isGap run [] text, part ≠ [] ∧ ∀ c ∈ part, isGap c = false := by
  -- a run that is ended holds something, as empty ones are passed over
  have ended {run : Text} (clear : ∀ c ∈ run, isGap c = false) :
      ∀ part ∈ (if run.isEmpty then [] else [run.reverse]), part ≠ [] ∧ ∀ c ∈ part, isGap c = false := by
    intro part member
    split at member
    · cases member
    · rename_i filled
      rw [List.mem_singleton.mp member]
      exact ⟨by simpa using filled, fun c inside => clear c (List.mem_reverse.mp inside)⟩
  induction text generalizing run with
  | nil =>
    intro part member
    rw [splitRuns, List.mem_reverse] at member
    exact ended clear part member
  | cons c text ih =>
    intro part member
    unfold splitRuns at member
    split at member
    · rw [splitRuns_eq] at member
      rcases List.mem_append.mp member with first | later
      · exact ended clear part (List.mem_reverse.mp first)
      · exact ih (fun d inside => absurd inside List.not_mem_nil) part later
    · rename_i inside
      refine ih (fun d among => ?_) part member
      rcases List.mem_cons.mp among with rfl | among
      · exact Bool.eq_false_iff.mpr inside
      · exact clear d among

/-- **The runs of a text are what it holds without its gaps.** -/
theorem flatten_splitRuns (run text : Text) :
    (splitRuns isGap run [] text).flatten = run.reverse ++ text.filter (!isGap ·) := by
  induction text generalizing run with
  | nil => cases run <;> simp [splitRuns]
  | cons c text ih =>
    unfold splitRuns
    split
    · rename_i gap
      rw [splitRuns_eq, List.flatten_append, ih]
      cases run <;> simp [gap]
    · rename_i inside
      rw [ih, List.filter_cons_of_pos (by simpa using inside)]
      simp

/-- **Runs with a gap between them are the runs of the text.** -/
theorem splitRuns_intercalate {parts : List Text} (gap : isGap separator = true)
    (runs : ∀ part ∈ parts, part ≠ [] ∧ ∀ c ∈ part, isGap c = false) :
    splitRuns isGap [] [] ([separator].intercalate parts) = parts := by
  induction parts with
  | nil => rfl
  | cons part parts ih =>
    obtain ⟨filled, whole⟩ := runs part (List.mem_cons_self ..)
    have passed (rest : Text) : splitRuns isGap [] [] (part ++ rest) = splitRuns isGap part.reverse [] rest := by
      rw [splitRuns_append whole, List.append_nil]
    have visible : part.reverse.isEmpty = false := by simpa using filled
    cases parts with
    | nil =>
      have single : [separator].intercalate [part] = part ++ [] := by simp [List.intercalate]
      rw [single, passed, splitRuns, visible]
      simp
    | cons next parts =>
      rw [intercalate_cons (List.cons_ne_nil _ _), passed, splitRuns, if_pos gap, splitRuns_eq,
        ih fun other member => runs other (List.mem_cons_of_mem _ member), visible]
      simp

/-- Without the gaps nothing is left of the separators. -/
theorem filter_intercalate (gap : isGap separator = true) (parts : List Text) :
    ([separator].intercalate parts).filter (!isGap ·) = parts.flatten.filter (!isGap ·) := by
  induction parts with
  | nil => rfl
  | cons part parts ih =>
    cases parts with
    | nil => simp [List.intercalate]
    | cons next parts =>
      rw [intercalate_cons (List.cons_ne_nil _ _), List.filter_append,
        List.filter_cons_of_neg (by simp [gap]), ih, ← List.filter_append]
      rfl

end Runs

end Text
end TextTemplate
