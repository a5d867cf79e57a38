/-
**Shortened texts.**

The filter `truncate` leaves a text alone that is short enough. Of a longer one it keeps a front part,
behind which an ending takes the place of the rest.

* `Filter.beforeLastSpace?_eq_some`, `Filter.notMem_of_beforeLastSpace?`: a text up to its last space;
* `IsKept`: which front part is kept, if there is room for a number of characters;
* `exists_isKept`: **a text that is too long is kept up to a place between two of its characters**;
* `truncate_keeps`: **what the filter gives.**
-/

import Mathlib.Data.List.TakeWhile
import TextTemplate.Filter.Builtin
import TextTemplate.Proofs.Separators

namespace TextTemplate

open TextTemplate.Filter

/-! ### The last space -/

/-- What stands before the last space of a text. -/
theorem Filter.beforeLastSpace?_eq_some {text before : Text} (found : beforeLastSpace? text = some before) :
    ∃ after, text = before ++ ' ' :: after ∧ ' ' ∉ after := by
  unfold beforeLastSpace? at found
  split at found
  · cases found
  · rename_i space front behind
    obtain rfl := Option.some.inj found
    obtain ⟨rfl, whole, clear⟩ := Text.eq_of_dropWhile_ne behind
    refine ⟨(text.reverse.takeWhile (· != ' ')).reverse, ?_, ?_⟩
    · simpa using congrArg List.reverse whole
    · exact fun inside => clear (List.mem_reverse.mp inside)

theorem Filter.notMem_of_beforeLastSpace? {text : Text} (missing : beforeLastSpace? text = none) :
    ' ' ∉ text := by
  unfold beforeLastSpace? at missing
  split at missing
  · rename_i passed
    intro inside
    have other := List.dropWhile_eq_nil_iff.mp passed ' ' (List.mem_reverse.mpr inside)
    simp at other
  · cases missing

/-! ### What is kept -/

/-- **A front part is kept of a text**, in which there is room for a number of characters: all that there
is room for if words may be cut, and else up to the last space among them, if one of them stands anywhere
but at the start. -/
structure IsKept (cutWords : Bool) (room : Nat) (text kept : Text) : Prop where
  boundary : ∃ rest, text.splitAt? kept.byteSize = some (kept, rest)
  filled : cutWords = true → kept.length = room
  spaced : cutWords = false → ∀ before after, text.take room = before ++ ' ' :: after → before ≠ [] →
    ∃ word, text.take room = kept ++ ' ' :: word ∧ ' ' ∉ word
  unspaced : cutWords = false → (∀ before after, text.take room = before ++ ' ' :: after → before = []) →
    kept = text.take room

section Kept

variable {cutWords : Bool} {room : Nat} {text kept : Text}

/-- The end of a front part is a place in a text. -/
theorem exists_splitAt?_of_prefix (front : kept <+: text) :
    ∃ rest, text.splitAt? kept.byteSize = some (kept, rest) := by
  obtain ⟨rest, joined⟩ := front
  exact ⟨rest, Text.splitAt?_eq_some_iff.mpr ⟨joined.symm, rfl⟩⟩

/-- Of a text without room nothing is kept. -/
theorem isKept_nil (cutWords : Bool) (text : Text) : IsKept cutWords 0 text [] where
  boundary := exists_splitAt?_of_prefix List.nil_prefix
  filled _ := rfl
  spaced _ before after joined := by simp at joined
  unspaced _ _ := rfl

/-- What fits is kept, if words may be cut. -/
theorem isKept_take_of_cutWords (fits : room ≤ text.length) : IsKept true room text (text.take room) where
  boundary := exists_splitAt?_of_prefix (List.take_prefix room text)
  filled _ := List.length_take_of_le fits
  spaced uncut := Bool.noConfusion uncut
  unspaced uncut := Bool.noConfusion uncut

/-- What fits is kept, if there is no space in it but at the start. -/
theorem isKept_take (free : ∀ before after, text.take room = before ++ ' ' :: after → before = []) :
    IsKept false room text (text.take room) where
  boundary := exists_splitAt?_of_prefix (List.take_prefix room text)
  filled cut := Bool.noConfusion cut
  spaced _ before after joined inside := absurd (free before after joined) inside
  unspaced _ _ := rfl

/-- What fits is kept up to the last space in it. -/
theorem isKept_words {word : Text} (joined : text.take room = kept ++ ' ' :: word) (last : ' ' ∉ word)
    (filled : kept ≠ []) : IsKept false room text kept where
  boundary := exists_splitAt?_of_prefix
    (List.IsPrefix.trans ⟨' ' :: word, joined.symm⟩ (List.take_prefix room text))
  filled cut := Bool.noConfusion cut
  spaced _ _ _ _ _ := ⟨word, joined, last⟩
  unspaced _ free := absurd (free kept word joined) filled

/-- No more is kept than there is room for. -/
theorem IsKept.length_le (isKept : IsKept cutWords room text kept) : kept.length ≤ room := by
  cases cutWords with
  | true => exact Nat.le_of_eq (isKept.filled rfl)
  | false =>
    by_cases free : ∀ before after, text.take room = before ++ ' ' :: after → before = []
    · rw [isKept.unspaced rfl free]
      exact List.length_take_le _ _
    · simp only [not_forall] at free
      obtain ⟨before, after, joined, inside⟩ := free
      obtain ⟨word, whole, -⟩ := isKept.spaced rfl before after joined inside
      have short := List.length_take_le room text
      rw [whole, List.length_append] at short
      omega

end Kept

/-- **A text that is too long is kept up to a place between two of its characters**, and the ending
follows. -/
theorem exists_isKept {length : Nat} {text : Text} (long : length < text.length) (cutWords : Bool)
    (ending : Text) :
    ∃ kept, truncate length cutWords ending text = kept ++ ending ∧
      IsKept cutWords (length - ending.length) text kept := by
  rw [truncate, if_neg (Nat.not_le.mpr long)]
  by_cases narrow : length ≤ ending.length
  · rw [if_pos narrow, Nat.sub_eq_zero_of_le narrow]
    exact ⟨[], rfl, isKept_nil cutWords text⟩
  · rw [if_neg narrow]
    have fits : length - ending.length ≤ text.length := by omega
    cases cutWords with
    | true => exact ⟨_, rfl, isKept_take_of_cutWords fits⟩
    | false =>
      simp only [Bool.false_eq_true, if_false]
      cases found : beforeLastSpace? (text.take (length - ending.length)) with
      | none =>
        refine ⟨_, rfl, isKept_take fun before after joined => ?_⟩
        have missing := notMem_of_beforeLastSpace? found
        rw [joined] at missing
        exact absurd (List.mem_append_right _ (List.mem_cons_self ..)) missing
      | some words =>
        obtain ⟨word, joined, last⟩ := beforeLastSpace?_eq_some found
        cases words with
        | nil =>
          refine ⟨_, rfl, isKept_take fun before after again => ?_⟩
          -- any other space would stand behind the last one
          cases before with
          | nil => rfl
          | cons c before =>
            rw [joined, List.nil_append, List.cons_append] at again
            obtain ⟨-, behind⟩ := List.cons.inj again
            rw [behind] at last
            exact absurd (List.mem_append_right _ (List.mem_cons_self ..)) last
        | cons c words => exact ⟨c :: words, rfl, isKept_words joined last (List.cons_ne_nil _ _)⟩

-- the ending is one character, and so are the letters of two bytes
example : truncate 5 false ['…'] ['h', 'é', ' ', 'w', 'ö', 'r'] = ['h', 'é', '…'] := by decide

/-- **What `truncate` gives**, for every value, every integer, those below zero counting as zero, every
flag and every ending: a text that has no more characters stays as it is, and any other one is kept up to
a place between two of its characters and ends in the ending, so that no more characters are left than
that, unless the ending alone has more. -/
theorem truncate_keeps (value flag marker : Value) (n : Int64) (more : List Value) :
    let text := value.text
    let ending := marker.text
    let length := (max n.toInt 0).toNat
    ∃ output : Text,
      applyBuiltin? "truncate" value (.int n :: flag :: marker :: more) =
        some (.ok (.ofText output)) ∧
      (text.length ≤ length → output = text) ∧
      (length < text.length → ∃ kept, output = kept ++ ending ∧
        output.length ≤ max length ending.length ∧
        IsKept flag.truthy (length - ending.length) text kept) := by
  intro text ending length
  have same : countArg (.int n :: flag :: marker :: more) 0 255 = length := by
    show n.toInt.toNat = (max n.toInt 0).toNat
    omega
  refine ⟨truncate length flag.truthy ending text, ?_, fun short => ?_, fun long => ?_⟩
  · show some (Except.ok (Value.ofText (truncate (countArg (.int n :: flag :: marker :: more) 0 255)
      flag.truthy ending text))) = _
    rw [same]
  · rw [truncate, if_pos short]
  · obtain ⟨kept, joined, isKept⟩ := exists_isKept long flag.truthy ending
    refine ⟨kept, joined, ?_, isKept⟩
    have fits := isKept.length_le
    rw [joined, List.length_append]
    omega

end TextTemplate
