/-
**Paths as places.**

Where a path leads without looking at the files: every segment that names a step goes down by one
name, or up.

* `Path.segments_append`, `Path.names_append`: a slash divides a path into two paths;
* `Path.names_absolute`: an absolute path has the steps of the path that it is made from, behind those
  of the working directory;
* `Path.exists_segments_join`: the segments of a joined path are those of its second part behind
  others with the steps of the first part;
* `Path.place`: **the place that a path leads to, if it leads to one**.
-/

import Mathlib.Data.List.Basic
import Mathlib.Data.List.Induction
import Mathlib.Data.List.TakeWhile
import TextTemplate.Files.Tree
import TextTemplate.Proofs.Separators

namespace TextTemplate

/-! ### Segments and steps -/

namespace Path

variable {path front rest segment name : Text} {steps : List Text}

theorem segments_append (front rest : Text) :
    segments (front ++ '/' :: rest) = segments front ++ segments rest :=
  Text.splitOn_append front rest

theorem segments_ne_nil : segments path ≠ [] :=
  Text.splitOn_ne_nil

theorem names_append (front rest : Text) : names (front ++ '/' :: rest) = names front ++ names rest := by
  rw [names, segments_append, List.filter_append]
  rfl

theorem isStep_of_mem_names (member : name ∈ names path) : isStep name = true :=
  (List.mem_filter.mp member).2

theorem filter_of_isPrefix (begins : steps <+: names path) : steps.filter isStep = steps :=
  List.filter_eq_self.mpr fun _ member => isStep_of_mem_names (begins.subset member)

theorem notMem_of_mem_names (member : name ∈ names path) : '/' ∉ name :=
  Text.notMem_of_mem_splitOn (List.mem_filter.mp member).1

/-- Names with slashes between them are the segments of a path. -/
theorem segments_intercalate (filled : steps ≠ []) (whole : ∀ name ∈ steps, '/' ∉ name) :
    segments (['/'].intercalate steps) = steps :=
  Text.splitOn_intercalate filled whole

theorem isAbsolute_intercalate (whole : ∀ name ∈ steps, '/' ∉ name)
    (stepping : ∀ name ∈ steps, isStep name = true) : isAbsolute (['/'].intercalate steps) = false := by
  cases steps with
  | nil => rfl
  | cons name steps =>
    have first := whole name (List.mem_cons_self ..)
    cases name with
    | nil => exact absurd (stepping [] (List.mem_cons_self ..)) (by decide)
    | cons c name =>
      have other : c ≠ '/' := fun same => first (same ▸ List.mem_cons_self ..)
      cases steps with
      | nil => simpa [List.intercalate, isAbsolute] using other
      | cons next steps => simpa [List.intercalate, isAbsolute] using other

theorem names_intercalate (stepping : ∀ name ∈ steps, isStep name = true)
    (whole : ∀ name ∈ steps, '/' ∉ name) : names (['/'].intercalate steps) = steps := by
  by_cases empty : steps = []
  · subst empty
    rfl
  · rw [names, segments_intercalate empty whole]
    exact List.filter_eq_self.mpr stepping

/-- Slashes at the end of a path name no step. -/
theorem names_dropRightWhile (path : Text) : names (path.dropRightWhile (· == '/')) = names path := by
  induction path using List.reverseRecOn with
  | nil => rfl
  | append_singleton path c ih =>
    rw [Text.dropRightWhile, List.reverse_concat, List.dropWhile_cons]
    split
    · rename_i slash
      rw [eq_of_beq slash, names_append]
      exact ih.trans (List.append_nil _).symm
    · rw [List.reverse_cons, List.reverse_reverse]

theorem isAbsolute_append (filled : front ≠ []) : isAbsolute (front ++ rest) = isAbsolute front := by
  cases front with
  | nil => contradiction
  | cons => rfl

theorem isAbsolute_dropRightWhile (filled : path.dropRightWhile (· == '/') ≠ []) :
    isAbsolute (path.dropRightWhile (· == '/')) = isAbsolute path := by
  have joined : path = path.dropRightWhile (· == '/') ++ (path.reverse.takeWhile (· == '/')).reverse := by
    rw [Text.dropRightWhile, ← List.reverse_append, List.takeWhile_append_dropWhile,
      List.reverse_reverse]
  rw [joined, isAbsolute_append filled, ← joined]

/-- The path above another one: the segments up to a step, with at least one more step behind them. -/
theorem exists_segments_of_parent? {parent : Text} (above : parent? path = some parent) :
    ∃ front rest, segments path = front ++ rest ∧ rest ≠ [] ∧
      (names path).dropLast = front.filter isStep ∧ (∀ segment ∈ front.getLast?, isStep segment = true) ∧
      parent = if front.isEmpty && isAbsolute path then ['/'] else ['/'].intercalate front := by
  have none (texts : List Text) :
      (texts.takeWhile fun segment => !isStep segment).reverse.filter isStep = [] := by
    rw [List.filter_eq_nil_iff]
    intro segment member
    simpa using List.mem_takeWhile_imp (List.mem_reverse.mp member)
  unfold parent? at above
  split at above
  · cases above
  rename_i last before steps
  dsimp only at above
  generalize kept : before.dropWhile (fun segment => !isStep segment) = front at above
  -- from its end, the path has its last step, what comes before it and the path above
  have whole : (segments path).reverse =
      (segments path).reverse.takeWhile (fun segment => !isStep segment) ++ last :: before := by
    rw [← steps, List.takeWhile_append_dropWhile]
  have between : before = before.takeWhile (fun segment => !isStep segment) ++ front := by
    rw [← kept, List.takeWhile_append_dropWhile]
  have divided : segments path = front.reverse ++
      ((before.takeWhile fun segment => !isStep segment).reverse ++ [last] ++
        ((segments path).reverse.takeWhile fun segment => !isStep segment).reverse) := by
    have reversed := congrArg List.reverse whole
    rw [between, List.reverse_reverse] at reversed
    simpa using reversed
  have final : isStep last = true := by
    have head := List.head?_dropWhile_not (fun segment => !isStep segment) (segments path).reverse
    simpa [steps] using head
  refine ⟨front.reverse, _, divided, by simp, ?_, ?_, ?_⟩
  · rw [names, divided]
    simp only [List.filter_append, none, List.append_nil, List.nil_append, List.filter_cons, final,
      if_true, List.filter_nil]
    exact List.dropLast_concat
  · intro segment member
    have head := List.head?_dropWhile_not (fun segment => !isStep segment) before
    rw [List.getLast?_reverse, Option.mem_def] at member
    rw [kept, member] at head
    simpa using head
  · split at above
    · rename_i top
      cases above
      rw [List.isEmpty_reverse, if_pos top]
    · rename_i below
      cases above
      rw [List.isEmpty_reverse, if_neg below]

/-- **The path above has the steps before the last one.** -/
theorem names_parent? {parent : Text} (above : parent? path = some parent) :
    names parent = (names path).dropLast ∧ isAbsolute parent = isAbsolute path := by
  obtain ⟨front, rest, divided, more, shorter, steps, rfl⟩ := exists_segments_of_parent? above
  rw [shorter]
  by_cases top : front = []
  · subst top
    split
    · rename_i absolute
      exact ⟨rfl, ((Bool.and_eq_true_iff.mp absolute).2).symm⟩
    · rename_i relative
      refine ⟨rfl, ?_⟩
      simpa [isAbsolute] using relative
  · rw [if_neg (by simp [top])]
    have same : names (['/'].intercalate front) = front.filter isStep := by
      rw [names, segments_intercalate top]
      intro segment member
      refine Text.notMem_of_mem_splitOn (show segment ∈ segments path from ?_)
      rw [divided]
      exact List.mem_append_left _ member
    refine ⟨same, ?_⟩
    have visible : ['/'].intercalate front ≠ [] := by
      intro empty
      rw [empty] at same
      have member : front.getLast top ∈ front.filter isStep :=
        List.mem_filter.mpr ⟨List.getLast_mem top, steps _ (List.getLast?_eq_some_getLast top)⟩
      rw [← same] at member
      cases member
    have joined : ['/'].intercalate (segments path) = path := Text.intercalate_splitOn '/' path
    rw [divided, Text.intercalate_append top more] at joined
    rw [← joined, isAbsolute_append visible]

/-- **The steps of an absolute path.** -/
theorem names_absolute (working path : Text) :
    names (absolute working path) = (if isAbsolute path then [] else names working) ++ names path := by
  have steps (text : Text) : names (root path ++ text) = names text := by
    unfold root
    split
    · exact names_append ['/'] text
    · exact names_append [] text
  have inside : ∀ name ∈ (if isAbsolute path then [] else names working) ++ names path,
      isStep name = true ∧ '/' ∉ name := by
    intro name member
    rcases List.mem_append.mp member with base | step
    · split at base
      · cases base
      · exact ⟨isStep_of_mem_names base, notMem_of_mem_names base⟩
    · exact ⟨isStep_of_mem_names step, notMem_of_mem_names step⟩
  have whole := names_intercalate (fun name member => (inside name member).1)
    (fun name member => (inside name member).2)
  unfold absolute
  dsimp only
  generalize (if isAbsolute path then [] else names working) ++ names path = all at whole ⊢
  split
  · rw [names_append, steps, whole]
    exact List.append_nil _
  · rw [steps, whole]

theorem absolute_ne_nil (working path : Text) : absolute working path ≠ [] := by
  have filled : root path ≠ [] := by
    unfold root
    split <;> exact List.cons_ne_nil _ _
  unfold absolute
  dsimp only
  generalize ['/'].intercalate _ = steps
  split <;> simp [filled]

/-- **The segments of a joined path.** -/
theorem exists_segments_join {base : Text} (filled : base ≠ []) (relative : isAbsolute path = false) :
    ∃ front, front.filter isStep = names base ∧ segments (join base path) = front ++ segments path := by
  have noRoot : base.isEmpty = false := by
    cases base with
    | nil => contradiction
    | cons => rfl
  rw [join, if_neg (by simp [relative]), noRoot, Bool.false_or]
  split
  · rename_i ends
    obtain ⟨front, rfl⟩ : ∃ front, base = front ++ ['/'] := by
      rw [endsWithSlash, beq_iff_eq] at ends
      exact ⟨base.dropLast, (List.dropLast_append_getLast? '/' ends).symm⟩
    refine ⟨segments front, ?_, ?_⟩
    · rw [names_append]
      exact (List.append_nil _).symm
    · rw [List.append_assoc]
      exact segments_append front path
  · exact ⟨segments base, rfl, segments_append base path⟩

theorem isAbsolute_join {base : Text} (filled : base ≠ []) (relative : isAbsolute path = false) :
    isAbsolute (join base path) = isAbsolute base := by
  cases base with
  | nil => contradiction
  | cons c base =>
    rw [join, if_neg (by simp [relative])]
    split <;> rfl

theorem names_join {base : Text} (filled : base ≠ []) (relative : isAbsolute path = false) :
    names (join base path) = names base ++ names path := by
  obtain ⟨front, steps, same⟩ := exists_segments_join filled relative
  rw [names, same, List.filter_append, steps]
  rfl

theorem byteSize_le_join (base path : Text) : path.byteSize ≤ (join base path).byteSize := by
  unfold join
  split
  · exact Nat.le_refl _
  · split
    · rw [Text.byteSize_append]
      omega
    · rw [Text.byteSize_append, Text.byteSize_cons]
      omega

/-! ### Places -/

/-- The place behind one more step. -/
def step (place : Place) (name : Text) : Place :=
  if name = up then place.dropLast else place ++ [name]

/-- Where a path begins. -/
def start (working path : Text) : Place :=
  if isAbsolute path then [] else names working

/-- **The place that a path leads to**, if all directories on the way exist. -/
def place (working path : Text) : Place :=
  (names path).foldl step (start working path)

theorem start_congr {working path' : Text} (same : isAbsolute path' = isAbsolute path) :
    start working path' = start working path := by
  rw [start, start, same]

theorem foldl_step_of_noUp {names : List Text} (down : ∀ name ∈ names, name ≠ up) (place : Place) :
    names.foldl step place = place ++ names := by
  induction names generalizing place with
  | nil => exact (List.append_nil _).symm
  | cons name names ih =>
    rw [List.foldl_cons, step, if_neg (down name (List.mem_cons_self ..)),
      ih fun name member => down name (List.mem_cons_of_mem _ member), List.append_assoc]
    rfl

end Path
end TextTemplate
