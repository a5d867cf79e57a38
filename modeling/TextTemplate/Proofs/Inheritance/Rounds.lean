/-
**Resolving includes without a bound.**

`resolveIncludes` counts its rounds and how deep it is nested, and stops where its bounds are used up.
The rules of `IncludesEnd` have no bounds: a round replaces the first include and goes on with the
text that this gives, and the name of an include that is not known yet is resolved by the same
procedure, nested one deeper. A derivation is a finite course of the procedure, so the procedure ends
where there is one.

* `IncludesEnd`: how the resolution of includes ends, and how deep it is nested at most;
* `includesEnd_includesWithin`: **the bounds are never used up** by a loader that knows finitely many
  names: the procedure ends as `includesWithin` says, nested no deeper than the names that are left
  and one more;
* `resolveIncludes_of_dropped`: **an include that is cyclic or missing is just deleted**;
* `exists_scan_of_error`: an error is the fault of a text that the procedure scans.
-/

import TextTemplate.Proofs.Inheritance.Expansion

namespace TextTemplate

/-- The source of a template, nothing if it cannot be read. -/
def Loader.sourceOf (loader : Loader) (name : String) : Text :=
  match loader.read name with
  | .ok source => source.toList
  | .error _ => []

section Source

variable {loader : Loader} {name : String}

theorem Loader.sourceOf_eq_of_ok {source : String} (read : loader.read name = .ok source) :
    loader.sourceOf name = source.toList := by
  rw [sourceOf, read]

theorem Loader.sourceOf_eq_nil {error : LoadError} (read : loader.read name = .error error) :
    loader.sourceOf name = [] := by
  rw [sourceOf, read]

end Source

/-! ### The procedure -/

/-- **How the resolution of the includes of a text ends**, with the names in `seen` being included
already. It is nested `depth` deep at most, the text itself being nested nowhere. -/
inductive IncludesEnd (loader : Loader) :
    (depth : Nat) → (seen : List String) → Text → Except ScanError Text → Prop
  | fault {depth : Nat} {seen : List String} {text : Text} {error : ScanError} :
    scan text = .error error → IncludesEnd loader depth seen text (.error error)
  | done {depth : Nat} {seen : List String} {text : Text} :
    firstReference? "include" text = .ok none → IncludesEnd loader depth seen text (.ok text)
  /-- The name is being included already. -/
  | cyclic {depth : Nat} {seen : List String} {text : Text} {tag : Tag} {name : String}
      {outcome : Except ScanError Text} :
    firstReference? "include" text = .ok (some (tag, name)) → name ∈ seen →
      IncludesEnd loader depth seen (applyEdits text [⟨tag.span, []⟩]) outcome →
        IncludesEnd loader depth seen text outcome
  /-- What the name stands for cannot be resolved. -/
  | nestedFault {depth : Nat} {seen : List String} {text : Text} {tag : Tag} {name : String}
      {error : ScanError} :
    firstReference? "include" text = .ok (some (tag, name)) → name ∉ seen →
      IncludesEnd loader depth (name :: seen) (loader.sourceOf name) (.error error) →
        IncludesEnd loader (depth + 1) seen text (.error error)
  | nested {depth : Nat} {seen : List String} {text new : Text} {tag : Tag} {name : String}
      {outcome : Except ScanError Text} :
    firstReference? "include" text = .ok (some (tag, name)) → name ∉ seen →
      IncludesEnd loader depth (name :: seen) (loader.sourceOf name) (.ok new) →
        IncludesEnd loader (depth + 1) seen (applyEdits text [⟨tag.span, new⟩]) outcome →
          IncludesEnd loader (depth + 1) seen text outcome

/-- A text whose scan fails has no first reference. -/
theorem firstReference?_of_fault {keyword : String} {text : Text} {error : ScanError}
    (fault : scan text = .error error) : firstReference? keyword text = .error error := by
  rw [firstReference?, fault]
  rfl

theorem scan_of_firstReference? {keyword : String} {text : Text} {error : ScanError}
    (fault : firstReference? keyword text = .error error) : scan text = .error error := by
  rcases scanned : scan text with error' | tags
  · rw [firstReference?_of_fault scanned] at fault
    cases fault
    rfl
  · rw [firstReference?, scanned] at fault
    cases fault

/-- The scan of a text has failed if its first reference has not been found out. -/
theorem not_fault_of_firstReference? {keyword : String} {text : Text} {error : ScanError}
    {first : Option (Tag × String)} (found : firstReference? keyword text = .ok first) :
    scan text ≠ .error error := by
  intro fault
  rw [firstReference?_of_fault fault] at found
  cases found

/-- **The procedure ends in one way at most.** -/
theorem IncludesEnd.unique {loader : Loader} {depth depth' : Nat} {seen : List String} {text : Text}
    {outcome outcome' : Except ScanError Text} (ends : IncludesEnd loader depth seen text outcome)
    (ends' : IncludesEnd loader depth' seen text outcome') : outcome = outcome' := by
  induction ends generalizing depth' outcome' with
  | fault fault =>
    cases ends' with
    | fault fault' =>
      cases fault.symm.trans fault'
      rfl
    | done found | cyclic found | nestedFault found | nested found =>
      exact absurd fault (not_fault_of_firstReference? found)
  | done found =>
    cases ends' with
    | fault fault => exact absurd fault (not_fault_of_firstReference? found)
    | done => rfl
    | cyclic found' | nestedFault found' | nested found' => cases found.symm.trans found'
  | cyclic found known _ ih =>
    cases ends' with
    | fault fault => exact absurd fault (not_fault_of_firstReference? found)
    | done found' => cases found.symm.trans found'
    | cyclic found' _ ends' =>
      cases found.symm.trans found'
      exact ih ends'
    | nestedFault found' unknown | nested found' unknown =>
      cases found.symm.trans found'
      exact absurd known unknown
  | nestedFault found unknown _ ih =>
    cases ends' with
    | fault fault => exact absurd fault (not_fault_of_firstReference? found)
    | done found' => cases found.symm.trans found'
    | cyclic found' known =>
      cases found.symm.trans found'
      exact absurd known unknown
    | nestedFault found' _ inner =>
      cases found.symm.trans found'
      exact ih inner
    | nested found' _ inner =>
      cases found.symm.trans found'
      cases ih inner
  | nested found unknown _ _ ih ih' =>
    cases ends' with
    | fault fault => exact absurd fault (not_fault_of_firstReference? found)
    | done found' => cases found.symm.trans found'
    | cyclic found' known =>
      cases found.symm.trans found'
      exact absurd known unknown
    | nestedFault found' _ inner =>
      cases found.symm.trans found'
      cases ih inner
    | nested found' _ inner later =>
      cases found.symm.trans found'
      cases ih inner
      exact ih' later

/-! ### Rounds -/

section Rounds

variable {expansion : String → Except ScanError Text} {rounds : Nat} {text : Text}

theorem replaceIncludes_of_fault {error : ScanError} (fault : scan text = .error error) :
    replaceIncludes expansion (rounds + 1) text = .error error := by
  rw [replaceIncludes, firstReference?_of_fault fault]
  rfl

theorem replaceIncludes_of_none (found : firstReference? "include" text = .ok none) :
    replaceIncludes expansion (rounds + 1) text = .ok text := by
  rw [replaceIncludes, found]
  rfl

theorem replaceIncludes_of_error {tag : Tag} {name : String} {error : ScanError}
    (found : firstReference? "include" text = .ok (some (tag, name)))
    (expanded : expansion name = .error error) :
    replaceIncludes expansion (rounds + 1) text = .error error := by
  rw [replaceIncludes, found]
  simp only [bind, Except.bind, expanded]

theorem replaceIncludes_of_ok {tag : Tag} {name : String} {new : Text}
    (found : firstReference? "include" text = .ok (some (tag, name)))
    (expanded : expansion name = .ok new) :
    replaceIncludes expansion (rounds + 1) text =
      replaceIncludes expansion rounds (applyEdits text [⟨tag.span, new⟩]) := by
  rw [replaceIncludes, found]
  simp only [bind, Except.bind, expanded]

end Rounds

/-- The first include of a text is the tag of one of its pieces. -/
theorem exists_piece_of_reference {text last : Text} {pieces : List Piece} {tag : Tag}
    {name : String} (cut : Cut text pieces last)
    (found : firstReference? "include" text = .ok (some (tag, name))) :
    ∃ before piece after, pieces = before ++ piece :: after ∧
      included pieces = included before ++ name :: included after ∧
        tag = piece.tag (Position.start.after (textOf before)) := by
  rw [firstReference?_eq cut] at found
  rcases findSome?_tagsFrom Position.start pieces with ⟨-, first⟩ | ⟨before, piece, after, other, rfl,
    -, names, first⟩
  · rw [first] at found
    cases found
  · rw [first] at found
    cases found
    refine ⟨before, piece, after, rfl, ?_, rfl⟩
    rw [included_append]
    congr 1
    rw [included, List.filterMap_cons, names]
    rfl

/-- **A replacement leaves one include less**, if the text can still be scanned. -/
theorem exists_cut_of_replaced {text last new : Text} {pieces : List Piece} {tag : Tag} {name : String}
    (cut : Cut text pieces last) (found : firstReference? "include" text = .ok (some (tag, name)))
    (free : IncludeFree new) {tags : List Tag}
    (scanned : scan (applyEdits text [⟨tag.span, new⟩]) = .ok tags) :
    ∃ pieces' last', Cut (applyEdits text [⟨tag.span, new⟩]) pieces' last' ∧
      (included pieces').length + 1 = (included pieces).length := by
  obtain ⟨before, piece, after, rfl, listed, rfl⟩ := exists_piece_of_reference cut found
  have joined : text = textOf before ++ (piece.text ++ (textOf after ++ last)) := by
    rw [cut.joined]
    simp
  rw [joined, applyEdits_tag] at scanned ⊢
  obtain ⟨pieces', last', cut', -, included'⟩ :=
    cut_of_replaced (fun _ => []) cut.sound cut.plain free scanned
  refine ⟨pieces', last', cut', ?_⟩
  rw [included', listed, List.length_append, List.length_append, List.length_cons, Nat.add_assoc]

/-- What the procedure ends with includes nothing. -/
theorem IncludesEnd.includeFree {loader : Loader} {depth : Nat} {seen : List String} {text : Text}
    {outcome : Except ScanError Text} (ends : IncludesEnd loader depth seen text outcome) :
    ∀ out, outcome = .ok out → IncludeFree out := by
  induction ends with
  | fault => exact fun out same => nomatch same
  | @done _ _ text found =>
    rintro _ ⟨⟩
    rcases scanned : scan text with error | tags
    · exact absurd scanned (not_fault_of_firstReference? found)
    · obtain ⟨pieces, last, cut, -⟩ := scan_eq_ok_iff.mp scanned
      rw [firstReference?_eq cut] at found
      rcases findSome?_tagsFrom Position.start pieces with ⟨none, -⟩ | ⟨_, _, _, _, _, _, _, first⟩
      · exact ⟨pieces, last, cut, none⟩
      · rw [first] at found
        cases found
  | cyclic _ _ _ ih => exact ih
  | nestedFault => exact fun out same => nomatch same
  | nested _ _ _ _ _ ih => exact ih

/-- **The rounds are enough** if there are more of them than includes: the procedure ends as they
say, if it does so one deeper for each name that is not known yet. -/
theorem includesEnd_replaceIncludes {loader : Loader} {depth : Nat} {seen : List String}
    {expansion : String → Except ScanError Text}
    (known : ∀ name ∈ seen, expansion name = .ok [])
    (nested : ∀ name, name ∉ seen →
      IncludesEnd loader depth (name :: seen) (loader.sourceOf name) (expansion name))
    {rounds : Nat} {text last : Text} {pieces : List Piece} (cut : Cut text pieces last)
    (enough : (included pieces).length < rounds) :
    IncludesEnd loader (depth + 1) seen text (replaceIncludes expansion rounds text) := by
  induction rounds generalizing text last pieces with
  | zero => exact absurd enough (Nat.not_lt_zero _)
  | succ rounds ih =>
    -- the text that a round gives is either at fault or has one include less
    have next : ∀ tag name new, firstReference? "include" text = .ok (some (tag, name)) →
        expansion name = .ok new → IncludeFree new →
          IncludesEnd loader (depth + 1) seen (applyEdits text [⟨tag.span, new⟩])
            (replaceIncludes expansion rounds (applyEdits text [⟨tag.span, new⟩])) := by
      intro tag name new found expanded free
      rcases scanned : scan (applyEdits text [⟨tag.span, new⟩]) with error | tags
      · obtain ⟨before, -, after, -, listed, -⟩ := exists_piece_of_reference cut found
        rw [listed, List.length_append, List.length_cons] at enough
        obtain ⟨rounds, rfl⟩ : ∃ fewer, rounds = fewer + 1 := ⟨rounds - 1, by omega⟩
        rw [replaceIncludes_of_fault scanned]
        exact IncludesEnd.fault scanned
      · obtain ⟨pieces', last', cut', fewer⟩ := exists_cut_of_replaced cut found free scanned
        exact ih cut' (by omega)
    rcases found : firstReference? "include" text with error | _ | ⟨tag, name⟩
    · have fault := scan_of_firstReference? found
      rw [replaceIncludes_of_fault fault]
      exact IncludesEnd.fault fault
    · rw [replaceIncludes_of_none found]
      exact IncludesEnd.done found
    · by_cases member : name ∈ seen
      · have expanded := known name member
        rw [replaceIncludes_of_ok found expanded]
        exact IncludesEnd.cyclic found member (next tag name [] found expanded includeFree_nil)
      · have inner := nested name member
        rcases expanded : expansion name with error | new
        · rw [replaceIncludes_of_error found expanded]
          rw [expanded] at inner
          exact IncludesEnd.nestedFault found member inner
        · rw [replaceIncludes_of_ok found expanded]
          rw [expanded] at inner
          exact IncludesEnd.nested found member inner
            (next tag name new found expanded (inner.includeFree new rfl))

/-! ### Depth -/

section Depth

variable {loader : Loader} {names : List String}
  (complete : ∀ name source, loader.read name = .ok source → name ∈ names)
include complete

/-- **The bounds are never used up.** Where all names that can be read are in a list, and a chain of
them is being included, the procedure ends as `includesWithin` says; it is nested no deeper than the
names that are left, and once more for a name that cannot be read. -/
theorem includesEnd_includesWithin {bound : Nat} {seen chain : List String}
    (chained : loader.IsChain seen chain) (enough : names.length < chain.length + bound)
    (text : Text) :
    IncludesEnd loader (names.length - chain.length + 1) seen text
      (includesWithin loader bound seen text) := by
  induction bound generalizing seen chain text with
  | zero => exact absurd (chained.length_le complete) (Nat.not_le.mpr enough)
  | succ bound ih =>
    rw [includesWithin]
    rcases scanned : scan text with error | tags
    · rw [replaceIncludes_of_fault scanned]
      exact IncludesEnd.fault scanned
    · obtain ⟨pieces, last, cut, -⟩ := scan_eq_ok_iff.mp scanned
      refine includesEnd_replaceIncludes (fun name member => expandName_dropped (Or.inl member))
        (fun name unknown => ?_) cut (Nat.lt_succ_of_le (length_included_le cut))
      rcases read : loader.read name with error | source
      · rw [expandName_dropped (Or.inr ⟨error, read⟩), loader.sourceOf_eq_nil read]
        exact IncludesEnd.done rfl
      · have longer := chained.cons unknown read
        have room := longer.length_le complete
        rw [List.length_cons] at room
        have inner := ih longer (by rw [List.length_cons]; omega) source.toList
        rw [List.length_cons, show names.length - (chain.length + 1) + 1 =
          names.length - chain.length by omega] at inner
        rw [expandName_read unknown read, loader.sourceOf_eq_of_ok read]
        exact inner

/-- **The resolution of the includes of a text ends**, nested at most as deep as there are names that
can be read, and once more. -/
theorem includesEnd_resolveIncludes (fewer : names.length < loader.bound) (seen : List String)
    (text : Text) :
    IncludesEnd loader (names.length + 1) seen text (resolveIncludes loader seen text) := by
  have start : loader.IsChain seen [] :=
    ⟨List.nodup_nil, fun name member => absurd member List.not_mem_nil,
      fun name member => absurd member List.not_mem_nil⟩
  exact includesEnd_includesWithin complete start (by rw [List.length_nil]; omega) text

end Depth

/-! ### Includes that are dropped -/

section Finite

variable {loader : Loader} (finite : loader.Finite)
include finite

/-- The procedure ends as `resolveIncludes` says and in no other way. -/
theorem IncludesEnd.eq_resolveIncludes {depth : Nat} {seen : List String} {text : Text}
    {outcome : Except ScanError Text} (ends : IncludesEnd loader depth seen text outcome) :
    outcome = resolveIncludes loader seen text := by
  obtain ⟨names, fewer, complete⟩ := finite
  exact ends.unique (includesEnd_resolveIncludes complete fewer seen text)

/-- **An include that is cyclic or missing is just deleted**: what is left of the text is resolved as
if the include had never stood there. -/
theorem resolveIncludes_of_dropped {seen : List String} {text : Text} {tag : Tag} {name : String}
    (found : firstReference? "include" text = .ok (some (tag, name)))
    (dropped : name ∈ seen ∨ ∃ error, loader.read name = .error error) :
    resolveIncludes loader seen text =
      resolveIncludes loader seen (applyEdits text [⟨tag.span, []⟩]) := by
  have ⟨names, fewer, complete⟩ := finite
  have rest := includesEnd_resolveIncludes complete fewer seen (applyEdits text [⟨tag.span, []⟩])
  have ends : IncludesEnd loader (names.length + 1) seen text
      (resolveIncludes loader seen (applyEdits text [⟨tag.span, []⟩])) := by
    by_cases known : name ∈ seen
    · exact IncludesEnd.cyclic found known rest
    · obtain ⟨error, read⟩ := dropped.resolve_left known
      refine IncludesEnd.nested found known ?_ rest
      rw [loader.sourceOf_eq_nil read]
      exact IncludesEnd.done rfl
  exact (ends.eq_resolveIncludes finite).symm

end Finite

/-- **The texts that are scanned** while the includes of a text are resolved: the text itself, what
it becomes when its first include is replaced, and so on; and those that are scanned for the source
of a name that is included. -/
inductive IncludesScan (loader : Loader) : (seen : List String) → (text scanned : Text) → Prop
  | here {seen : List String} {text : Text} : IncludesScan loader seen text text
  | within {seen : List String} {text scanned : Text} {tag : Tag} {name : String} :
    firstReference? "include" text = .ok (some (tag, name)) → name ∉ seen →
      IncludesScan loader (name :: seen) (loader.sourceOf name) scanned →
        IncludesScan loader seen text scanned
  | next {seen : List String} {text new scanned : Text} {tag : Tag} {name : String} :
    firstReference? "include" text = .ok (some (tag, name)) →
      expandName loader (resolveIncludes loader) seen name = .ok new →
        IncludesScan loader seen (applyEdits text [⟨tag.span, new⟩]) scanned →
          IncludesScan loader seen text scanned

/-- **An error is the fault of a text that is scanned**, and nothing else is an error. -/
theorem IncludesEnd.exists_scan_of_error {loader : Loader} (finite : loader.Finite) {depth : Nat}
    {seen : List String} {text : Text} {outcome : Except ScanError Text}
    (ends : IncludesEnd loader depth seen text outcome) :
    ∀ error, outcome = .error error →
      ∃ scanned, IncludesScan loader seen text scanned ∧ scan scanned = .error error := by
  induction ends with
  | fault fault =>
    rintro _ ⟨⟩
    exact ⟨_, IncludesScan.here, fault⟩
  | done => exact fun error same => nomatch same
  | cyclic found known _ ih =>
    intro error same
    obtain ⟨scanned, scans, fault⟩ := ih error same
    exact ⟨scanned, IncludesScan.next found (expandName_dropped (Or.inl known)) scans, fault⟩
  | nestedFault found unknown _ ih =>
    intro error same
    obtain ⟨scanned, scans, fault⟩ := ih error same
    exact ⟨scanned, IncludesScan.within found unknown scans, fault⟩
  | @nested _ seen _ new _ name _ found unknown inner _ _ ih =>
    intro error same
    obtain ⟨scanned, scans, fault⟩ := ih error same
    refine ⟨scanned, IncludesScan.next found ?_ scans, fault⟩
    rcases read : loader.read name with error' | source
    · rw [loader.sourceOf_eq_nil read] at inner
      have empty : IncludesEnd loader 0 (name :: seen) [] (.ok []) := IncludesEnd.done rfl
      rw [expandName_dropped (Or.inr ⟨error', read⟩), inner.unique empty]
    · rw [loader.sourceOf_eq_of_ok read] at inner
      rw [expandName_read unknown read]
      exact (inner.eq_resolveIncludes finite).symm

end TextTemplate
