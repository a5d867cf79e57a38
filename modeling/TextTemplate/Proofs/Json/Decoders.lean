/-
**Two decoders of documents.**

One decoder does not know which kind of value it will meet, and at every node of a document it tries one
kind after the other. The other one looks at the kinds of a tree in which the members of every object
are sorted.

* `Value.decode?`, `decode?_eq`: **trying the kinds in their order gives the value of a document**;
* `Value.Alike`: equality up to the order of the entries of maps, `Alike.same`: such values are equal to
  the program too;
* `Denotes.alike`: **a document denotes one value only**, up to this order;
* `decoders_agree`: **the two decoders agree on every text.**
-/

import Mathlib
import TextTemplate.Proofs.Json.Denotation
import TextTemplate.Proofs.Json.Numeric

namespace TextTemplate
namespace Value

/-! ### Trying the kinds of values -/

def null? : Json → Option Value
  | .null => some .null
  | _ => none

def bool? : Json → Option Value
  | .bool b => some (.bool b)
  | _ => none

/-- An integer, if it is a word. -/
def int? : Json → Option Value
  | .int n => (Integer.checked? n).map .int
  | _ => none

/-- A float, also for an integer. -/
def float? : Json → Option Value
  | .int n => some (.float (floatOfInt n))
  | .float x => some (.float x)
  | _ => none

def string? : Json → Option Value
  | .string s => some (.string s)
  | _ => none

mutual

/-- The value of a document, by the first kind of values that it can be read as. -/
def decode? (document : Json) : Option Value :=
  null? document <|> bool? document <|> int? document <|> float? document <|> string? document <|>
    (match document with
      | .array items => (decodeItems? items).map .array
      | _ => none) <|>
    (match document with
      | .object members => (decodeMembers? members).map fun pairs => .map (Bindings.ofList pairs)
      | _ => none)

/-- The values of the elements of an array, if each of them has one. -/
def decodeItems? : List Json → Option (List Value)
  | [] => some []
  | item :: items => do return (← decode? item) :: (← decodeItems? items)

/-- The values of the members of an object, if each of them has one. -/
def decodeMembers? : List (String × Json) → Option (List (String × Value))
  | [] => some []
  | (name, member) :: members => do return (name, ← decode? member) :: (← decodeMembers? members)

end

theorem decodeItems?_eq {items : List Json}
    (each : ∀ item ∈ items, decode? item = some (ofJson item)) :
    decodeItems? items = some (ofJsonItems items) := by
  induction items with
  | nil => rfl
  | cons item items ih =>
    obtain ⟨first, later⟩ := List.forall_mem_cons.mp each
    rw [decodeItems?, first, ih later]
    rfl

theorem decodeMembers?_eq {members : List (String × Json)}
    (each : ∀ member ∈ members, decode? member.2 = some (ofJson member.2)) :
    decodeMembers? members = some (ofJsonMembers members) := by
  induction members with
  | nil => rfl
  | cons member members ih =>
    obtain ⟨name, member⟩ := member
    obtain ⟨first, later⟩ := List.forall_mem_cons.mp each
    rw [decodeMembers?, first, ih later]
    rfl

/-- **Trying the kinds in their order gives the value of a document.** -/
theorem decode?_eq (document : Json) : decode? document = some (ofJson document) := by
  induction document using Json.induct with
  | null => rfl
  | bool b => rfl
  | int n =>
    unfold decode?
    rw [ofJson, ofJsonInteger]
    simp only [null?, bool?, int?]
    -- an integer that is no word is tried as a float
    cases Integer.checked? n with
    | some word => rfl
    | none => rfl
  | float x => rfl
  | string s => rfl
  | array items each =>
    rw [decode?, ofJson]
    simp only [decodeItems?_eq each]
    rfl
  | object members each =>
    rw [decode?, ofJson]
    simp only [decodeMembers?_eq each]
    rfl

/-! ### Values that are alike -/

/-- **Values that differ in the order of the entries of maps only.** Floats have to be numbers, and the
same to the last bit. -/
inductive Alike : Value → Value → Prop
  | null : Alike .null .null
  | bool (b : Bool) : Alike (.bool b) (.bool b)
  | int (n : Int64) : Alike (.int n) (.int n)
  | float {x : Float} (number : x.isNaN = false) : Alike (.float x) (.float x)
  | string (s : String) : Alike (.string s) (.string s)
  | array {as bs : List Value} (length : as.length = bs.length)
      (each : ∀ (i : Nat) a b, as[i]? = some a → bs[i]? = some b → Alike a b) :
    Alike (.array as) (.array bs)
  | map {as bs : Bindings Value} (distinct : (as.map Prod.fst).Nodup)
      (names : (as.map Prod.fst).Perm (bs.map Prod.fst))
      (each : ∀ name a b, Bindings.find? name as = some a → Bindings.find? name bs = some b →
        Alike a b) :
    Alike (.map as) (.map bs)

theorem sameItems_of_getElem? {as bs : List Value} (length : as.length = bs.length)
    (each : ∀ (i : Nat) a b, as[i]? = some a → bs[i]? = some b → a.same b = true) :
    sameItems as bs = true := by
  induction as generalizing bs with
  | nil =>
    cases bs with
    | nil => rfl
    | cons b bs => cases length
  | cons a as ih =>
    cases bs with
    | nil => cases length
    | cons b bs =>
      rw [sameItems, each 0 a b rfl rfl, ih (Nat.succ.inj length) fun i => each (i + 1)]
      rfl

theorem sameEntries_of_find? {as bs : Bindings Value}
    (each : ∀ entry ∈ as, ∃ b, Bindings.find? entry.1 bs = some b ∧ entry.2.same b = true) :
    sameEntries as bs = true := by
  induction as with
  | nil => rfl
  | cons entry as ih =>
    obtain ⟨name, a⟩ := entry
    obtain ⟨⟨b, found, equal⟩, later⟩ := List.forall_mem_cons.mp each
    rw [sameEntries, found, ih later, Bool.and_true]
    exact equal

/-- **Values that are alike are equal** to the program. -/
theorem Alike.same {a b : Value} (alike : Alike a b) : a.same b = true := by
  induction alike with
  | null => rfl
  | bool b => exact beq_self_eq_true b
  | int n => exact beq_self_eq_true n
  | float number => exact (compareFloats?_eq_eq_iff _ _).mp (compareFloats?_self number)
  | string s => exact beq_self_eq_true s
  | array length _ ih => exact sameItems_of_getElem? length ih
  | @map as bs distinct names _ ih =>
    have length : as.length = bs.length := by simpa using names.length_eq
    have entries : sameEntries as bs = true := by
      refine sameEntries_of_find? fun entry member => ?_
      have bound : entry.1 ∈ bs.map Prod.fst := names.subset (List.mem_map_of_mem member)
      obtain ⟨b, found⟩ := Option.isSome_iff_exists.mp (Bindings.isSome_find?_iff.mpr bound)
      exact ⟨b, found, ih entry.1 entry.2 b (Bindings.find?_eq_some_of_mem distinct member) found⟩
    exact Bool.and_eq_true_iff.mpr ⟨beq_iff_eq.mpr length, entries⟩

/-- An integer denotes one value only. -/
theorem Denotes.eq_ofJsonInteger {n : Int} {v : Value} (denotes : Denotes (.int n) v) :
    v = ofJsonInteger n := by
  cases denotes with
  | word n => rw [ofJsonInteger, Integer.checked?_toInt]
  | large large => rw [ofJsonInteger, Integer.checked?_of_not_fits large]

/-- **A document denotes one value only**, up to the order of the entries of maps. -/
theorem Denotes.alike {document : Json} {v w : Value} (numeric : document.Numeric)
    (first : Denotes document v) (second : Denotes document w) : Alike v w := by
  induction first generalizing w with
  | null =>
    cases second
    exact .null
  | bool b =>
    cases second
    exact .bool b
  | word n =>
    rw [second.eq_ofJsonInteger, ← (Denotes.word n).eq_ofJsonInteger]
    exact .int n
  | large large =>
    rw [second.eq_ofJsonInteger, ← (Denotes.large large).eq_ofJsonInteger]
    exact .float (isNaN_nearest _ _ _)
  | float x =>
    cases second
    cases numeric with
    | float number => exact .float number
  | string s =>
    cases second
    exact .string s
  | @array items values length each ih =>
    cases numeric with
    | array numeric =>
    cases second with
    | @array _ values' length' each' =>
    refine .array (length.symm.trans length') fun i a b found found' => ?_
    obtain ⟨bound, -⟩ := List.getElem?_eq_some_iff.mp found
    have item := List.getElem?_eq_getElem (length.symm ▸ bound)
    exact ih i _ a item found (numeric _ (List.mem_of_getElem? item)) (each' i _ b item found')
  | @object members entries distinct names last ih =>
    cases numeric with
    | object numeric =>
    cases second with
    | @object _ entries' distinct' names' last' =>
    refine .map distinct ((List.perm_ext_iff_of_nodup distinct distinct').mpr fun name => ?_)
      fun name a b found found' => ?_
    · rw [← Bindings.isSome_find?_iff, ← Bindings.isSome_find?_iff, names, names']
    · have known := names name
      rw [found] at known
      obtain ⟨member, counts⟩ := Option.isSome_iff_exists.mp known.symm
      exact ih name member a counts found (numeric _ (Json.member?_mem counts))
        (last' name member b counts found')

end Value

/-- **The two decoders agree on every text that is a document.** Trying the kinds of values in their
order and taking over the sorted tree both give a value that the document denotes, and these values
differ in the order of the entries of maps only; so they are equal to the program. -/
theorem decoders_agree {text : Text} {document : Json} (parsed : Json.parse? text = some document) :
    Value.decode? document = some (.ofJson document) ∧
      Value.Denotes document (.ofJson document) ∧
      Value.Denotes document (.ofTree document.canonical) ∧
      Value.Alike (.ofJson document) (.ofTree document.canonical) ∧
      Value.same (.ofJson document) (.ofTree document.canonical) = true := by
  have numeric := Json.numeric_of_parse? parsed
  have alike := (Value.denotes_ofJson document).alike numeric (Value.denotes_ofTree document)
  exact ⟨Value.decode?_eq document, Value.denotes_ofJson document, Value.denotes_ofTree document,
    alike, alike.same⟩

/-- A repeated name with a list as its last member: it stands at its first place for the one decoder, and
at the place of its letters for the other. The greatest word is an integer, and the number behind it is
a float. -/
theorem decoders_agree_on_repeated_name :
    let text := "\x7b\"b\":1,\"a\":2.5,\"b\":[9223372036854775807,9223372036854775808]\x7d".toList
    let words := Value.array [.int Int64.maxValue, .float (floatOfInt 9223372036854775808)]
    let inOrder := Value.map [("b", words), ("a", .float 2.5)]
    let sorted := Value.map [("a", .float 2.5), ("b", words)]
    ∃ document, Json.parse? text = some document ∧ Value.decode? document = some inOrder ∧
      Value.Denotes document inOrder ∧ Value.Denotes document sorted ∧
      Value.Alike inOrder sorted ∧ Value.same inOrder sorted = true := by
  intro text words inOrder sorted
  let document := Json.object [("b", .int 1), ("a", .float 2.5),
    ("b", .array [.int 9223372036854775807, .int 9223372036854775808])]
  have parsed : Json.parse? text = some document := by
    have half : nearest false 25 1 / Json.powerOfTen 1 = 2.5 := by decide +kernel
    simp only [text, document, ← half, String.reduceToList]
    rfl
  have greatest : Value.ofJsonInteger 9223372036854775807 = .int Int64.maxValue :=
    (Value.Denotes.word Int64.maxValue).eq_ofJsonInteger.symm
  have next : Value.ofJsonInteger 9223372036854775808 = .float (floatOfInt 9223372036854775808) :=
    (Value.Denotes.large (by decide)).eq_ofJsonInteger.symm
  have direct : Value.ofJson document = inOrder := by
    simp only [document, Value.ofJson, Value.ofJsonMembers, Value.ofJsonItems, greatest, next]
    rfl
  have canonical : document.canonical = .object [("a", .float 2.5),
      ("b", .array [.int 9223372036854775807, .int 9223372036854775808])] := rfl
  have tree : Value.ofTree document.canonical = sorted := by
    rw [canonical]
    simp only [Value.ofTree, Value.ofTreeMembers, Value.ofTreeItems, greatest, next]
    rfl
  have agree := decoders_agree parsed
  rw [direct, tree] at agree
  exact ⟨document, parsed, agree⟩

end TextTemplate
