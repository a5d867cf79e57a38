/-
**Values written as JSON and read back.**

* `Floatless`: a value without floats whose lists and maps nest to a depth at most and whose maps bind
  each name once;
* `Value.document`: the document that a value is written as;
* `Floatless.readValue?_json`: the text of a plain value is read as its document, whatever follows it
  that does not continue a number;
* `Floatless.ofJson_document`: the document of a plain value stands for the value;
* `dump_reads_back`: **what the filter `dump` writes is read back as the same value.**
-/

import TextTemplate.Filter.Builtin
import TextTemplate.Proofs.Bindings
import TextTemplate.Proofs.Json.Tokens

namespace TextTemplate

/-- **A value without floats**: there are no floats in it, lists and maps nest to a depth at most, and the
names of a map are distinct. -/
inductive Floatless : Nat → Value → Prop
  | null {depth : Nat} : Floatless depth .null
  | bool {depth : Nat} (b : Bool) : Floatless depth (.bool b)
  | int {depth : Nat} (n : Int64) : Floatless depth (.int n)
  | string {depth : Nat} (s : String) : Floatless depth (.string s)
  | array {depth : Nat} {items : List Value} :
    (∀ item ∈ items, Floatless depth item) → Floatless (depth + 1) (.array items)
  | map {depth : Nat} {entries : List (String × Value)} :
    (entries.map Prod.fst).Nodup → (∀ entry ∈ entries, Floatless depth entry.2) →
      Floatless (depth + 1) (.map entries)

theorem Floatless.mono {depth depth' : Nat} {value : Value} (floatless : Floatless depth value)
    (le : depth ≤ depth') : Floatless depth' value := by
  induction floatless generalizing depth' with
  | null => exact .null
  | bool b => exact .bool b
  | int n => exact .int n
  | string s => exact .string s
  | array _ ih =>
    obtain ⟨more, rfl⟩ := Nat.exists_eq_add_of_le' le
    exact .array fun item member => ih item member (Nat.le_add_left _ _)
  | map distinct _ ih =>
    obtain ⟨more, rfl⟩ := Nat.exists_eq_add_of_le' le
    exact .map distinct fun entry member => ih entry member (Nat.le_add_left _ _)

/-! ### The document of a value -/

namespace Value

mutual

/-- The document that a value is written as. -/
def document : Value → Json
  | .null => .null
  | .bool b => .bool b
  | .int n => .int n.toInt
  | .float x => .float x
  | .string s => .string s
  | .array items => .array (documentItems items)
  | .map entries => .object (documentMembers entries)

/-- The documents of the elements of a list. -/
def documentItems : List Value → List Json
  | [] => []
  | item :: items => document item :: documentItems items

/-- The members of an object that the entries of a map are written as. -/
def documentMembers : List (String × Value) → List (String × Json)
  | [] => []
  | (name, value) :: entries => (name, document value) :: documentMembers entries

end

theorem ofJsonItems_documentItems {items : List Value}
    (each : ∀ item ∈ items, ofJson item.document = item) :
    ofJsonItems (documentItems items) = items := by
  induction items with
  | nil => rfl
  | cons item items ih =>
    rw [documentItems, ofJsonItems, each item List.mem_cons_self,
      ih fun other member => each other (List.mem_cons_of_mem _ member)]

theorem ofJsonMembers_documentMembers {entries : List (String × Value)}
    (each : ∀ entry ∈ entries, ofJson entry.2.document = entry.2) :
    ofJsonMembers (documentMembers entries) = entries := by
  induction entries with
  | nil => rfl
  | cons entry entries ih =>
    obtain ⟨name, value⟩ := entry
    rw [documentMembers, ofJsonMembers, each (name, value) List.mem_cons_self,
      ih fun other member => each other (List.mem_cons_of_mem _ member)]

/-- **The document of a value without floats stands for the value.** -/
theorem ofJson_document {depth : Nat} {value : Value} (floatless : Floatless depth value) :
    ofJson value.document = value := by
  induction floatless with
  | null | bool | string => rfl
  | int n => rw [document, ofJson, ofJsonInteger, Integer.checked?_toInt]
  | array _ ih => rw [document, ofJson, ofJsonItems_documentItems ih]
  | map distinct _ ih =>
    rw [document, ofJson, ofJsonMembers_documentMembers ih, Bindings.ofList_of_nodup distinct]

end Value

/-! ### Reading what was written -/

namespace Json

/-- How a value begins: with a character that is no blank and closes nothing. -/
def BeginsValue (text : Text) : Prop :=
  ∃ c rest, text = c :: rest ∧ isGap c = false ∧ c ≠ ']' ∧ c ≠ '}'

theorem skipGap_cons {c : Char} {text : Text} (noGap : isGap c = false) :
    skipGap (c :: text) = c :: text := by
  rw [skipGap, List.dropWhile_cons_of_neg (by simp [noGap])]

theorem BeginsValue.skipGap_append {text : Text} (begins : BeginsValue text) (rest : Text) :
    skipGap (text ++ rest) = text ++ rest := by
  obtain ⟨c, text, rfl, noGap, -⟩ := begins
  exact skipGap_cons noGap

theorem endsNumber_cons {c : Char} {rest : Text} (ends : c = ',' ∨ c = ']' ∨ c = '}') :
    EndsNumber (c :: rest) := by
  intro d first
  obtain rfl : c = d := by simpa using first
  rcases ends with rfl | rfl | rfl <;> decide

/-- How the text of a word begins. -/
theorem exists_integerText_eq_cons (n : Int) :
    ∃ c rest, integerText n = c :: rest ∧ (c = '-' ∨ c.isDigit = true) := by
  rw [integerText]
  split
  · exact ⟨'-', _, rfl, Or.inl rfl⟩
  · obtain ⟨c, rest, begins, digit, -⟩ := exists_digitText_eq_cons n.natAbs
    exact ⟨c, rest, begins, Or.inr digit⟩

theorem beginsValue_json {depth : Nat} {value : Value} (floatless : Floatless depth value) :
    BeginsValue value.json := by
  cases floatless with
  | null => exact ⟨'n', _, rfl, rfl, by decide, by decide⟩
  | bool b => cases b <;> exact ⟨_, _, rfl, rfl, by decide, by decide⟩
  | int n =>
    obtain ⟨c, rest, begins, sign⟩ := exists_integerText_eq_cons n.toInt
    refine ⟨c, rest, begins, ?_, ?_, ?_⟩
    · by_contra gap
      simp only [isGap, Bool.not_eq_false, Bool.or_eq_true, beq_iff_eq] at gap
      rcases gap with ((rfl | rfl) | rfl) | rfl <;> exact absurd sign (by decide)
    · rintro rfl; exact absurd sign (by decide)
    · rintro rfl; exact absurd sign (by decide)
  | string s => exact ⟨'"', _, rfl, rfl, by decide, by decide⟩
  | array => exact ⟨'[', _, rfl, rfl, by decide, by decide⟩
  | map => exact ⟨'\x7b', _, rfl, rfl, by decide, by decide⟩

/-- What is neither an array nor an object is read at any depth. -/
theorem readValue?_scalar (steps depth : Nat) {c : Char} {text : Text} (noArray : c ≠ '[')
    (noObject : c ≠ '\x7b') : readValue? steps depth (c :: text) = readScalar? (c :: text) := by
  cases depth <;> (rw [readValue?.eq_def]; simp [noArray, noObject])

theorem readScalar?_string (s : String) (rest : Text) :
    readScalar? (quote s.toList ++ rest) = some (.string s, rest) := by
  rw [quote_append, readScalar?.eq_def]
  simp [readString?_quote]

theorem readScalar?_integerText (n : Int64) {rest : Text} (ends : EndsNumber rest) :
    readScalar? (integerText n.toInt ++ rest) = some (.int n.toInt, rest) := by
  obtain ⟨c, text, begins, sign⟩ := exists_integerText_eq_cons n.toInt
  have other : c ≠ 'n' ∧ c ≠ 't' ∧ c ≠ 'f' ∧ c ≠ '"' := by
    refine ⟨?_, ?_, ?_, ?_⟩ <;> (rintro rfl; exact absurd sign (by decide))
  rw [← readNumber?_integerText n ends, begins, List.cons_append, readScalar?.eq_def]
  simp [other]

/-! ### Texts between commas -/

theorem intercalate_cons_cons (first second : Text) (texts : List Text) :
    [','].intercalate (first :: second :: texts) =
      first ++ ',' :: [','].intercalate (second :: texts) := by
  simp [List.intercalate, List.intersperse]

/-- No list has more elements than its text has characters. -/
theorem length_le_length_intercalate (texts : List Text) (filled : ∀ text ∈ texts, text ≠ []) :
    texts.length ≤ ([','].intercalate texts).length := by
  induction texts with
  | nil => exact Nat.le_refl 0
  | cons first texts ih =>
    have positive : 0 < first.length := List.length_pos_iff.mpr (filled first List.mem_cons_self)
    cases texts with
    | nil =>
      have single : [','].intercalate [first] = first := by simp [List.intercalate]
      rw [single]
      exact positive
    | cons second texts =>
      have others := ih fun text member => filled text (List.mem_cons_of_mem _ member)
      rw [intercalate_cons_cons]
      simp only [List.length_append, List.length_cons] at others ⊢
      omega

theorem exists_intercalate_eq_append (first : Text) (texts : List Text) :
    ∃ tail, [','].intercalate (first :: texts) = first ++ tail := by
  cases texts with
  | nil => exact ⟨[], by simp [List.intercalate]⟩
  | cons second texts => exact ⟨_, intercalate_cons_cons first second texts⟩

theorem BeginsValue.append {text : Text} (begins : BeginsValue text) (rest : Text) :
    BeginsValue (text ++ rest) := by
  obtain ⟨c, text, rfl, others⟩ := begins
  exact ⟨c, text ++ rest, rfl, others⟩

theorem BeginsValue.ne_nil {text : Text} (begins : BeginsValue text) : text ≠ [] := by
  obtain ⟨c, text, rfl, -⟩ := begins
  exact List.cons_ne_nil c text

theorem beginsValue_quote (text rest : Text) : BeginsValue (quote text ++ rest) :=
  ⟨'"', _, quote_append text rest, rfl, by decide, by decide⟩

theorem length_jsonItems (items : List Value) : (Value.jsonItems items).length = items.length := by
  induction items with
  | nil => rfl
  | cons item items ih => rw [Value.jsonItems, List.length_cons, ih, List.length_cons]

theorem length_jsonEntries (entries : List (String × Value)) :
    (Value.jsonEntries entries).length = entries.length := by
  induction entries with
  | nil => rfl
  | cons entry entries ih =>
    obtain ⟨name, value⟩ := entry
    rw [Value.jsonEntries, List.length_cons, ih, List.length_cons]

theorem mem_jsonItems {items : List Value} {text : Text} :
    text ∈ Value.jsonItems items ↔ ∃ item ∈ items, item.json = text := by
  induction items with
  | nil => simp [Value.jsonItems]
  | cons item items ih => simp [Value.jsonItems, ih, eq_comm]

theorem mem_jsonEntries {entries : List (String × Value)} {text : Text} :
    text ∈ Value.jsonEntries entries ↔
      ∃ entry ∈ entries, quote entry.1.toList ++ ':' :: entry.2.json = text := by
  induction entries with
  | nil => simp [Value.jsonEntries]
  | cons entry entries ih =>
    obtain ⟨name, value⟩ := entry
    simp [Value.jsonEntries, ih, eq_comm]

/-- The text of an element is no longer than that of the list. -/
theorem length_le_of_mem {texts : List Text} {text : Text} (member : text ∈ texts) :
    text.length ≤ ([','].intercalate texts).length := by
  induction texts with
  | nil => exact absurd member List.not_mem_nil
  | cons first texts ih =>
    obtain ⟨tail, joined⟩ := exists_intercalate_eq_append first texts
    rcases List.mem_cons.mp member with rfl | inside
    · rw [joined, List.length_append]
      exact Nat.le_add_right _ _
    · cases texts with
      | nil => exact absurd inside List.not_mem_nil
      | cons second texts =>
        have others := ih inside
        rw [intercalate_cons_cons, List.length_append, List.length_cons]
        omega

/-! ### Arrays and objects -/

section Collections

variable {read : Text → Option (Json × Text)} {rest : Text}

/-- **The elements of an array are read one after the other**, if each one is read. -/
theorem readItems?_jsonItems {item : Value} {items : List Value}
    (begins : ∀ other ∈ item :: items, BeginsValue other.json)
    (reads : ∀ other ∈ item :: items, ∀ rest, EndsNumber rest →
      read (other.json ++ rest) = some (other.document, rest))
    (steps : Nat) (enough : items.length < steps) (done : List Json) :
    readItems? read steps done ([','].intercalate (Value.jsonItems (item :: items)) ++ ']' :: rest) =
      some (done.reverse ++ Value.documentItems (item :: items), rest) := by
  induction items generalizing item steps done with
  | nil =>
    obtain ⟨steps, rfl⟩ : ∃ more, steps = more + 1 := ⟨steps - 1, by omega⟩
    have closes := reads item List.mem_cons_self (']' :: rest) (endsNumber_cons (by simp))
    have single : [','].intercalate (Value.jsonItems [item]) = item.json := by
      simp [Value.jsonItems, List.intercalate]
    rw [single, readItems?, (begins item List.mem_cons_self).skipGap_append, closes]
    simp [skipGap_cons (show isGap ']' = false from rfl), Value.documentItems]
  | cons next items ih =>
    obtain ⟨steps, rfl⟩ : ∃ more, steps = more + 1 := ⟨steps - 1, by omega⟩
    have joined : [','].intercalate (Value.jsonItems (item :: next :: items)) ++ ']' :: rest =
        item.json ++ ',' :: ([','].intercalate (Value.jsonItems (next :: items)) ++ ']' :: rest) := by
      rw [Value.jsonItems, Value.jsonItems, intercalate_cons_cons, ← Value.jsonItems,
        List.append_assoc, List.cons_append]
    have continues := reads item List.mem_cons_self
      (',' :: ([','].intercalate (Value.jsonItems (next :: items)) ++ ']' :: rest))
      (endsNumber_cons (by simp))
    have others := ih (fun other member => begins other (List.mem_cons_of_mem _ member))
      (fun other member => reads other (List.mem_cons_of_mem _ member))
      steps (by simpa using enough) (item.document :: done)
    rw [joined, readItems?, (begins item List.mem_cons_self).skipGap_append, continues]
    simp only [skipGap_cons (show isGap ',' = false from rfl), others]
    simp [Value.documentItems]

/-- The name of a member and the colon behind it. -/
theorem readName?_quote (name : String) :
    readName? (quote name.toList ++ ':' :: rest) = some (name, rest) := by
  rw [quote_append, readName?, skipGap_cons rfl]
  simp only [readString?_quote, skipGap_cons (show isGap ':' = false from rfl)]

/-- **The members of an object are read one after the other**, if each value is read. -/
theorem readMembers?_jsonEntries {entry : String × Value} {entries : List (String × Value)}
    (begins : ∀ other ∈ entry :: entries, BeginsValue other.2.json)
    (reads : ∀ other ∈ entry :: entries, ∀ rest, EndsNumber rest →
      read (other.2.json ++ rest) = some (other.2.document, rest))
    (steps : Nat) (enough : entries.length < steps) (done : List (String × Json)) :
    readMembers? read steps done
        ([','].intercalate (Value.jsonEntries (entry :: entries)) ++ '\x7d' :: rest) =
      some (done.reverse ++ Value.documentMembers (entry :: entries), rest) := by
  induction entries generalizing entry steps done with
  | nil =>
    obtain ⟨name, value⟩ := entry
    obtain ⟨steps, rfl⟩ : ∃ more, steps = more + 1 := ⟨steps - 1, by omega⟩
    have closes := reads _ List.mem_cons_self ('\x7d' :: rest) (endsNumber_cons (by simp))
    have single : [','].intercalate (Value.jsonEntries [(name, value)]) =
        quote name.toList ++ ':' :: value.json := by
      simp [Value.jsonEntries, List.intercalate]
    rw [single, readMembers?, List.append_assoc, List.cons_append, readName?_quote]
    simp only [(begins _ List.mem_cons_self).skipGap_append, closes,
      skipGap_cons (show isGap '\x7d' = false from rfl)]
    simp [Value.documentMembers]
  | cons next entries ih =>
    obtain ⟨name, value⟩ := entry
    obtain ⟨steps, rfl⟩ : ∃ more, steps = more + 1 := ⟨steps - 1, by omega⟩
    have joined : [','].intercalate (Value.jsonEntries ((name, value) :: next :: entries)) ++
        '\x7d' :: rest = quote name.toList ++ ':' :: (value.json ++ ',' ::
          ([','].intercalate (Value.jsonEntries (next :: entries)) ++ '\x7d' :: rest)) := by
      obtain ⟨name', value'⟩ := next
      rw [Value.jsonEntries, Value.jsonEntries, intercalate_cons_cons, ← Value.jsonEntries]
      simp
    have continues := reads _ List.mem_cons_self
      (',' :: ([','].intercalate (Value.jsonEntries (next :: entries)) ++ '\x7d' :: rest))
      (endsNumber_cons (by simp))
    have others := ih (fun other member => begins other (List.mem_cons_of_mem _ member))
      (fun other member => reads other (List.mem_cons_of_mem _ member))
      steps (by simpa using enough) ((name, value.document) :: done)
    rw [joined, readMembers?, readName?_quote]
    simp only [(begins _ List.mem_cons_self).skipGap_append, continues,
      skipGap_cons (show isGap ',' = false from rfl), others]
    simp [Value.documentMembers]

/-- An array with elements. -/
theorem readArray?_of_beginsValue {text : Text} (begins : BeginsValue text) (steps : Nat)
    (read : Text → Option (Json × Text)) :
    readArray? steps read text =
      (readItems? read steps [] text).map fun (items, rest) => (.array items, rest) := by
  obtain ⟨c, text, rfl, noGap, noClose, -⟩ := begins
  rw [readArray?.eq_def, skipGap_cons noGap]
  simp [noClose]

/-- An object with members. -/
theorem readObject?_of_beginsValue {text : Text} (begins : BeginsValue text) (steps : Nat)
    (read : Text → Option (Json × Text)) :
    readObject? steps read text =
      (readMembers? read steps [] text).map fun (members, rest) => (.object members, rest) := by
  obtain ⟨c, text, rfl, noGap, -, noClose⟩ := begins
  rw [readObject?.eq_def, skipGap_cons noGap]
  simp [noClose]

/-- **An array is read as the documents of its elements.** -/
theorem readArray?_jsonItems {items : List Value} (rest : Text)
    (begins : ∀ item ∈ items, BeginsValue item.json)
    (reads : ∀ item ∈ items, ∀ rest, EndsNumber rest →
      read (item.json ++ rest) = some (item.document, rest))
    {steps : Nat} (enough : ([','].intercalate (Value.jsonItems items)).length < steps) :
    readArray? steps read ([','].intercalate (Value.jsonItems items) ++ ']' :: rest) =
      some (.array (Value.documentItems items), rest) := by
  cases items with
  | nil => rfl
  | cons item items =>
    have number := length_le_length_intercalate (Value.jsonItems (item :: items)) (by
      intro text member
      obtain ⟨other, inside, rfl⟩ := mem_jsonItems.mp member
      exact (begins other inside).ne_nil)
    rw [length_jsonItems, List.length_cons] at number
    have first : BeginsValue ([','].intercalate (Value.jsonItems (item :: items))) := by
      obtain ⟨tail, joined⟩ := exists_intercalate_eq_append item.json (Value.jsonItems items)
      rw [Value.jsonItems, joined]
      exact (begins item List.mem_cons_self).append tail
    rw [readArray?_of_beginsValue (first.append _),
      readItems?_jsonItems begins reads steps (by omega) []]
    rfl

/-- **An object is read as the documents of its members.** -/
theorem readObject?_jsonEntries {entries : List (String × Value)} (rest : Text)
    (begins : ∀ entry ∈ entries, BeginsValue entry.2.json)
    (reads : ∀ entry ∈ entries, ∀ rest, EndsNumber rest →
      read (entry.2.json ++ rest) = some (entry.2.document, rest))
    {steps : Nat} (enough : ([','].intercalate (Value.jsonEntries entries)).length < steps) :
    readObject? steps read ([','].intercalate (Value.jsonEntries entries) ++ '\x7d' :: rest) =
      some (.object (Value.documentMembers entries), rest) := by
  cases entries with
  | nil => rfl
  | cons entry entries =>
    have number := length_le_length_intercalate (Value.jsonEntries (entry :: entries)) (by
      intro text member
      obtain ⟨other, inside, rfl⟩ := mem_jsonEntries.mp member
      exact (beginsValue_quote _ _).ne_nil)
    rw [length_jsonEntries, List.length_cons] at number
    have first : BeginsValue ([','].intercalate (Value.jsonEntries (entry :: entries))) := by
      obtain ⟨name, value⟩ := entry
      obtain ⟨tail, joined⟩ := exists_intercalate_eq_append (quote name.toList ++ ':' :: value.json)
        (Value.jsonEntries entries)
      rw [Value.jsonEntries, joined]
      exact (beginsValue_quote _ _).append tail
    rw [readObject?_of_beginsValue (first.append _),
      readMembers?_jsonEntries begins reads steps (by omega) []]
    rfl

end Collections

/-- **The text of a value without floats is read as its document**, whatever follows it that does
not continue a number. -/
theorem readValue?_json {steps depth : Nat} {value : Value} (floatless : Floatless depth value)
    (enough : value.json.length < steps) (rest : Text) (ends : EndsNumber rest) :
    readValue? steps depth (value.json ++ rest) = some (value.document, rest) := by
  induction floatless generalizing rest with
  | null => exact readValue?_scalar steps _ (by decide) (by decide)
  | bool b => cases b <;> exact readValue?_scalar steps _ (by decide) (by decide)
  | int n =>
    obtain ⟨c, text, begins, sign⟩ := exists_integerText_eq_cons n.toInt
    have noArray : c ≠ '[' := by rintro rfl; exact absurd sign (by decide)
    have noObject : c ≠ '\x7b' := by rintro rfl; exact absurd sign (by decide)
    have scalar := readScalar?_integerText n ends
    rw [begins] at scalar
    rw [Value.json, begins, List.cons_append, readValue?_scalar steps _ noArray noObject]
    exact scalar
  | string s =>
    have scalar := readScalar?_string s rest
    rw [quote_append] at scalar
    rw [Value.json, quote_append, readValue?_scalar steps _ (by decide) (by decide)]
    exact scalar
  | @array depth items each ih =>
    rw [Value.json, List.cons_append, List.length_cons, List.length_append] at enough
    have reads : ∀ item ∈ items, ∀ rest, EndsNumber rest →
        readValue? steps depth (item.json ++ rest) = some (item.document, rest) := by
      intro item member rest ends
      have shorter := length_le_of_mem (mem_jsonItems.mpr ⟨item, member, rfl⟩)
      exact ih item member (by omega) rest ends
    have short : ([','].intercalate (Value.jsonItems items)).length < steps := by omega
    have read := readArray?_jsonItems rest
      (fun item member => beginsValue_json (each item member)) reads short
    rw [Value.json, List.cons_append, List.cons_append, List.append_assoc, List.singleton_append,
      readValue?]
    exact read
  | @map depth entries _ each ih =>
    rw [Value.json, List.cons_append, List.length_cons, List.length_append] at enough
    have reads : ∀ entry ∈ entries, ∀ rest, EndsNumber rest →
        readValue? steps depth (entry.2.json ++ rest) = some (entry.2.document, rest) := by
      intro entry member rest ends
      have shorter := length_le_of_mem (mem_jsonEntries.mpr ⟨entry, member, rfl⟩)
      rw [List.length_append, List.length_cons] at shorter
      exact ih entry member (by omega) rest ends
    have short : ([','].intercalate (Value.jsonEntries entries)).length < steps := by omega
    have read := readObject?_jsonEntries rest
      (fun entry member => beginsValue_json (each entry member)) reads short
    rw [Value.json, List.cons_append, List.cons_append, List.append_assoc, List.singleton_append,
      readValue?]
    exact read

/-- The text of a value without floats holds its document and nothing else. -/
theorem parse?_json {depth : Nat} {value : Value} (floatless : Floatless depth value)
    (within : depth ≤ greatestDepth) : parse? value.json = some value.document := by
  have noBlank := (beginsValue_json floatless).skipGap_append []
  have read := readValue?_json (floatless.mono within) (Nat.lt_succ_self value.json.length)
    [] (fun _ first => absurd first (by simp))
  rw [List.append_nil] at noBlank read
  rw [parse?, noBlank, read]
  rfl

end Json

/-- **What the filter `dump` writes is read back as the same value**: the same kinds of values, the
same characters, and the entries of maps in the same order. -/
theorem dump_reads_back {depth : Nat} (within : depth ≤ Json.greatestDepth) {value : Value}
    (floatless : Floatless depth value) (args : List Value) :
    ∃ text, Filter.applyBuiltin? "dump" value args = some (.ok (.ofText text)) ∧
      (Json.parse? text).map Value.ofJson = some value := by
  refine ⟨value.json, rfl, ?_⟩
  rw [Json.parse?_json floatless within, Option.map_some, Value.ofJson_document floatless]

/-- An empty map and an empty list in a map, the least word, and a text with a quote, a backslash, a
control character and a character of two bytes. -/
theorem dump_of_nested_map :
    ∃ text, Filter.applyBuiltin? "dump" (.map [("z", .map []), ("a", .array [.int Int64.minValue,
        .string "\"\\\x01é", .array [], .null]), ("", .bool true)]) [] =
        some (.ok (.ofText text)) ∧
      (Json.parse? text).map Value.ofJson = some (.map [("z", .map []),
        ("a", .array [.int Int64.minValue, .string "\"\\\x01é", .array [], .null]),
        ("", .bool true)]) := by
  have inner : ∀ item ∈ [Value.int Int64.minValue, .string "\"\\\x01é", .array [], .null],
      Floatless 1 item := by
    simp only [List.mem_cons, List.not_mem_nil, or_false, forall_eq_or_imp, forall_eq]
    exact ⟨.int _, .string _, .array (by simp), .null⟩
  have outer : Floatless 3 (.map [("z", .map []), ("a", .array [.int Int64.minValue,
      .string "\"\\\x01é", .array [], .null]), ("", .bool true)]) := by
    refine .map (by decide) ?_
    simp only [List.mem_cons, List.not_mem_nil, or_false, forall_eq_or_imp, forall_eq]
    exact ⟨.map List.nodup_nil (by simp), .array inner, .bool true⟩
  exact dump_reads_back (by decide) outer []

end TextTemplate
