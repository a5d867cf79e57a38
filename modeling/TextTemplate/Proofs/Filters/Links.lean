/-
**Links to the addresses in a text.**

The filter `urlize` makes a link of each address in a text. The address is written twice, between the
double quotes of an attribute and as the text of the link. It is written as it is, so that a double quote
in it ends the attribute early and what follows is read as more of the opening tag.

* `IsUrl`: addresses, and `finds_urlMatcher`: the matcher finds them;
* `readAddress?`: the address that a reader of markup sees at the front of a link;
* `readAddress?_link_iff`: **it is the address of the link just if that has no double quote**;
* `urlize_links`: **what the filter gives.**
-/

import Mathlib.Data.List.Basic
import TextTemplate.Filter.Builtin
import TextTemplate.Proofs.Matches
import TextTemplate.Proofs.Separators

namespace TextTemplate

open TextTemplate.Filter

/-! ### Addresses -/

/-- **An address**: `http://` or `https://` and at least one more character, none of them blank or `<`. -/
def IsUrl (url : Text) : Prop :=
  ∃ secure path : Text, (secure = [] ∨ secure = ['s']) ∧ path ≠ [] ∧
    (∀ c ∈ path, Text.isBlank c = false ∧ c ≠ '<') ∧
    url = ['h', 't', 't', 'p'] ++ (secure ++ ([':', '/', '/'] ++ path))

theorem continuesUrl_iff {c : Char} : continuesUrl c = true ↔ Text.isBlank c = false ∧ c ≠ '<' := by
  simp [continuesUrl]

/-- An address is one of the beginnings and a path. -/
theorem isUrl_iff {url : Text} :
    IsUrl url ↔ ∃ scheme ∈ urlSchemes, ∃ path, path ≠ [] ∧ (∀ c ∈ path, continuesUrl c = true) ∧
      url = scheme ++ path := by
  constructor
  · rintro ⟨secure, path, rfl | rfl, filled, continues, rfl⟩
    · exact ⟨_, List.mem_cons_of_mem _ (List.mem_cons_self ..), path, filled,
        fun c inside => continuesUrl_iff.mpr (continues c inside), rfl⟩
    · exact ⟨_, List.mem_cons_self .., path, filled,
        fun c inside => continuesUrl_iff.mpr (continues c inside), rfl⟩
  · rintro ⟨scheme, listed, path, filled, continues, rfl⟩
    have continues' : ∀ c ∈ path, Text.isBlank c = false ∧ c ≠ '<' :=
      fun c inside => continuesUrl_iff.mp (continues c inside)
    rcases List.mem_cons.mp listed with rfl | listed
    · exact ⟨['s'], path, .inr rfl, filled, continues', rfl⟩
    · obtain rfl := List.mem_singleton.mp listed
      exact ⟨[], path, .inl rfl, filled, continues', rfl⟩

/-- A text has one beginning only. -/
theorem scheme_unique {scheme scheme' text text' : Text} (listed : scheme ∈ urlSchemes)
    (listed' : scheme' ∈ urlSchemes) (same : scheme ++ text = scheme' ++ text') :
    scheme = scheme' ∧ text = text' := by
  simp only [urlSchemes, List.mem_cons, List.not_mem_nil, or_false] at listed listed'
  rcases listed with rfl | rfl <;> rcases listed' with rfl | rfl <;> simp_all

/-- The matcher takes a beginning and the path behind it, as far as it goes. -/
theorem urlMatcher_eq_some {text url rest : Text} (matched : urlMatcher text = some (url, rest)) :
    ∃ scheme ∈ urlSchemes, ∃ behind, text = scheme ++ behind ∧ behind.takeWhile continuesUrl ≠ [] ∧
      url = scheme ++ behind.takeWhile continuesUrl ∧ rest = behind.dropWhile continuesUrl := by
  obtain ⟨scheme, listed, matched⟩ := List.exists_of_findSome?_eq_some matched
  split at matched
  · rename_i behind found
    split at matched
    · cases matched
    · rename_i path filled
      obtain ⟨rfl, rfl⟩ := Prod.mk.inj (Option.some.inj matched)
      exact ⟨scheme, listed, behind, Text.dropPrefix?_eq_some_iff.mp found, filled, rfl, rfl⟩
  · cases matched

/-- **The matcher finds the addresses of a text.** -/
theorem finds_urlMatcher : Text.Matcher.Finds urlMatcher IsUrl where
  ne_nil := by
    rintro url ⟨secure, path, -, -, -, rfl⟩
    exact List.cons_ne_nil _ _
  taken := by
    intro text url rest matched
    obtain ⟨scheme, listed, behind, rfl, filled, rfl, rfl⟩ := urlMatcher_eq_some matched
    refine ⟨by rw [List.append_assoc, List.takeWhile_append_dropWhile], ?_, ?_⟩
    · exact isUrl_iff.mpr ⟨scheme, listed, _, filled,
        fun c inside => List.all_eq_true.mp List.all_takeWhile c inside, rfl⟩
    · intro url' rest' joined isUrl
      obtain ⟨scheme', listed', path, -, continues, rfl⟩ := isUrl_iff.mp isUrl
      rw [List.append_assoc] at joined
      obtain ⟨rfl, rfl⟩ := scheme_unique listed listed' joined
      rw [List.takeWhile_append_of_pos continues]
      simp only [List.length_append]
      omega
  missing := by
    intro url rest isUrl unmatched
    obtain ⟨scheme, listed, path, filled, continues, rfl⟩ := isUrl_iff.mp isUrl
    have here := List.findSome?_eq_none_iff.mp unmatched scheme listed
    have begun : Text.dropPrefix? scheme (scheme ++ path ++ rest) = some (path ++ rest) := by
      rw [Text.dropPrefix?_eq_some_iff, List.append_assoc]
    rw [begun] at here
    obtain ⟨c, path, rfl⟩ := List.exists_cons_of_ne_nil filled
    have first : continuesUrl c = true := continues c (List.mem_cons_self ..)
    simp [first] at here

/-! ### What a reader of markup sees -/

/-- What the opening tag of a link begins with. -/
def linkOpening : Text := ['<', 'a', ' ', 'h', 'r', 'e', 'f', '=', '"']

/-- **The address that a reader of markup sees** at the front of a link, which goes up to the next double
quote, and what follows that quote. -/
def readAddress? (markup : Text) : Option (Text × Text) :=
  (Text.dropPrefix? linkOpening markup).bind fun text =>
    match text.dropWhile (· != '"') with
    | [] => none
    | _ :: rest => some (text.takeWhile (· != '"'), rest)

/-- An address is read up to the first double quote. -/
theorem readAddress?_eq_some_iff {markup address rest : Text} :
    readAddress? markup = some (address, rest) ↔
      markup = linkOpening ++ (address ++ '"' :: rest) ∧ '"' ∉ address := by
  unfold readAddress?
  rw [Option.bind_eq_some_iff]
  constructor
  · rintro ⟨text, opened, read⟩
    rw [Text.dropPrefix?_eq_some_iff] at opened
    split at read
    · cases read
    · rename_i quote rest' behind
      obtain ⟨rfl, rfl⟩ := Prod.mk.inj (Option.some.inj read)
      obtain ⟨-, whole, clear⟩ := Text.eq_of_dropWhile_ne behind
      exact ⟨by rw [opened, ← whole], clear⟩
  · rintro ⟨rfl, clear⟩
    refine ⟨address ++ '"' :: rest, Text.dropPrefix?_eq_some_iff.mpr rfl, ?_⟩
    simp [Text.takeWhile_ne_append clear, Text.dropWhile_ne_append clear]

/-- **A reader of markup sees the address of a link, and the end of its opening tag behind it**, just if
the address has no double quote. -/
theorem readAddress?_link_iff {url behind : Text} :
    readAddress? (link url ++ behind) = some (url, '>' :: (url ++ ['<', '/', 'a', '>'] ++ behind)) ↔
      '"' ∉ url := by
  rw [readAddress?_eq_some_iff]
  refine ⟨And.right, fun clear => ⟨?_, clear⟩⟩
  simp [link, linkOpening]

/-! ### The filter -/

/-- **What `urlize` gives**, for every value: the text with a link in the place of each address. A reader
of markup sees such a link as it is meant, its address up to the end of the opening tag, just if the
address has no double quote. -/
theorem urlize_links (value : Value) (args : List Value) :
    ∃ (found : List (Text × Text)) (last : Text),
      Text.MatchesIn IsUrl value.text found last ∧ Text.withReplaced id found last = value.text ∧
      applyBuiltin? "urlize" value args = some (.ok (.ofText (Text.withReplaced link found last))) ∧
      ∀ taken ∈ found, IsUrl taken.2 ∧ ∀ behind,
        readAddress? (link taken.2 ++ behind) =
            some (taken.2, '>' :: (taken.2 ++ ['<', '/', 'a', '>'] ++ behind)) ↔
          '"' ∉ taken.2 := by
  obtain ⟨found, last, urls⟩ := finds_urlMatcher.exists_matchesIn value.text
  refine ⟨found, last, urls, urls.joined, ?_, fun taken member => ⟨urls.isPart taken member, fun behind =>
    readAddress?_link_iff⟩⟩
  show some (Except.ok (Value.ofText (linkUrls value.text))) = _
  rw [linkUrls, finds_urlMatcher.replaceMatches_eq urls]

/-- An address with a double quote in it adds an attribute to the link that is made of it. -/
theorem quote_adds_attribute :
    let url : Text := "http://a\"onmouseover=\"x".toList
    Text.MatchesIn IsUrl url [([], url)] [] ∧ '"' ∈ url ∧
      applyBuiltin? "urlize" (.string "http://a\"onmouseover=\"x") [] =
        some (.ok (.string "<a href=\"http://a\"onmouseover=\"x\">http://a\"onmouseover=\"x</a>")) ∧
      readAddress? (link url) =
        some ("http://a".toList, "onmouseover=\"x\">http://a\"onmouseover=\"x</a>".toList) := by
  intro url
  let path : Text := "a\"onmouseover=\"x".toList
  have continues : path.all continuesUrl = true := by decide
  refine ⟨.whole finds_urlMatcher.ne_nil ?_, by decide, rfl, rfl⟩
  exact ⟨[], path, .inl rfl, List.cons_ne_nil _ _,
    fun c inside => continuesUrl_iff.mp (List.all_eq_true.mp continues c inside), rfl⟩

end TextTemplate
