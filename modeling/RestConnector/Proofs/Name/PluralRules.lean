import RestConnector.Proofs.Name.SingularRules

/-!
# The rules for the plural, read backwards

`PluralByRule` says all that the rules for the plural can make of a word that is taken to be a singular and not
looked up.  Any word is its own plural or the one that these rules give (`pluralOf_eq_self_or`), and it is its
own plural, unless it is looked up, only as the plural of its singular (`pluralOf_eq_self_iff`).
-/

namespace RestConnector.Name

open RestConnector.Text

variable {word : List Char}

/-! ## The rule that is applied -/

/-- The singulars that are looked up, or whose plural is. -/
def knownSingulars : List String :=
  uncountables ++ irregulars.map (·.1) ++ sisStems.map (· ++ "sis") ++ oesWords

def vowels : List String := ["a", "e", "i", "o", "u"]

lemma endsIn_vowels_append (front : List Char) (c : Char) :
    endsIn vowels (front ++ [c]) = ['a', 'e', 'i', 'o', 'u'].contains c := by
  rw [Bool.eq_iff_iff]
  simp [endsIn, vowels, List.isSuffixOf, List.isPrefixOf, eq_comm (a := c)]

lemma endsInConsonantY_append (front : List Char) :
    endsInConsonantY (front ++ ['y']) = (!front.isEmpty && !endsIn vowels front) := by
  rcases List.eq_nil_or_concat front with rfl | ⟨rest, c, rfl⟩
  · rfl
  · simp [endsInConsonantY, List.concat_eq_append, endsIn_vowels_append]

lemma exists_of_endsInConsonantY (h : endsInConsonantY word) : ∃ front, word = front ++ ['y'] := by
  rw [endsInConsonantY] at h
  split at h
  · next c rest hword =>
    refine ⟨(c :: rest).reverse, ?_⟩
    rw [← List.reverse_cons, ← hword, List.reverse_reverse]
  · cases h

lemma not_endsInConsonantY (h : endsIn ["y"] word = false) : endsInConsonantY word = false := by
  refine Bool.eq_false_iff.2 fun hy => ?_
  obtain ⟨front, rfl⟩ := exists_of_endsInConsonantY hy
  rw [endsIn_append_of_back _ (by decide)] at h
  cases h

/-- What the rules on endings make of a word that is taken to be a singular. -/
inductive PluralByRule : List Char → List Char → Prop
  | ies (front : List Char) (hne : front ≠ []) (h : endsIn vowels front = false) :
      PluralByRule (front ++ "y".toList) (front ++ "ies".toList)
  | es (word : List Char) (h : endsIn sibilants word) : PluralByRule word (word ++ "es".toList)
  | f (front : List Char) (h : endsIn ["l"] front) :
      PluralByRule (front ++ "f".toList) (front ++ "ves".toList)
  | fe (front : List Char) (h : endsIn ["kni", "wi", "li"] front) :
      PluralByRule (front ++ "fe".toList) (front ++ "ves".toList)
  | plain (word : List Char) (hy : endsInConsonantY word = false) (hs : endsIn sibilants word = false) :
      PluralByRule word (word ++ ['s'])

lemma pluralOfSingular_of_unknown (h : isListed knownSingulars word = false) :
    pluralOfSingular word =
      if endsInConsonantY word then dropEnd 1 word ++ "ies".toList
      else if endsIn sibilants word then word ++ "es".toList
      else if endsIn ["lf"] word then dropEnd 1 word ++ "ves".toList
      else if endsIn ["knife", "wife", "life"] word then dropEnd 2 word ++ "ves".toList
      else word ++ ['s'] := by
  simp only [knownSingulars, isListed, List.any_append, Bool.or_eq_false_iff] at h
  obtain ⟨⟨⟨huncountable, hirregular⟩, hsis⟩, hoes⟩ := h
  have hsis : (endsIn ["sis"] word && isListed sisStems (dropEnd 3 word)) = false :=
    (isListed_map_append sisStems "sis" word).symm.trans hsis
  have huncountable : isListed uncountables word = false := huncountable
  have hoes : isListed oesWords word = false := hoes
  rw [pluralOfSingular, irregularPlural?_eq_none_iff.2 hirregular, huncountable, hsis, hoes]
  rfl

theorem pluralByRule (h : isListed knownSingulars word = false) :
    PluralByRule word (pluralOfSingular word) := by
  rw [pluralOfSingular_of_unknown h]
  refine iteInduction (fun hy => ?_) fun hy => ?_
  · obtain ⟨front, rfl⟩ := exists_of_endsInConsonantY hy
    rw [endsInConsonantY_append, Bool.and_eq_true, Bool.not_eq_true', Bool.not_eq_true',
      List.isEmpty_eq_false_iff] at hy
    rw [dropEnd_append (by rfl)]
    exact .ies front hy.1 hy.2
  refine iteInduction (fun hs => .es word hs) fun hs => ?_
  refine iteInduction (fun hf => ?_) fun hf => ?_
  · obtain ⟨front, rfl⟩ := exists_eq_append_of_endsIn (endsIn_mono ["f"] hf (by decide))
    rw [endsIn_append_eq _ ["l"] (by decide)] at hf
    rw [dropEnd_append (by rfl)]
    exact .f front hf
  refine iteInduction (fun hfe => ?_) fun hfe => ?_
  · obtain ⟨front, rfl⟩ := exists_eq_append_of_endsIn (endsIn_mono ["fe"] hfe (by decide))
    rw [endsIn_append_eq _ ["kni", "wi", "li"] (by decide)] at hfe
    rw [dropEnd_append (by rfl)]
    exact .fe front hfe
  exact .plain word (Bool.eq_false_iff.2 hy) (Bool.eq_false_iff.2 hs)

lemma pluralOfSingular_y {front : List Char} (hne : front ≠ []) (h : endsIn vowels front = false) :
    pluralOfSingular (front ++ "y".toList) = front ++ "ies".toList := by
  have hknown : isListed knownSingulars (front ++ "y".toList) = false := by
    rw [isListed_append, not_isListed_of_not (endsIn vowels) h (by decide)]
  have hy : endsInConsonantY (front ++ "y".toList) :=
    (endsInConsonantY_append front).trans (by simp [h, hne])
  rw [pluralOfSingular_of_unknown hknown, if_pos hy, dropEnd_append (by rfl)]

lemma pluralOfSingular_es (hknown : isListed knownSingulars word = false) (h : endsIn sibilants word) :
    pluralOfSingular word = word ++ "es".toList := by
  have hy : endsInConsonantY word = false := not_endsInConsonantY (not_endsIn_of_endsIn _ h (by decide))
  rw [pluralOfSingular_of_unknown hknown, hy, h]
  rfl

lemma pluralOfSingular_f {front : List Char} (h : endsIn ["l"] front) :
    pluralOfSingular (front ++ "f".toList) = front ++ "ves".toList := by
  have hy : endsInConsonantY (front ++ "f".toList) = false :=
    not_endsInConsonantY (not_endsIn_append _ (by decide))
  rw [pluralOfSingular_of_unknown (not_isListed_append (by decide)), hy,
    not_endsIn_append sibilants (by decide),
    endsIn_append_eq ["lf"] ["l"] (by decide), h, dropEnd_append (by rfl)]
  rfl

lemma pluralOfSingular_fe {front : List Char} (h : endsIn ["kni", "wi", "li"] front) :
    pluralOfSingular (front ++ "fe".toList) = front ++ "ves".toList := by
  have hy : endsInConsonantY (front ++ "fe".toList) = false :=
    not_endsInConsonantY (not_endsIn_append _ (by decide))
  rw [pluralOfSingular_of_unknown (not_isListed_append (by decide)), hy,
    not_endsIn_append sibilants (by decide),
    not_endsIn_append ["lf"] (by decide),
    endsIn_append_eq ["knife", "wife", "life"] ["kni", "wi", "li"] (by decide), h, dropEnd_append (n := 2) rfl]
  rfl

lemma pluralOfSingular_s (hknown : isListed knownSingulars word = false)
    (hy : endsInConsonantY word = false) (hs : endsIn sibilants word = false)
    (hf : endsIn ["lf", "fe"] word = false) : pluralOfSingular word = word ++ ['s'] := by
  rw [pluralOfSingular_of_unknown hknown, hy, hs, not_endsIn_mono ["lf"] hf (by decide),
    not_endsIn_mono ["knife", "wife", "life"] hf (by decide)]
  rfl

/-! ## The plural of any word -/

lemma pluralOfSingular_ne_self (h : isListed knownSingulars word = false) :
    pluralOfSingular word ≠ word := by
  have hrule := pluralByRule h
  generalize pluralOfSingular word = plural at hrule ⊢
  cases hrule with
  | ies | es | f | fe | plain => simp

/-- A word that is uncountable or an irregular plural is its own plural. -/
lemma pluralOf_of_listed (h : isListed listedPlurals word) : pluralOf word = word := by
  rw [listedPlurals, isListed_append_list, Bool.or_eq_true] at h
  rw [pluralOf, if_pos]
  rcases h with h | h
  · rw [h, Bool.true_or]
  · rw [Option.isSome_iff_ne_none.2 fun hnone => ?_, Bool.or_true]
    rw [irregularSingular?_eq_none_iff.1 hnone] at h
    cases h

lemma pluralOf_eq_self_or (word : List Char) :
    pluralOf word = word ∨ pluralOf word = pluralOfSingular word := by
  rw [pluralOf]
  split
  · exact .inl rfl
  split
  · next plural hirregular => exact .inr (by rw [pluralOfSingular, hirregular])
  · dsimp only
    split
    · exact .inl rfl
    · exact .inr rfl

/-- A word is its own plural if it is another word in the singular and the plural of that, and there is no
other way for words that are not looked up. -/
lemma pluralOf_eq_self_iff (hlisted : isListed listedPlurals word = false) :
    pluralOf word = word ↔ singularOf word ≠ word ∧ pluralOfSingular (singularOf word) = word := by
  by_cases hknown : isListed knownSingulars word
  · have hboth : isListed listedPlurals word = false → pluralOf word ≠ word ∧ singularOf word = word :=
      of_isListed hknown (by decide)
    obtain ⟨hplural, hsingular⟩ := hboth hlisted
    exact iff_of_false hplural fun h => h.1 hsingular
  · rw [Bool.not_eq_true] at hknown
    have hne := pluralOfSingular_ne_self hknown
    simp only [knownSingulars, listedPlurals, isListed_append_list, Bool.or_eq_false_iff] at hknown hlisted
    rw [pluralOf, irregularSingular?_eq_none_iff.2 hlisted.2, hlisted.1,
      irregularPlural?_eq_none_iff.2 hknown.1.1.2, if_neg (by decide)]
    dsimp only
    split
    · next hown => exact iff_of_true rfl hown
    · next hown => exact iff_of_false hne hown

lemma pluralOf_eq_self (hs : singularOf word ≠ word) (hp : pluralOfSingular (singularOf word) = word) :
    pluralOf word = word := by
  by_cases hlisted : isListed listedPlurals word
  · exact pluralOf_of_listed hlisted
  · exact (pluralOf_eq_self_iff (Bool.eq_false_iff.2 hlisted)).2 ⟨hs, hp⟩

lemma pluralOf_of_singular (h : singularOf word = word) : pluralOf word = pluralOfSingular word := by
  have hplural : irregularSingular? word = none := by
    rw [irregularSingular?_eq_none_iff, Bool.eq_false_iff]
    intro hlisted
    exact of_isListed (p := fun word => singularOf word ≠ word) hlisted (by decide) h
  by_cases huncountable : isListed uncountables word
  · have hsame : pluralOfSingular word = word := of_isListed huncountable (by decide)
    rw [hsame, pluralOf_of_listed (by rw [listedPlurals, isListed_append_list, huncountable, Bool.true_or])]
  · rw [pluralOf, hplural, if_neg (by simpa using huncountable)]
    cases hirregular : irregularPlural? word with
    | some plural => rw [pluralOfSingular, hirregular]
    | none => simp [h]

/-! ## First letter and length -/

lemma head?_append_append {front : List Char} (first second : List Char) (hfront : front ≠ [])
    (hsecond : second ≠ []) :
    (front ++ second).head? = (front ++ first).head? ∧ 1 < (front ++ second).length := by
  rw [List.head?_append_of_ne_nil _ hfront, List.head?_append_of_ne_nil _ hfront, List.length_append]
  have hfirst := List.length_pos_iff.2 hfront
  have hrest := List.length_pos_iff.2 hsecond
  exact ⟨rfl, by omega⟩

/-- The plural of a word begins as the word does, and has more than one letter. -/
lemma head?_pluralOfSingular (hne : word ≠ []) :
    (pluralOfSingular word).head? = word.head? ∧ 1 < (pluralOfSingular word).length := by
  by_cases hknown : isListed knownSingulars word
  · exact of_isListed hknown (by decide)
  have hrule := pluralByRule (Bool.eq_false_iff.2 hknown)
  generalize pluralOfSingular word = plural at hrule ⊢
  cases hrule with
  | ies front hfront h => exact head?_append_append _ _ hfront (by decide)
  | es _ h =>
    have hword := head?_append_append [] "es".toList hne (by decide)
    rwa [List.append_nil] at hword
  | f front h | fe front h => exact head?_append_append _ _ (ne_nil_of_endsIn h (by decide)) (by decide)
  | plain _ hy hs =>
    have hword := head?_append_append [] ['s'] hne (by decide)
    rwa [List.append_nil] at hword

theorem head?_pluralOf (hne : word ≠ []) : (pluralOf word).head? = word.head? := by
  rcases pluralOf_eq_self_or word with h | h
  · rw [h]
  · rw [h]
    exact (head?_pluralOfSingular hne).1

theorem one_lt_length_pluralOf (hne : word ≠ []) : 1 < (pluralOf word).length := by
  rcases pluralOf_eq_self_or word with h | h
  · by_cases hlisted : isListed listedPlurals word
    · exact of_isListed hlisted (by decide)
    · obtain ⟨-, hplural⟩ := (pluralOf_eq_self_iff (Bool.eq_false_iff.2 hlisted)).1 h
      rw [h, ← hplural]
      exact (head?_pluralOfSingular (singularOf_ne_nil hne)).2
  · rw [h]
    exact (head?_pluralOfSingular hne).2

end RestConnector.Name
