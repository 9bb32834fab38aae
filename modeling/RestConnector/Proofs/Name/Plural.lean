import Mathlib.Data.List.Infix
import RestConnector.Proofs.Name.Inflection
import RestConnector.Proofs.Text.Lines

/-!
# Words in singular and plural

Every rule on singular and plural leaves a word as it is, takes another word from a list in its place, or
drops a few characters at its end and writes a few small letters behind the rest (`singularOf_cases`,
`pluralOfSingular_cases`, `pluralOf_cases`).  All that is said here of the forms of a word is read off these
cases: that they are in small letters if the word is (`isLower_pluralOf`), how far they differ in
length (`length_singularOf_le`), and how a plural ends (`exists_suffix_pluralOf`).

`pluralize` and `singularize` apply the rules to the last word of a name.  Its word characters are counted
by `wordLength`, which does not depend on the style that the name is written in (`wordLength_snakeCase`).
-/

namespace RestConnector.Name

open RestConnector.Text

/-! ## Rules -/

/-- How many characters a rule for the singular drops at the end of a word, and what it writes there. -/
def singularEndings : List (Nat × String) :=
  [(3, "sis"), (3, "y"), (3, "f"), (3, "fe"), (2, ""), (1, "")]

/-- How many characters a rule for the plural drops at the end of a word, and what it writes there. -/
def pluralEndings : List (Nat × String) :=
  [(3, "ses"), (1, "ies"), (0, "es"), (1, "ves"), (2, "ves"), (0, "s")]

/-- The words that are known to be plurals, or to have no plural of their own. -/
def listedPlurals : List String :=
  uncountables ++ irregulars.map (·.2)

/-- Whether a word becomes another by a change of its ending. -/
def ChangesBy (endings : List (Nat × String)) (word result : List Char) : Prop :=
  ∃ change ∈ endings, change.1 ≤ word.length ∧ result = dropEnd change.1 word ++ change.2.toList

variable {word : List Char}

lemma isListed_iff {list : List String} :
    isListed list word ↔ ∃ entry ∈ list, entry.toList = word := by
  simp [isListed]

lemma endsIn_iff {endings : List String} :
    endsIn endings word ↔ ∃ ending ∈ endings, ending.toList <:+ word := by
  simp [endsIn, List.isSuffixOf_iff_suffix]

lemma exists_of_irregularPlural? {plural : List Char} (h : irregularPlural? word = some plural) :
    ∃ pair ∈ irregulars, pair.1.toList = word ∧ plural = pair.2.toList := by
  obtain ⟨pair, hfind, rfl⟩ := Option.map_eq_some_iff.1 h
  exact ⟨pair, List.mem_of_find?_eq_some hfind, by simpa using List.find?_some hfind, rfl⟩

lemma exists_of_irregularSingular? {singular : List Char}
    (h : irregularSingular? word = some singular) :
    ∃ pair ∈ irregulars, pair.2.toList = word ∧ singular = pair.1.toList := by
  obtain ⟨pair, hfind, rfl⟩ := Option.map_eq_some_iff.1 h
  exact ⟨pair, List.mem_of_find?_eq_some hfind, by simpa using List.find?_some hfind, rfl⟩

/-- A word is at least as long as what it ends in. -/
lemma le_length_of_endsIn {endings : List String} {n : Nat} (h : endsIn endings word)
    (hn : ∀ ending ∈ endings, n ≤ ending.toList.length) : n ≤ word.length := by
  obtain ⟨ending, hm, hsuffix⟩ := endsIn_iff.1 h
  exact (hn ending hm).trans hsuffix.length_le

lemma ChangesBy.of_mem {endings : List (Nat × String)} (drop : Nat) (ending : String)
    (hm : (drop, ending) ∈ endings) (hlength : drop ≤ word.length) :
    ChangesBy endings word (dropEnd drop word ++ ending.toList) :=
  ⟨(drop, ending), hm, hlength, rfl⟩

/-- A rule that only drops characters writes nothing behind the rest. -/
lemma ChangesBy.of_drop {endings : List (Nat × String)} (drop : Nat) (hm : (drop, "") ∈ endings)
    (hlength : drop ≤ word.length) : ChangesBy endings word (dropEnd drop word) :=
  ⟨(drop, ""), hm, hlength, (List.append_nil _).symm⟩

/-- A rule that only writes characters drops none. -/
lemma ChangesBy.of_append {endings : List (Nat × String)} (ending : String)
    (hm : (0, ending) ∈ endings) : ChangesBy endings word (word ++ ending.toList) := by
  have hwhole : word = dropEnd 0 word := by simp [dropEnd]
  exact ⟨(0, ending), hm, Nat.zero_le _, congrArg (· ++ _) hwhole⟩

/-! ## The cases of the rules -/

/-- What the singular of a word can be: the word, the other half of an irregular pair, or the word with
another ending. -/
def IsSingularForm (word result : List Char) : Prop :=
  result = word ∨
    (∃ pair ∈ irregulars, pair.2.toList = word ∧ result = pair.1.toList) ∨
    ChangesBy singularEndings word result

theorem singularOf_cases (word : List Char) : IsSingularForm word (singularOf word) := by
  unfold singularOf
  refine iteInduction (fun _ => .inl rfl) fun _ => ?_
  cases hirregular : irregularSingular? word with
  | some singular =>
    obtain ⟨pair, hm, hplural, rfl⟩ := exists_of_irregularSingular? hirregular
    exact .inr (.inl ⟨pair, hm, hplural, rfl⟩)
  | none =>
    -- The rules on endings, in their order; each but the seventh and the last changes the ending.
    refine iteInduction (fun h => .inr (.inr ?_)) fun _ => ?_
    · exact .of_mem 3 "sis" (by decide) (le_length_of_endsIn (Bool.and_eq_true_iff.1 h).1 (by decide))
    refine iteInduction (fun h => .inr (.inr ?_)) fun _ => ?_
    · exact .of_mem 3 "y" (by decide) (le_length_of_endsIn (Bool.and_eq_true_iff.1 h).2 (by decide))
    refine iteInduction (fun h => .inr (.inr ?_)) fun _ => ?_
    · exact .of_mem 3 "f" (by decide) (le_length_of_endsIn h (by decide))
    refine iteInduction (fun h => .inr (.inr ?_)) fun _ => ?_
    · exact .of_mem 3 "fe" (by decide) (le_length_of_endsIn h (by decide))
    refine iteInduction (fun h => .inr (.inr ?_)) fun _ => ?_
    · exact .of_drop 2 (by decide) (le_length_of_endsIn (Bool.and_eq_true_iff.1 h).1 (by decide))
    refine iteInduction (fun h => .inr (.inr ?_)) fun _ => ?_
    · exact .of_drop 2 (by decide) (le_length_of_endsIn h (by decide))
    refine iteInduction (fun _ => .inl rfl) fun _ => ?_
    refine iteInduction (fun h => .inr (.inr ?_)) fun _ => .inl rfl
    · exact .of_drop 1 (by decide) (le_length_of_endsIn (Bool.and_eq_true_iff.1 h).2 (by decide))

lemma length_of_endsInConsonantY (h : endsInConsonantY word) : 1 ≤ word.length := by
  rw [Nat.one_le_iff_ne_zero]
  intro hzero
  rw [List.length_eq_zero_iff.1 hzero] at h
  cases h

/-- What the plural of a singular can be: the word itself if it is uncountable, the other half of an
irregular pair, or the word with another ending. -/
def IsPluralForm (word result : List Char) : Prop :=
  (∃ noun ∈ uncountables, noun.toList = word ∧ result = word) ∨
    (∃ pair ∈ irregulars, pair.1.toList = word ∧ result = pair.2.toList) ∨
    ChangesBy pluralEndings word result

theorem pluralOfSingular_cases (word : List Char) : IsPluralForm word (pluralOfSingular word) := by
  unfold pluralOfSingular
  cases hirregular : irregularPlural? word with
  | some plural =>
    obtain ⟨pair, hm, hsingular, rfl⟩ := exists_of_irregularPlural? hirregular
    exact .inr (.inl ⟨pair, hm, hsingular, rfl⟩)
  | none =>
    refine iteInduction (fun h => ?_) fun _ => ?_
    · obtain ⟨noun, hm, hnoun⟩ := isListed_iff.1 h
      exact .inl ⟨noun, hm, hnoun, rfl⟩
    refine iteInduction (fun h => .inr (.inr ?_)) fun _ => ?_
    · exact .of_mem 3 "ses" (by decide) (le_length_of_endsIn (Bool.and_eq_true_iff.1 h).1 (by decide))
    refine iteInduction (fun h => .inr (.inr ?_)) fun _ => ?_
    · exact .of_mem 1 "ies" (by decide) (length_of_endsInConsonantY h)
    refine iteInduction (fun _ => .inr (.inr (.of_append "es" (by decide)))) fun _ => ?_
    refine iteInduction (fun _ => .inr (.inr (.of_append "es" (by decide)))) fun _ => ?_
    refine iteInduction (fun h => .inr (.inr ?_)) fun _ => ?_
    · exact .of_mem 1 "ves" (by decide) (le_length_of_endsIn h (by decide))
    refine iteInduction (fun h => .inr (.inr ?_)) fun _ => ?_
    · exact .of_mem 2 "ves" (by decide) (le_length_of_endsIn h (by decide))
    exact .inr (.inr (.of_append "s" (by decide)))

/-- The plural of a word is the word if it is listed as one, its irregular plural, or what the rules give
for the word or its singular. -/
theorem pluralOf_cases (word : List Char) :
    (∃ noun ∈ listedPlurals, noun.toList = word ∧ pluralOf word = word) ∨
      (∃ pair ∈ irregulars, pair.1.toList = word ∧ pluralOf word = pair.2.toList) ∨
      ∃ singular ∈ [word, singularOf word], pluralOf word = pluralOfSingular singular := by
  rw [pluralOf]
  split
  · next h =>
    rw [Bool.or_eq_true, Option.isSome_iff_exists] at h
    rcases h with h | ⟨singular, h⟩
    · obtain ⟨noun, hm, hnoun⟩ := isListed_iff.1 h
      exact .inl ⟨noun, List.mem_append_left _ hm, hnoun, rfl⟩
    · obtain ⟨pair, hm, hplural, -⟩ := exists_of_irregularSingular? h
      exact .inl ⟨pair.2, List.mem_append_right _ (List.mem_map_of_mem hm), hplural, rfl⟩
  split
  · next plural hplural =>
    obtain ⟨pair, hm, hsingular, rfl⟩ := exists_of_irregularPlural? hplural
    exact .inr (.inl ⟨pair, hm, hsingular, rfl⟩)
  · dsimp only
    split
    · next h => exact .inr (.inr ⟨_, by simp, h.2.symm⟩)
    · exact .inr (.inr ⟨word, by simp, rfl⟩)

/-! ## Characters -/

/-- All listed words are in small letters. -/
lemma isLower_irregulars : ∀ pair ∈ irregulars,
    (∀ c ∈ pair.1.toList, c.isLower) ∧ ∀ c ∈ pair.2.toList, c.isLower := by decide

lemma ChangesBy.isLower {endings : List (Nat × String)} {result : List Char}
    (h : ChangesBy endings word result)
    (hendings : ∀ change ∈ endings, ∀ c ∈ change.2.toList, c.isLower)
    (hword : ∀ c ∈ word, c.isLower) : ∀ c ∈ result, c.isLower := by
  obtain ⟨change, hm, -, rfl⟩ := h
  refine List.forall_mem_append.2 ⟨fun c hc => ?_, hendings change hm⟩
  exact hword c (List.mem_of_mem_take hc)

/-- The singular of a word in small letters is in small letters. -/
lemma isLower_singularOf (hword : ∀ c ∈ word, c.isLower) : ∀ c ∈ singularOf word, c.isLower := by
  rcases singularOf_cases word with h | ⟨pair, hm, -, h⟩ | h
  · rwa [h]
  · rw [h]
    exact (isLower_irregulars pair hm).1
  · exact h.isLower (by decide) hword

lemma isLower_pluralOfSingular (hword : ∀ c ∈ word, c.isLower) :
    ∀ c ∈ pluralOfSingular word, c.isLower := by
  rcases pluralOfSingular_cases word with ⟨noun, -, -, h⟩ | ⟨pair, hm, -, h⟩ | h
  · rwa [h]
  · rw [h]
    exact (isLower_irregulars pair hm).2
  · exact h.isLower (by decide) hword

/-- The plural of a word in small letters is in small letters. -/
lemma isLower_pluralOf (hword : ∀ c ∈ word, c.isLower) : ∀ c ∈ pluralOf word, c.isLower := by
  rcases pluralOf_cases word with ⟨noun, -, -, h⟩ | ⟨pair, hm, -, h⟩ | ⟨singular, hm, h⟩
  · rwa [h]
  · rw [h]
    exact (isLower_irregulars pair hm).2
  · have hsingular : ∀ c ∈ singular, c.isLower := by
      rcases List.mem_pair.1 hm with rfl | rfl
      · exact hword
      · exact isLower_singularOf hword
    rw [h]
    exact isLower_pluralOfSingular hsingular

/-! ## Lengths -/

/-- An irregular plural is shorter than its singular by one character at most. -/
lemma length_irregulars : ∀ pair ∈ irregulars,
    pair.1.toList.length ≤ pair.2.toList.length + 1 := by decide

lemma length_dropEnd_append {n : Nat} (h : n ≤ word.length) (ending : List Char) :
    (dropEnd n word ++ ending).length + n = word.length + ending.length := by
  rw [List.length_append, dropEnd, List.length_take]
  omega

lemma length_singularOf_le_length (word : List Char) :
    (singularOf word).length ≤ word.length + 1 := by
  have hendings : ∀ change ∈ singularEndings, change.2.toList.length ≤ change.1 := by decide
  rcases singularOf_cases word with h | ⟨pair, hm, rfl, h⟩ | ⟨change, hm, hlength, h⟩
  · rw [h]
    omega
  · rw [h]
    exact length_irregulars pair hm
  · have hchange := hendings change hm
    have hresult := length_dropEnd_append hlength change.2.toList
    rw [h]
    omega

lemma length_le_length_pluralOfSingular (word : List Char) :
    word.length ≤ (pluralOfSingular word).length + 1 := by
  have hendings : ∀ change ∈ pluralEndings, change.1 ≤ change.2.toList.length := by decide
  rcases pluralOfSingular_cases word with ⟨-, -, -, h⟩ | ⟨pair, hm, rfl, h⟩ | ⟨change, hm, hlength, h⟩
  · rw [h]
    omega
  · rw [h]
    exact length_irregulars pair hm
  · have hchange := hendings change hm
    have hresult := length_dropEnd_append hlength change.2.toList
    rw [h]
    omega

/-- A singular is longer than the plural by two characters at most. -/
theorem length_singularOf_le (word : List Char) :
    (singularOf word).length ≤ (pluralOf word).length + 2 := by
  have hsingular := length_singularOf_le_length word
  rcases pluralOf_cases word with ⟨-, -, -, h⟩ | ⟨pair, hm, rfl, h⟩ | ⟨singular, hm, h⟩
  · rw [h]
    omega
  · have hpair := length_irregulars pair hm
    rw [h]
    omega
  · have hplural := length_le_length_pluralOfSingular singular
    rw [h]
    rcases List.mem_pair.1 hm with rfl | rfl <;> omega

/-! ## Endings -/

/-- A plural ends in s or in a listed word. -/
lemma exists_suffix_pluralOfSingular (word : List Char) :
    ∃ ending ∈ "s" :: listedPlurals, ending.toList <:+ pluralOfSingular word := by
  have hendings : ∀ change ∈ pluralEndings, "s".toList <:+ change.2.toList := by decide
  rcases pluralOfSingular_cases word with ⟨noun, hm, rfl, h⟩ | ⟨pair, hm, -, h⟩ | ⟨change, hm, -, h⟩
  · refine ⟨noun, List.mem_cons_of_mem _ (List.mem_append_left _ hm), ?_⟩
    rw [h]
  · refine ⟨pair.2, List.mem_cons_of_mem _ (List.mem_append_right _ (List.mem_map_of_mem hm)), ?_⟩
    rw [h]
  · refine ⟨"s", List.mem_cons_self, ?_⟩
    rw [h]
    exact (hendings change hm).trans (List.suffix_append _ _)

theorem exists_suffix_pluralOf (word : List Char) :
    ∃ ending ∈ "s" :: listedPlurals, ending.toList <:+ pluralOf word := by
  rcases pluralOf_cases word with ⟨noun, hm, rfl, h⟩ | ⟨pair, hm, -, h⟩ | ⟨singular, -, h⟩
  · refine ⟨noun, List.mem_cons_of_mem _ hm, ?_⟩
    rw [h]
  · refine ⟨pair.2, List.mem_cons_of_mem _ (List.mem_append_right _ (List.mem_map_of_mem hm)), ?_⟩
    rw [h]
  · rw [h]
    exact exists_suffix_pluralOfSingular _

/-! ## The last word -/

lemma lastWord?_eq_none_iff {cs : List Char} :
    lastWord? cs = none ↔ ∀ c ∈ cs, isWordChar c = false := by
  induction cs with
  | nil => simp [lastWord?]
  | cons c cs ih =>
    rw [List.forall_mem_cons, ← ih, lastWord?]
    cases lastWord? cs with
    | none => simp
    | some found => simp [ite_eq_iff]

/-- Characters that join are of one kind. -/
lemma letters_or_decimals_of_joins {c d : Char} {rest : List Char} (h : joins c (d :: rest)) :
    (IsLetter c ∧ IsLetter d) ∨ (isDecimal c ∧ isDecimal d) := by
  simp only [joins, Bool.or_eq_true, Bool.and_eq_true] at h
  rcases h with ((⟨hc, hd⟩ | ⟨hc, hd⟩) | ⟨⟨hc, hd⟩, -⟩) | h
  · exact .inl ⟨.inr hc, .inr hd⟩
  · exact .inl ⟨.inl hc, .inr hd⟩
  · exact .inl ⟨.inl hc, .inl hd⟩
  · exact .inr h

/-- A character that joins a word is of its kind. -/
lemma kind_cons_of_joins {c d : Char} {word rest : List Char} (h : joins c (d :: rest))
    (hkind : (∀ e ∈ d :: word, IsLetter e) ∨ ∀ e ∈ d :: word, isDecimal e) :
    (∀ e ∈ c :: d :: word, IsLetter e) ∨ ∀ e ∈ c :: d :: word, isDecimal e := by
  rcases letters_or_decimals_of_joins h with ⟨hc, hd⟩ | ⟨hc, hd⟩
  · have hletters := hkind.resolve_right fun hdecimals => by
      have := hd.not_isDecimal
      rw [hdecimals d List.mem_cons_self] at this
      cases this
    exact .inl (List.forall_mem_cons.2 ⟨hc, hletters⟩)
  · have hdecimals := hkind.resolve_left fun hletters => by
      have := (hletters d List.mem_cons_self).not_isDecimal
      rw [hd] at this
      cases this
    exact .inr (List.forall_mem_cons.2 ⟨hc, hdecimals⟩)

/-- The last word of a text consists of letters or is a number, and no other word comes behind it. -/
structure Located.IsLast (found : Located) : Prop where
  ne_nil : found.word ≠ []
  kind : (∀ c ∈ found.word, IsLetter c) ∨ ∀ c ∈ found.word, isDecimal c
  behind : ∀ c ∈ found.behind, isWordChar c = false

lemma isLast_of_lastWord? {cs : List Char} {found : Located} (h : lastWord? cs = some found) :
    found.IsLast := by
  induction cs generalizing found with
  | nil => cases h
  | cons c cs ih =>
    rw [lastWord?] at h
    split at h
    · next inner hinner =>
      obtain ⟨hne, hkind, hbehind⟩ := ih hinner
      split at h
      · next hjoins =>
        obtain rfl := Option.some.inj h
        simp only [Bool.and_eq_true, List.isEmpty_iff] at hjoins
        obtain ⟨d, word, hword⟩ := List.exists_cons_of_ne_nil hne
        -- What the character joins is the first one of the word found behind it.
        have htext := text_of_lastWord? hinner
        rw [Located.text, hjoins.1.1, hword] at htext
        have hpair := hjoins.2
        rw [← htext] at hpair
        refine ⟨List.cons_ne_nil _ _, ?_, hbehind⟩
        rw [hword] at hkind ⊢
        exact kind_cons_of_joins hpair hkind
      · obtain rfl := Option.some.inj h
        exact ⟨hne, hkind, hbehind⟩
    · next hnone =>
      split at h
      · next hword =>
        obtain rfl := Option.some.inj h
        refine ⟨List.cons_ne_nil _ _, ?_, lastWord?_eq_none_iff.1 hnone⟩
        rw [List.forall_mem_singleton, List.forall_mem_singleton]
        exact isWordChar_iff.1 hword
      · cases h

/-- What a rule makes of the last word of a text. -/
def Located.reworded (found : Located) (rule : List Char → List Char) : Located :=
  { found with word := matchCase found.word (rule (found.word.map Char.toLower)) }

/-- Either every rule leaves a text as it is, or its last word consists of letters and every rule rewords
it. -/
theorem mapLastWord_cases (cs : List Char) :
    (∀ rule, mapLastWord rule cs = cs) ∨
      ∃ found : Located, found.IsLast ∧ found.text = cs ∧ (∀ c ∈ found.word, IsLetter c) ∧
        ∀ rule, mapLastWord rule cs = (found.reworded rule).text := by
  cases h : lastWord? cs with
  | none => exact .inl fun rule => by rw [mapLastWord, h]
  | some found =>
    by_cases hnumber : found.word.all isDigit
    · exact .inl fun rule => by rw [mapLastWord, h]; exact if_pos hnumber
    · have hlast := isLast_of_lastWord? h
      have hletters := hlast.kind.resolve_right fun hdecimals => hnumber <|
        List.all_eq_true.2 fun c hc => by simp [isDigit, hdecimals c hc]
      refine .inr ⟨found, hlast, text_of_lastWord? h, hletters, fun rule => ?_⟩
      rw [mapLastWord, h]
      exact if_neg hnumber

/-- A word of letters in small letters. -/
lemma isLower_map_toLower (h : ∀ c ∈ word, IsLetter c) :
    ∀ c ∈ word.map Char.toLower, c.isLower := by
  rw [List.forall_mem_map]
  intro c hc
  by_cases hu : c.isUpper
  · exact isLower_toLower hu
  · rw [toLower_of_not_isUpper hu]
    exact (h c hc).resolve_left hu

/-! ## Letter case -/

lemma length_matchCase (model result : List Char) :
    (matchCase model result).length = result.length := by
  unfold matchCase
  split
  · exact List.length_map _
  · split
    · cases result <;> simp [capitalize]
    · rfl

lemma forall_mem_capitalize {p : Char → Prop} (hupper : ∀ c, p c → p c.toUpper) {cs : List Char}
    (h : ∀ c ∈ cs, p c) : ∀ c ∈ capitalize cs, p c := by
  cases cs with
  | nil => exact h
  | cons c cs =>
    obtain ⟨hc, hcs⟩ := List.forall_mem_cons.1 h
    exact List.forall_mem_cons.2 ⟨hupper c hc, hcs⟩

lemma forall_mem_matchCase {p : Char → Prop} (hupper : ∀ c, p c → p c.toUpper)
    {model result : List Char} (h : ∀ c ∈ result, p c) : ∀ c ∈ matchCase model result, p c := by
  unfold matchCase
  split
  · exact List.forall_mem_map.2 fun c hc => hupper c (h c hc)
  · split
    · exact forall_mem_capitalize hupper h
    · exact h

/-! ## Word characters -/

/-- The number of word characters in a name. -/
def wordLength (name : String) : Nat :=
  name.toList.countP isWordChar

lemma wordLength_append (front rest : String) :
    wordLength (front ++ rest) = wordLength front + wordLength rest := by
  rw [wordLength, String.toList_append, List.countP_append, wordLength, wordLength]

lemma countP_intercalate {p : Char → Bool} {separator : Char} (h : ¬ p separator)
    (pieces : List (List Char)) :
    ([separator].intercalate pieces).countP p = pieces.flatten.countP p := by
  induction pieces with
  | nil => rfl
  | cons piece rest ih =>
    cases rest with
    | nil => simp
    | cons next rest =>
      rw [List.intercalate_cons_cons, List.countP_append, List.countP_append, ih,
        List.countP_singleton, if_neg h, List.flatten_cons (l := piece), List.countP_append,
        Nat.add_zero]

/-- Snake case keeps all word characters of a name and adds none. -/
theorem wordLength_snakeCase (name : String) : wordLength (snakeCase name) = wordLength name := by
  have hword : ∀ c ∈ (name.toList.filter isWordChar).map Char.toLower, isWordChar c := by
    rw [List.forall_mem_map]
    exact fun c hc => isWordChar_toLower (List.mem_filter.1 hc).2
  rw [wordLength, wordLength, toList_snakeCase, countP_intercalate (by decide),
    flatten_foldedWords, List.countP_eq_length.2 hword, List.length_map,
    List.countP_eq_length_filter]

/-- A name in the singular has at most two word characters more than in the plural. -/
theorem wordLength_singularize_le (name : String) :
    wordLength (singularize name) ≤ wordLength (pluralize name) + 2 := by
  rw [wordLength, wordLength, singularize, pluralize, toList_onChars, toList_onChars]
  rcases mapLastWord_cases name.toList with h | ⟨found, -, -, hletters, h⟩
  · rw [h, h]
    omega
  · have hplural : ∀ c ∈ pluralOf (found.word.map Char.toLower), isWordChar c := fun c hc =>
      isWordChar_iff.2 (.inl (.inr (isLower_pluralOf (isLower_map_toLower hletters) c hc)))
    have hmatched : ∀ c ∈ matchCase found.word (pluralOf (found.word.map Char.toLower)),
        isWordChar c :=
      forall_mem_matchCase (p := (isWordChar ·)) (fun _ => isWordChar_toUpper) hplural
    have hsingular : (matchCase found.word (singularOf (found.word.map Char.toLower))).countP
        isWordChar ≤ (singularOf (found.word.map Char.toLower)).length := by
      rw [← length_matchCase found.word]
      exact List.countP_le_length
    have hlength := length_singularOf_le (found.word.map Char.toLower)
    rw [h, h]
    simp only [Located.text, Located.reworded, List.countP_append]
    rw [List.countP_eq_length.2 hmatched, length_matchCase]
    omega

end RestConnector.Name
