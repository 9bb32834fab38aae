import RestConnector.Proofs.Name.RoundTrip

/-!
# The plural of a plural, and the singular of a singular

A word that is already a plural is left as it is when it is put into the plural, and it is taken for one if it
is another word in the singular and the plural of that (`pluralOf_eq_self_iff`).  So the plural of a word that
is not misread is its own plural, and a misread one is, too, as long as some word has it as its plural:
*bases* may belong to *base* or to *basis*.  What is left are the few words of `pluralizedAgain`.

Nothing of the kind is done for the singular.  What a rule leaves is its own singular if it ends in a letter
other than s and is no irregular plural (`singularOf_eq_self_iff_of_not_s`), or in *-ss* or *-sis*, and the
rule for *-uses* leaves *-us*, which is read as a plural.  `singularizedAgain` has the words to which the rules
apply twice.
-/

namespace RestConnector.Name

open RestConnector.Text

variable {word : List Char}

/-! ## Plurals -/

/-- Whether the plural of a word is not taken for one: it is listed as a singular in s, or its singular has
another plural, or it ends in *-sis*. -/
def pluralizedAgain (word : List Char) : Bool :=
  isListed (fronts ['s'] singularsInS ++ ["fishe", "indexe", "matrixe", "oxe"]) word ||
    endsIn ["si", "aie", "eie", "iie", "oie", "uie"] word

/-- A plural that is put into the plural again is one that is misread. -/
lemma isMisread_of_pluralizedAgain (h : pluralizedAgain word) : isMisread word := by
  rcases Bool.or_eq_true_iff.1 h with h | h
  · exact of_isListed h (by decide)
  · have hknown : isListed knownSingulars word = false := not_isListed_of_endsIn h (by decide)
    have hs : endsIn sibilants word = false := not_endsIn_of_endsIn _ h (by decide)
    have hreads : readsOtherwise word := by
      rcases Bool.or_eq_true_iff.1 ((endsIn_append_list ["si"] _ word).symm.trans h) with hsi | hie
      · simp [readsOtherwise, endsIn_mono ["s", "si"] hsi (by decide)]
      · have hlength : 2 < word.length := le_length_of_endsIn hie (by decide)
        simp [readsOtherwise, endsIn_mono ["ie"] hie (by decide), hlength]
    simp [isMisread, hknown, hs, hreads]

lemma pluralOf_of_pluralizedAgain (h : pluralizedAgain word) : pluralOf word = word ++ ['s'] := by
  rcases Bool.or_eq_true_iff.1 h with h | h
  · exact of_isListed h (by decide)
  · have hsingular : singularOf word = word :=
      singularOf_of_not_s (not_endsIn_of_endsIn _ h (by decide)) (not_isListed_of_endsIn h (by decide))
    have hy : endsInConsonantY word = false := not_endsInConsonantY (not_endsIn_of_endsIn _ h (by decide))
    rw [pluralOf_of_singular hsingular,
      pluralOfSingular_s (not_isListed_of_endsIn h (by decide)) hy (not_endsIn_of_endsIn _ h (by decide))
        (not_endsIn_of_endsIn _ h (by decide))]

lemma pluralOfSingular_y_of_vowel {front : List Char} (h : endsIn vowels front) :
    pluralOfSingular (front ++ "y".toList) ≠ front ++ "ies".toList := by
  by_cases hknown : isListed knownSingulars (front ++ "y".toList)
  · rw [isListed_append] at hknown
    exact of_isListed hknown (by decide)
  · rw [Bool.not_eq_true] at hknown
    have hy : endsInConsonantY (front ++ "y".toList) = false :=
      (endsInConsonantY_append front).trans (by simp [h])
    rw [pluralOfSingular_s hknown hy (not_endsIn_append _ (by decide))
      (not_endsIn_append _ (by decide))]
    simp

/-- A plural in s to which another rule applies before the s is dropped is still taken for a plural if the word
that the rule gives has this plural. -/
lemma pluralOf_append_s_iff (hne : word ≠ []) (hlisted : isListed listedFronts word = false)
    (hs : endsIn sibilants word = false) (hreads : readsOtherwise word) :
    pluralOf (word ++ ['s']) = word ++ ['s'] ↔ pluralizedAgain word = false := by
  have hplurals : isListed listedPlurals (word ++ ['s']) = false := by
    rw [isListed_append, not_isListed_of_not (isListed listedFronts) hlisted (by decide)]
  rw [pluralOf_eq_self_iff hplurals]
  have hrule := singularByRule hne hlisted
  generalize singularOf (word ++ ['s']) = singular at hrule ⊢
  cases hrule with
  | sis stem h => exact of_isListed h (by decide)
  | y front h =>
    rw [pluralizedAgain, not_isListed_append (by decide), Bool.false_or,
      endsIn_append_eq _ vowels (by decide)]
    by_cases hvowel : endsIn vowels front
    · have hother : pluralOfSingular (front ++ "y".toList) ≠ front ++ "ies".toList :=
        pluralOfSingular_y_of_vowel hvowel
      exact iff_of_false (fun hown => hother (by simpa using hown.2)) (by simp [hvowel])
    · rw [Bool.not_eq_true] at hvowel
      rw [pluralOfSingular_y h hvowel]
      exact iff_of_true (by simp) hvowel
  | f front h =>
    rw [pluralOfSingular_f h, pluralizedAgain, not_isListed_append (by decide),
      not_endsIn_append _ (by decide)]
    simp
  | fe front h =>
    rw [pluralOfSingular_fe h, pluralizedAgain, not_isListed_append (by decide),
      not_endsIn_append _ (by decide)]
    simp
  | oes noun h => exact of_isListed h (by decide)
  | es _ h =>
    by_cases hknown : isListed knownSingulars singular
    · have hboth : endsIn hisses singular →
          (singular ≠ singular ++ "e".toList ++ ['s'] ∧
              pluralOfSingular singular = singular ++ "e".toList ++ ['s'] ↔
            pluralizedAgain (singular ++ "e".toList) = false) := of_isListed hknown (by decide)
      exact hboth h
    · rw [Bool.not_eq_true] at hknown
      have hlisted : isListed (fronts ['s'] singularsInS ++ ["fishe", "indexe", "matrixe", "oxe"])
          (singular ++ "e".toList) = false := by
        rw [isListed_append, not_isListed_of_not (isListed knownSingulars) hknown (by decide)]
      rw [pluralOfSingular_es hknown (endsIn_mono _ h (by decide)), pluralizedAgain, hlisted,
        endsIn_append_eq _ ["ai", "ei", "ii", "oi", "ui"] (by decide),
        not_endsIn_of_endsIn _ h (by decide)]
      simp
  | same _ h =>
    have hsi : endsIn ["si"] word := by
      rcases Bool.or_eq_true_iff.1 ((endsIn_append_list ["s"] _ word).symm.trans h) with h | h
      · rw [endsIn_mono _ h (by decide)] at hs
        cases hs
      · exact h
    have hagain : pluralizedAgain word := by
      rw [pluralizedAgain, endsIn_mono _ hsi (by decide), Bool.or_true]
    exact iff_of_false (fun hown => hown.1 rfl) (by simp [hagain])
  | plain _ h =>
    rw [hreads] at h
    cases h

/-- Behind a sibilant, even a plural that is misread is read as a plural. -/
lemma pluralOf_append_es (hs : endsIn sibilants word) (hhiss : endsIn hisses word = false)
    (hgoos : word ≠ "goos".toList) : pluralOf (word ++ "es".toList) = word ++ "es".toList := by
  by_cases hstem : isListed (sisStems.map (· ++ "s")) word
  · exact of_isListed hstem (by decide)
  have hsingular : singularOf (word ++ "es".toList) = word ++ "e".toList := by
    rw [singularOf_es hs, if_neg hstem, hhiss]
    rfl
  have hknown : isListed knownSingulars (word ++ "e".toList) = false := by
    rw [isListed_append, Bool.eq_false_iff]
    intro hlisted
    have hother : endsIn sibilants word → endsIn hisses word = false → word = "goos".toList :=
      of_isListed hlisted (by decide)
    exact hgoos (hother hs hhiss)
  have hplural : pluralOfSingular (word ++ "e".toList) = word ++ "es".toList := by
    rw [pluralOfSingular_s hknown (not_endsInConsonantY (not_endsIn_append _ (by decide)))
      (not_endsIn_append _ (by decide))]
    · simp
    · rw [endsIn_append_eq _ ["f"] (by decide)]
      exact not_endsIn_of_endsIn _ hs (by decide)
  refine pluralOf_eq_self ?_ ?_
  · rw [hsingular]
    simp
  · rw [hsingular, hplural]

/-- A plural that is read back as the plural of its word is taken for a plural. -/
lemma pluralOf_pluralOfSingular (hne : word ≠ []) (hself : pluralOfSingular word ≠ word)
    (hread : isMisread word = false) : pluralOf (pluralOfSingular word) = pluralOfSingular word := by
  have hback : singularOf (pluralOfSingular word) = word := (singularOf_pluralOfSingular_iff hne).2 hread
  refine pluralOf_eq_self ?_ ?_
  · rw [hback]
    exact hself.symm
  · rw [hback]

lemma pluralOf_pluralOfSingular_iff_of_isMisread (hne : word ≠ []) (hmisread : isMisread word)
    (hgoos : word ≠ "goos".toList) :
    pluralOf (pluralOfSingular word) = pluralOfSingular word ↔ pluralizedAgain word = false := by
  rw [isMisread, Bool.and_eq_true, Bool.not_eq_true'] at hmisread
  obtain ⟨hknown, hends⟩ := hmisread
  by_cases hlisted : isListed lookedUp word
  · have hunknown : isListed knownSingulars word = false →
        (pluralOf (pluralOfSingular word) = pluralOfSingular word ↔ pluralizedAgain word = false) :=
      of_isListed hlisted (by decide)
    exact hunknown hknown
  rw [Bool.not_eq_true] at hlisted
  rw [hlisted, Bool.false_or] at hends
  by_cases hs : endsIn sibilants word
  · rw [if_pos hs, Bool.not_eq_true'] at hends
    rw [pluralOfSingular_es hknown hs]
    refine iff_of_true (pluralOf_append_es hs hends hgoos) ?_
    rw [pluralizedAgain, not_isListed_of_endsIn hs (by decide), not_endsIn_of_endsIn _ hs (by decide)]
    rfl
  · rw [if_neg hs] at hends
    rw [Bool.not_eq_true] at hs
    have hletters := endsIn_of_readsOtherwise hends
    have hy : endsInConsonantY word = false :=
      not_endsInConsonantY (not_endsIn_of_endsIn _ hletters (by decide))
    rw [lookedUp, isListed_append_list, Bool.or_eq_false_iff] at hlisted
    rw [pluralOfSingular_s hknown hy hs (not_endsIn_of_endsIn _ hletters (by decide)),
      pluralOf_append_s_iff hne hlisted.1 hs hends]

/-- The plural of a word is its own plural, unless the word is among those whose plural is not taken for
one. -/
theorem pluralOf_pluralOf_iff (hne : word ≠ []) :
    pluralOf (pluralOf word) = pluralOf word ↔ pluralizedAgain word = false := by
  by_cases hself : pluralOf word = word
  · refine iff_of_true (by rw [hself, hself]) (Bool.eq_false_iff.2 fun hagain => ?_)
    rw [pluralOf_of_pluralizedAgain hagain] at hself
    simp at hself
  have hgoos : word ≠ "goos".toList := fun he => hself (by rw [he]; decide)
  have hplural := (pluralOf_eq_self_or word).resolve_left hself
  rw [hplural] at hself ⊢
  cases hmisread : isMisread word with
  | true => exact pluralOf_pluralOfSingular_iff_of_isMisread hne hmisread hgoos
  | false =>
    refine iff_of_true (pluralOf_pluralOfSingular hne hself hmisread) (Bool.eq_false_iff.2 fun hagain => ?_)
    rw [isMisread_of_pluralizedAgain hagain] at hmisread
    cases hmisread

/-! ## Singulars -/

/-- The irregular plurals that do not end in s. -/
def pluralsWithoutS : List String :=
  ["children", "feet", "geese", "men", "mice", "oxen", "people", "teeth", "women"]

/-- Whether the singular of a word is read as a plural. -/
def singularizedAgain (word : List Char) : Bool :=
  (endsIn ["uses"] word && !isListed singularsInS (dropEnd 2 word)) ||
    isListed (pluralsWithoutS.map (· ++ "s")) word

/-- A word that does not end in s is its own singular unless it is an irregular plural. -/
lemma singularOf_eq_self_iff_of_not_s (hs : endsIn ["s"] word = false) :
    singularOf word = word ↔ isListed pluralsWithoutS word = false := by
  by_cases hplural : isListed (irregulars.map (·.2)) word
  · have hboth : endsIn ["s"] word = false → isListed pluralsWithoutS word ∧ singularOf word ≠ word :=
      of_isListed hplural (by decide)
    obtain ⟨hlisted, hne⟩ := hboth hs
    exact iff_of_false hne (by simp [hlisted])
  · rw [Bool.not_eq_true] at hplural
    exact iff_of_true (singularOf_of_not_s hs hplural) (not_isListed_of_not _ hplural (by decide))

lemma singularizedAgain_append_s (word : List Char) :
    singularizedAgain (word ++ ['s']) =
      (endsIn ["use"] word && !isListed singularsInS (dropEnd 1 word) || isListed pluralsWithoutS word) := by
  rw [singularizedAgain, dropEnd_append_singleton,
    endsIn_append_eq ["uses"] ["use"] (by decide), isListed_append]
  congr 1

/-- Behind *-us* the s is dropped unless the word is listed. -/
lemma singularOf_us_eq_iff (front : List Char) :
    singularOf (front ++ "us".toList) = front ++ "us".toList ↔
      isListed singularsInS (front ++ "us".toList) := by
  have hword : front ++ "us".toList = front ++ "u".toList ++ ['s'] := by simp
  by_cases hlisted : isListed listedFronts (front ++ "u".toList)
  · rw [isListed_append] at hlisted
    exact of_isListed hlisted (by decide)
  · rw [Bool.not_eq_true] at hlisted
    have hreads : readsOtherwise (front ++ "u".toList) = false :=
      not_readsOtherwise_append (by decide)
    have hsingular : isListed singularsInS (front ++ "us".toList) = false := by
      rw [hword, isListed_append, not_isListed_of_not (isListed listedFronts) hlisted (by decide)]
    rw [hsingular, hword, (singularOf_append_s_eq_iff (by simp) hlisted).2 hreads]
    simp

/-- What is left of *-es* is a singular unless it ends in *-us* and is not listed. -/
lemma singularOf_eq_self_iff_of_hiss (h : endsIn hisses word) :
    singularOf word = word ↔ (endsIn ["us"] word && !isListed singularsInS word) = false := by
  have hcases : endsIn (["ss"] ++ ["sh", "ch", "x", "zz"] ++ ["us"]) word := h
  rw [endsIn_append_list, endsIn_append_list, Bool.or_eq_true, Bool.or_eq_true] at hcases
  rcases hcases with (h | h) | h
  · rw [not_endsIn_of_endsIn _ h (by decide)]
    exact iff_of_true (singularOf_of_ss (endsIn_mono _ h (by decide))) rfl
  · rw [not_endsIn_of_endsIn _ h (by decide)]
    exact iff_of_true
      (singularOf_of_not_s (not_endsIn_of_endsIn _ h (by decide)) (not_isListed_of_endsIn h (by decide))) rfl
  · obtain ⟨front, rfl⟩ := exists_eq_append_of_endsIn h
    rw [h, singularOf_us_eq_iff]
    simp

lemma singularOf_singularOf_append_s_iff (hne : word ≠ []) :
    singularOf (singularOf (word ++ ['s'])) = singularOf (word ++ ['s']) ↔
      singularizedAgain (word ++ ['s']) = false := by
  by_cases hlisted : isListed listedFronts word
  · exact of_isListed hlisted (by decide)
  rw [Bool.not_eq_true] at hlisted
  rw [singularizedAgain_append_s]
  have hrule := singularByRule hne hlisted
  generalize singularOf (word ++ ['s']) = singular at hrule ⊢
  cases hrule with
  | sis stem h => exact of_isListed h (by decide)
  | y front h | f front h | fe front h =>
    rw [singularOf_of_not_s (not_endsIn_append _ (by decide)) (not_isListed_append (by decide)),
      not_endsIn_append _ (by decide), not_isListed_append (by decide)]
    simp
  | oes _ h => exact of_isListed h (by decide)
  | es _ h =>
    have hlisted : isListed pluralsWithoutS (singular ++ "e".toList) = false := by
      rw [isListed_append]
      exact not_isListed_of_endsIn h (by decide)
    rw [singularOf_eq_self_iff_of_hiss h, dropEnd_append (by rfl), hlisted, Bool.or_false,
      endsIn_append_eq _ ["us"] (by decide)]
  | same _ h =>
    rw [singularOf_of_ss ((endsIn_append_eq _ _ (by decide)).trans h),
      not_endsIn_of_endsIn _ h (by decide), not_isListed_of_endsIn h (by decide)]
    simp
  | plain _ h =>
    simp only [readsOtherwise, Bool.or_eq_false_iff] at h
    have hs : endsIn ["s"] word = false := not_endsIn_mono ["s"] h.2 (by decide)
    rw [not_endsIn_mono ["use"] h.1.2 (by decide), Bool.false_and, Bool.false_or]
    exact singularOf_eq_self_iff_of_not_s hs

/-- The singular of a word is its own singular, unless the word is among those whose singular is read as a
plural. -/
theorem singularOf_singularOf_iff (hne : word ≠ []) :
    singularOf (singularOf word) = singularOf word ↔ singularizedAgain word = false := by
  by_cases hs : endsIn ["s"] word
  · obtain ⟨front, rfl⟩ := exists_eq_append_of_endsIn hs
    by_cases hempty : front = []
    · subst hempty
      decide
    · exact singularOf_singularOf_append_s_iff hempty
  by_cases hplural : isListed (irregulars.map (·.2)) word
  · exact of_isListed hplural (by decide)
  rw [Bool.not_eq_true] at hs hplural
  have hagain : singularizedAgain word = false := by
    rw [singularizedAgain, not_endsIn_mono ["uses"] hs (by decide), isListed_map_append, hs]
    rfl
  exact iff_of_true (by rw [singularOf_of_not_s hs hplural, singularOf_of_not_s hs hplural]) hagain

end RestConnector.Name
