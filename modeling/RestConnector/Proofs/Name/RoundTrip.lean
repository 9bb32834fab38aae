import RestConnector.Proofs.Name.LastWord
import RestConnector.Proofs.Name.PluralRules

/-!
# Singulars read back from their plurals

The two lists of rules were written side by side, but the rules for the singular are tried in an order of
their own, and the first that fits decides.  So a plural may be read as the plural of another word: *bases* as
that of *basis*, *caches* as that of *cach*, *ties* as that of *ty*.  And the words that are listed as singulars
in s are not known in the plural: *lenses* is read as the plural of *lense*.

`isMisread` collects the words to which this happens.  Only closed lists and the end of a word decide, and the
letters in front do not matter (`singularOf_pluralOfSingular_iff`).  What holds for words is carried over to
names in any letter case, of which the last word is put into the plural and back (`singularize_pluralize_iff`).
-/

namespace RestConnector.Name

open RestConnector.Text

variable {word : List Char}

/-! ## Words -/

/-- The words whose plural by the rules is looked up: it is listed as a singular or uncountable, or as the
plural of another word. -/
def lookedUp : List String :=
  listedFronts ++ (fronts "ies".toList (uncountables ++ singularsInS ++ irregulars.map (·.2))).map (· ++ "y")

/-- Whether the plural of a word is read as the plural of another word, or as a singular.  Of the plurals in
*-es* behind a sibilant, those are read well for which the rules for the singular drop *-es*; of those in s,
the ones to which no rule applies before the s is dropped. -/
def isMisread (word : List Char) : Bool :=
  !isListed knownSingulars word &&
    (isListed lookedUp word ||
      if endsIn sibilants word then !endsIn hisses word else readsOtherwise word)

lemma isListed_lookedUp_y (front : List Char) :
    isListed lookedUp (front ++ "y".toList) = isListed listedFronts (front ++ "ie".toList) := by
  have hfronts : fronts "y".toList lookedUp = fronts "ie".toList listedFronts := by decide
  rw [isListed_append, isListed_append, hfronts]

lemma singularOf_es_eq_iff (h : endsIn sibilants word) :
    singularOf (word ++ "es".toList) = word ↔ endsIn hisses word := by
  rw [singularOf_es h]
  by_cases hstem : isListed (sisStems.map (· ++ "s")) word
  · have hno : endsIn hisses word = false := of_isListed hstem (by decide)
    rw [if_pos hstem, hno]
    rw [isListed_map_append, Bool.and_eq_true] at hstem
    obtain ⟨front, rfl⟩ := exists_eq_append_of_endsIn hstem.1
    rw [dropEnd_append (by rfl)]
    exact iff_of_false (by simp) (by decide)
  · rw [if_neg hstem]
    split
    · next hhiss => exact iff_of_true rfl hhiss
    · next hhiss => exact iff_of_false (by simp) hhiss

lemma not_readsOtherwise_append {front back : List Char}
    (h : endsIn ["se", "ie", "ve", "oe", "he", "xe", "ze", "s", "si"] back = false ∧
      fronts back ["se", "ie", "ve", "oe", "he", "xe", "ze", "s", "si"] = []) :
    readsOtherwise (front ++ back) = false := by
  refine Bool.eq_false_iff.2 fun hreads => ?_
  have hends := endsIn_of_readsOtherwise hreads
  rw [not_endsIn_append _ h] at hends
  cases hends

lemma singularOf_ies_eq_iff {front : List Char} (hne : front ≠ []) :
    singularOf (front ++ "ies".toList) = front ++ "y".toList ↔
      isListed listedFronts (front ++ "ie".toList) = false := by
  by_cases h : isListed listedFronts (front ++ "ie".toList)
  · have hother : singularOf (front ++ "ies".toList) ≠ front ++ "y".toList := by
      rw [isListed_append] at h
      exact of_isListed h (by decide)
    exact iff_of_false hother (by rw [h]; decide)
  · rw [Bool.not_eq_true] at h
    exact iff_of_true (singularOf_ies hne h) h

/-- Of the words whose plural in s is looked up, only those that are looked up themselves are found by it. -/
lemma singularOf_append_s_eq_iff_of_unknown (hne : word ≠ []) (h : isListed knownSingulars word = false) :
    singularOf (word ++ ['s']) = word ↔
      isListed listedFronts word = false ∧ readsOtherwise word = false := by
  by_cases hlisted : isListed listedFronts word
  · have hother : isListed knownSingulars word = false → singularOf (word ++ ['s']) ≠ word :=
      of_isListed hlisted (by decide)
    exact iff_of_false (hother h) (by simp [hlisted])
  · rw [Bool.not_eq_true] at hlisted
    rw [singularOf_append_s_eq_iff hne hlisted, and_iff_right hlisted]

/-- The plural that the rules build for a word is read as the plural of this word, unless the word is among the
misread ones. -/
theorem singularOf_pluralOfSingular_iff (hne : word ≠ []) :
    singularOf (pluralOfSingular word) = word ↔ isMisread word = false := by
  by_cases hknown : isListed knownSingulars word
  · have hback : singularOf (pluralOfSingular word) = word := of_isListed hknown (by decide)
    exact iff_of_true hback (by simp [isMisread, hknown])
  rw [Bool.not_eq_true] at hknown
  rw [isMisread, hknown, Bool.not_false, Bool.true_and, Bool.or_eq_false_iff]
  have hrule := pluralByRule hknown
  generalize pluralOfSingular word = plural at hrule ⊢
  cases hrule with
  | ies front hfront hvowel =>
    rw [not_endsIn_append sibilants (by decide), if_neg (by decide), not_readsOtherwise_append (by decide),
      and_iff_left rfl, isListed_lookedUp_y]
    exact singularOf_ies_eq_iff hfront
  | es _ hs =>
    have hlisted : isListed lookedUp word = false := not_isListed_of_endsIn hs (by decide)
    rw [singularOf_es_eq_iff hs, hs, if_pos rfl, hlisted, and_iff_right rfl, Bool.not_eq_false']
  | f front h =>
    rw [not_endsIn_append sibilants (by decide), if_neg (by decide), not_readsOtherwise_append (by decide),
      not_isListed_append (by decide), singularOf_ves, if_pos h]
    exact iff_of_true rfl ⟨rfl, rfl⟩
  | fe front h =>
    have hl : endsIn ["l"] front = false := not_endsIn_of_endsIn _ h (by decide)
    rw [not_endsIn_append sibilants (by decide), if_neg (by decide), not_readsOtherwise_append (by decide),
      not_isListed_append (by decide), singularOf_ves, hl, if_neg (by decide), if_pos h]
    exact iff_of_true rfl ⟨rfl, rfl⟩
  | plain _ hy hs =>
    have hlisted : isListed lookedUp word = isListed listedFronts word := by
      rw [lookedUp, isListed_append_list, Bool.or_eq_left_iff_imp]
      intro hstem
      exact absurd hstem (Bool.eq_false_iff.1 (not_isListed_of_not endsInConsonantY hy (by decide)))
    rw [singularOf_append_s_eq_iff_of_unknown hne hknown, hlisted, hs, if_neg (by decide)]

/-- A singular is read back from its plural if and only if the plural is not misread. -/
theorem singularOf_pluralOf_iff (hne : word ≠ []) (h : singularOf word = word) :
    singularOf (pluralOf word) = word ↔ isMisread word = false := by
  rw [pluralOf_of_singular h, singularOf_pluralOfSingular_iff hne]

/-! ## Names -/

lemma keepsFirst_of_head? {rule : List Char → List Char}
    (hhead : ∀ word, word ≠ [] → (rule word).head? = word.head?)
    (hlower : ∀ word, (∀ c ∈ word, c.isLower) → ∀ c ∈ rule word, c.isLower) : KeepsFirst rule := by
  intro c rest h
  obtain ⟨form, hform⟩ := List.head?_eq_some_iff.1 ((hhead (c :: rest) (List.cons_ne_nil _ _)).trans rfl)
  have hall := hlower (c :: rest) h
  rw [hform] at hall
  exact ⟨form, hform, (List.forall_mem_cons.1 hall).2⟩

lemma keepsFirst_singularOf : KeepsFirst singularOf :=
  keepsFirst_of_head? (fun word _ => head?_singularOf word) fun _ => isLower_singularOf

lemma keepsFirst_pluralOf : KeepsFirst pluralOf :=
  keepsFirst_of_head? (fun _ => head?_pluralOf) fun _ => isLower_pluralOf

/-- A name in the singular is read back from its plural if and only if its last word, unless that is a number,
is not misread. -/
theorem singularize_pluralize_iff {name : String} (h : singularize name = name) :
    singularize (pluralize name) = name ↔
      ∀ found ∈ inflected? name.toList, isMisread found.small = false := by
  rw [← String.toList_inj, singularize, toList_onChars] at h
  rw [← String.toList_inj, singularize, pluralize, toList_onChars, toList_onChars]
  cases hfound : inflected? name.toList with
  | none =>
    rw [mapLastWord_of_not_inflected hfound, mapLastWord_of_not_inflected hfound]
    exact iff_of_true rfl fun found hsome => by cases hsome
  | some found =>
    have hne := small_ne_nil hfound
    rw [mapLastWord_eq_self_iff hfound keepsFirst_singularOf] at h
    rw [mapLastWord_mapLastWord hfound keepsFirst_pluralOf keepsFirst_singularOf (one_lt_length_pluralOf hne),
      mapLastWord_eq_self_iff hfound (keepsFirst_singularOf.comp keepsFirst_pluralOf), Function.comp_apply,
      singularOf_pluralOf_iff hne h]
    simp

lemma singularize_eq {name result : String} (h : mapLastWord singularOf name.toList = result.toList) :
    singularize name = result := by
  rw [← String.toList_inj, singularize, toList_onChars, h]

lemma pluralize_eq {name result : String} (h : mapLastWord pluralOf name.toList = result.toList) :
    pluralize name = result := by
  rw [← String.toList_inj, pluralize, toList_onChars, h]

/-- An ending in s is no obstacle where it is one of those for which the plural is read well. -/
theorem singularize_pluralize_orderStatus :
    singularize "orderStatus" = "orderStatus" ∧ singularize (pluralize "orderStatus") = "orderStatus" := by
  have hsingular : singularize "orderStatus" = "orderStatus" := singularize_eq (by decide)
  exact ⟨hsingular, (singularize_pluralize_iff hsingular).2 (by decide)⟩

/-- *Lens* is listed as a singular, but *lenses* is read as the plural of *lense*. -/
theorem lenses_are_misread :
    singularize "lens" = "lens" ∧ singularize (pluralize "lens") ≠ "lens" := by
  have hplural : pluralize "lens" = "lenses" := pluralize_eq (by decide)
  have hback : singularize "lenses" = "lense" := singularize_eq (by decide)
  refine ⟨singularize_eq (by decide), ?_⟩
  rw [hplural, hback]
  decide

end RestConnector.Name
