import RestConnector.Proofs.Name.RepeatedForms

/-!
# Names that are put into one number twice

A name that is put into the plural or into the singular for the second time stays as it is, with the exception
of names whose last word is one that changes again (`pluralizedAgain`, `singularizedAgain`).

There is one more exception, for the last word of the new name need not be the one that was reworded.  If only
a capital is left of it and capitals stand in front of it, they are read as one word: `CHILDRENs` is split into
`CHILDRE` and `Ns`, of which `N` is left, and then `CHILDREN` is the last word (`IsSplitPlural`).
-/

namespace RestConnector.Name

open RestConnector.Text

variable {word : List Char}

/-! ## Singulars of one letter -/

/-- A longer word with a singular of one letter is that letter with an s, or the plural of x. -/
lemma of_singularOf_eq_singleton {c : Char} (h : singularOf word = [c]) (hlong : 1 < word.length) :
    c ≠ 's' ∧ (word = [c, 's'] ∨ word = "xes".toList) := by
  by_cases hs : endsIn ["s"] word
  · obtain ⟨front, rfl⟩ := exists_eq_append_of_endsIn hs
    have hempty : front ≠ [] := by
      rintro rfl
      exact absurd hlong (by decide)
    by_cases hlisted : isListed listedFronts front
    · have hlength : 1 < (singularOf (front ++ ['s'])).length := of_isListed hlisted (by decide)
      exact absurd (congrArg List.length h) hlength.ne'
    have hrule := singularByRule hempty (Bool.eq_false_iff.2 hlisted)
    rw [show singularOf (front ++ ['s']) = [c] from h] at hrule
    clear h
    have hlength : [c].length = 1 := rfl
    generalize hresult : [c] = result at hrule hlength
    cases hrule with
    | sis stem h => simp at hlength
    | y front h => simp [h] at hlength
    | f front h =>
      have hfront : front ≠ [] := ne_nil_of_endsIn h (by decide)
      simp [hfront] at hlength
    | fe front h => simp at hlength
    | oes _ h =>
      exact absurd hlength (of_isListed (p := (·.length ≠ 1)) h (by decide))
    | es _ h =>
      subst hresult
      obtain rfl : 'x' = c := by simpa [endsIn, hisses, List.isSuffixOf, List.isPrefixOf] using h
      exact ⟨by decide, .inr rfl⟩
    | same _ h => simp [hempty] at hlength
    | plain _ h =>
      subst hresult
      refine ⟨?_, .inl rfl⟩
      rintro rfl
      exact absurd h (by decide)
  by_cases hplural : isListed (irregulars.map (·.2)) word
  · have hlength : 1 < (singularOf word).length := of_isListed hplural (by decide)
    rw [h] at hlength
    exact absurd hlength (by simp)
  · rw [singularOf_of_not_s (Bool.eq_false_iff.2 hs) (Bool.eq_false_iff.2 hplural)] at h
    rw [h] at hlong
    exact absurd hlong (by simp)

/-! ## Words that are joined -/

/-- Whether a word is a capital and an s, behind other capitals with which it makes an irregular plural. -/
def IsSplitPlural (found : Located) : Prop :=
  ∃ front word c, lastWord? found.before = some ⟨front, word, []⟩ ∧ found.word = [c, 's'] ∧
    (∀ d ∈ word ++ [c], d.isUpper) ∧ isListed pluralsWithoutS ((word ++ [c]).map Char.toLower)

lemma isSplitPlural_iff {found : Located} {front : List Char} {c : Char}
    (hfront : lastWord? found.before = some ⟨front, word, []⟩) (hword : found.word = [c, 's'])
    (hupper : ∀ d ∈ word ++ [c], d.isUpper) :
    IsSplitPlural found ↔ isListed pluralsWithoutS ((word ++ [c]).map Char.toLower) := by
  constructor
  · rintro ⟨front', word', c', hfront', hword', -, hlisted⟩
    obtain ⟨-, rfl, -⟩ := Located.mk.inj (Option.some.inj (hfront.symm.trans hfront'))
    obtain ⟨rfl, -⟩ := List.cons.inj (hword.symm.trans hword')
    exact hlisted
  · exact fun hlisted => ⟨front, word, c, hfront, hword, hupper, hlisted⟩

lemma not_isListed_singleton {list : List String} (hlist : ∀ entry ∈ list, entry.toList.length ≠ 1)
    (c : Char) : isListed list [c] = false :=
  Bool.eq_false_iff.2 fun h => of_isListed (p := (·.length ≠ 1)) h hlist rfl

lemma singularOf_pair {c : Char} (hc : c ≠ 's') : singularOf [c, 's'] = [c] := by
  have hlisted : isListed listedFronts [c] = false := not_isListed_singleton (by decide) c
  have hreads : readsOtherwise [c] = false := by
    refine Bool.eq_false_iff.2 fun h => hc ?_
    obtain rfl : 's' = c := by
      simpa [endsIn, List.isSuffixOf, List.isPrefixOf] using endsIn_of_readsOtherwise h
    rfl
  exact (singularOf_append_s_eq_iff (List.cons_ne_nil _ _) hlisted).2 hreads

section Inflected

variable {cs : List Char} {found : Located} (h : inflected? cs = some found)

include h

/-- The capital that is left of a split plural joins the capitals in front of it. -/
lemma IsSplitPlural.exists_joins (hsplit : IsSplitPlural found) :
    ∃ b, found.before.getLast? = some b ∧ joins b ((found.reworded singularOf).word ++ found.behind) := by
  obtain ⟨front, word, c, hfront, hword, hupper, hlisted⟩ := hsplit
  have hc : c.isUpper := hupper c (by simp)
  have hnot : c.toLower ≠ 's' := by
    intro hs
    rw [List.map_append, List.map_singleton, hs, not_isListed_append (by decide)] at hlisted
    cases hlisted
  have hreworded : (found.reworded singularOf).word = [c] := by
    have hsmall : found.word.map Char.toLower = [c.toLower, 's'] := by rw [hword]; rfl
    rw [Located.reworded, hsmall, singularOf_pair hnot, hword, matchCase_cons _ _ (.inl hc)]
    simp
  have hne : word ≠ [] := (isLast_of_lastWord? hfront).ne_nil
  have htext : front ++ word ++ [] = found.before := text_of_lastWord? hfront
  refine ⟨word.getLast hne, ?_, ?_⟩
  · rw [← htext, List.append_nil, List.getLast?_append_of_ne_nil _ hne, List.getLast?_eq_some_getLast hne]
  · rw [hreworded]
    exact (joins_iff_of_isUpper hc _).2
      ⟨hupper _ (List.mem_append_left _ (List.getLast_mem hne)), startsLower_behind_of_inflected? h⟩

/-- If a capital is left that joins the capitals in front of it, they are one word now, which is its own
singular unless it is an irregular plural. -/
lemma mapLastWord_singularOf_of_joins {b : Char} (hb : found.before.getLast? = some b)
    (hjoins : joins b ((found.reworded singularOf).word ++ found.behind)) :
    mapLastWord singularOf (found.reworded singularOf).text = (found.reworded singularOf).text ↔
      singularizedAgain found.small = false ∧ ¬ IsSplitPlural found := by
  obtain ⟨hbupper, c, d, rest, hword, hc, hd, hsingle, hreworded⟩ :=
    exists_of_joins_reworded h keepsFirst_singularOf hb hjoins
  obtain ⟨front, word, hfront, hupper, hmerged⟩ := exists_lastWord?_append_capital hb hbupper hc
    (isLast_of_lastWord? (lastWord?_of_inflected? h)).behind
  have htext : (found.reworded singularOf).text = found.before ++ c :: found.behind := by
    rw [Located.text, hreworded]
    simp [Located.reworded]
  have hinflected : inflected? (found.before ++ c :: found.behind) =
      some ⟨front, word ++ [c], found.behind⟩ := by
    rw [inflected?, hmerged, Option.filter_some]
    simp [IsLetter.not_isDigit (.inl hc)]
  have hlong : 1 < found.small.length := by
    rw [Located.small, hword]
    simp
  obtain ⟨hne, hsmall⟩ := of_singularOf_eq_singleton hsingle hlong
  have hends : ∀ cs : List Char, endsIn ["s"] (cs ++ [c.toLower]) = false := by
    intro cs
    simp [endsIn, List.isSuffixOf, List.isPrefixOf, hne.symm]
  have hsingular : singularOf [c.toLower] = [c.toLower] :=
    (singularOf_eq_self_iff_of_not_s (hends [])).2 (not_isListed_singleton (by decide) _)
  have hagain : singularizedAgain found.small = false := by
    rw [← singularOf_singularOf_iff (small_ne_nil h), hsingle, hsingular]
  rw [htext, mapLastWord_eq_self_iff hinflected keepsFirst_singularOf, and_iff_right hagain, Located.small,
    List.map_append, List.map_singleton, singularOf_eq_self_iff_of_not_s (hends _)]
  rw [Located.small, hword, List.map_cons, List.map_cons] at hsmall
  have hcapitals : ∀ e ∈ word ++ [c], e.isUpper := List.forall_mem_append.2 ⟨hupper, by simpa using hc⟩
  rcases hsmall with hs | hx
  · obtain ⟨hds, hrest⟩ := List.cons.inj (List.cons.inj hs).2
    obtain rfl : d = 's' := (toLower_of_isLower hd).symm.trans hds
    obtain rfl : rest = [] := List.map_eq_nil_iff.1 hrest
    rw [isSplitPlural_iff hfront hword hcapitals, Bool.not_eq_true, List.map_append, List.map_singleton]
  · have hcx : c.toLower = 'x' := (List.cons.inj hx).1
    refine iff_of_true ?_ fun hsplit => ?_
    · rw [hcx]
      exact not_isListed_append (by decide)
    · obtain ⟨-, -, c', -, hword', -⟩ := hsplit
      rw [hword] at hword'
      obtain ⟨-, -, rfl⟩ : c = c' ∧ d = 's' ∧ rest = [] := by simpa using hword'
      simp at hx

end Inflected

/-! ## Names -/

lemma pluralize_pluralize_iff (name : String) :
    pluralize (pluralize name) = pluralize name ↔
      ∀ found ∈ inflected? name.toList, pluralizedAgain found.small = false := by
  rw [← String.toList_inj, pluralize, pluralize, toList_onChars, toList_onChars]
  cases h : inflected? name.toList with
  | none =>
    rw [mapLastWord_of_not_inflected h, mapLastWord_of_not_inflected h]
    exact iff_of_true rfl fun found hsome => by cases hsome
  | some found =>
    have hne := small_ne_nil h
    have hboundary := not_joins_reworded h keepsFirst_pluralOf (one_lt_length_pluralOf hne)
    have hreworded := inflected?_reworded h keepsFirst_pluralOf hboundary
    rw [mapLastWord_of_inflected? h, mapLastWord_eq_self_iff hreworded keepsFirst_pluralOf,
      small_reworded h keepsFirst_pluralOf, pluralOf_pluralOf_iff hne]
    simp

lemma singularize_singularize_iff (name : String) :
    singularize (singularize name) = singularize name ↔
      ∀ found ∈ inflected? name.toList,
        singularizedAgain found.small = false ∧ ¬ IsSplitPlural found := by
  rw [← String.toList_inj, singularize, singularize, toList_onChars, toList_onChars]
  cases h : inflected? name.toList with
  | none =>
    rw [mapLastWord_of_not_inflected h, mapLastWord_of_not_inflected h]
    exact iff_of_true rfl fun found hsome => by cases hsome
  | some found =>
    rw [mapLastWord_of_inflected? h]
    simp only [Option.mem_some_iff, forall_eq']
    by_cases hmerge : ∃ b, found.before.getLast? = some b ∧
        joins b ((found.reworded singularOf).word ++ found.behind)
    · obtain ⟨b, hb, hjoins⟩ := hmerge
      exact mapLastWord_singularOf_of_joins h hb hjoins
    · have hsplit : ¬ IsSplitPlural found := fun hsplit => hmerge (hsplit.exists_joins h)
      have hreworded := inflected?_reworded h keepsFirst_singularOf fun b hb =>
        Bool.eq_false_iff.2 fun hjoins => hmerge ⟨b, hb, hjoins⟩
      rw [mapLastWord_eq_self_iff hreworded keepsFirst_singularOf, small_reworded h keepsFirst_singularOf,
        singularOf_singularOf_iff (small_ne_nil h), and_iff_left hsplit]

/-- A name in the plural is its own plural, and a name in the singular its own singular, if and only if the
last word of the name it comes from, unless that is a number, is none of those that change twice. -/
theorem inflection_idempotent_iff (name : String) :
    (pluralize (pluralize name) = pluralize name ↔
      ∀ found ∈ inflected? name.toList, pluralizedAgain found.small = false) ∧
    (singularize (singularize name) = singularize name ↔
      ∀ found ∈ inflected? name.toList,
        singularizedAgain found.small = false ∧ ¬ IsSplitPlural found) :=
  ⟨pluralize_pluralize_iff name, singularize_singularize_iff name⟩

/-- *Lens* is the plural of *len* by the rules and listed as a singular, and *hous* is what is left of
*houses*. -/
theorem lens_and_hous_change_again :
    pluralize (pluralize "len") ≠ pluralize "len" ∧
      singularize (singularize "houses") ≠ singularize "houses" := by
  have hlens : pluralize "len" = "lens" := pluralize_eq (by decide)
  have hlenses : pluralize "lens" = "lenses" := pluralize_eq (by decide)
  have hhous : singularize "houses" = "hous" := singularize_eq (by decide)
  have hhou : singularize "hous" = "hou" := singularize_eq (by decide)
  rw [hlens, hlenses, hhous, hhou]
  decide

end RestConnector.Name
