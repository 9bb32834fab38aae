import RestConnector.Proofs.Name.Inflection
import RestConnector.Proofs.Name.Legal

/-!
# The last word in another form

A rule for singular or plural is applied to the last word of a name, in small letters, and its result is
written in the letter case of this word.  For a rule that keeps the first letter (`KeepsFirst`), the result is
again one word (`IsOneWord.matchCase`), and the last word of the new name, unless it joins what stands in front
of it (`inflected?_reworded`).  That takes a capital in front and a result of one letter
(`exists_of_joins_reworded`), and then the capitals become one word (`exists_lastWord?_append_capital`).

So whether a rule changes a name is a matter of its last word alone (`mapLastWord_eq_self_iff`), and two rules
that are applied to a name one after the other apply to one word (`mapLastWord_mapLastWord`).
-/

namespace RestConnector.Name

open RestConnector.Text

variable {cs word behind : List Char} {found : Located} {rule : List Char → List Char}

/-! ## Words of letters -/

/-- Letters that are read as one word: capitals, or small letters behind any first letter. -/
inductive IsOneWord : List Char → Prop
  | capitals (c : Char) (rest : List Char) (hc : c.isUpper) (h : ∀ d ∈ rest, d.isUpper) :
      IsOneWord (c :: rest)
  | small (c : Char) (rest : List Char) (hc : IsLetter c) (h : ∀ d ∈ rest, d.isLower) :
      IsOneWord (c :: rest)

lemma IsOneWord.letters (h : IsOneWord word) : ∀ c ∈ word, IsLetter c := by
  cases h with
  | capitals c rest hc h => exact List.forall_mem_cons.2 ⟨.inl hc, fun d hd => .inl (h d hd)⟩
  | small c rest hc h => exact List.forall_mem_cons.2 ⟨hc, fun d hd => .inr (h d hd)⟩

lemma IsLetter.isWordChar {c : Char} (h : IsLetter c) : Name.isWordChar c := isWordChar_iff.2 (.inl h)

lemma IsOneWord.not_all_isDigit (h : IsOneWord word) : word.all isDigit = false := by
  have hletters := h.letters
  cases word with
  | nil => cases h
  | cons c rest => simp [(hletters c List.mem_cons_self).not_isDigit]

lemma not_isLower_of_isUpper {c : Char} (h : c.isUpper) : c.isLower = false := by
  have hc := isUpper_iff.1 h
  rw [Bool.eq_false_iff]
  intro hl
  have := isLower_iff.1 hl
  omega

lemma not_isUpper_of_isLower {c : Char} (h : c.isLower) : c.isUpper = false := by
  rw [Bool.eq_false_iff]
  intro hu
  rw [not_isLower_of_isUpper hu] at h
  cases h

lemma startsLower_eq_false (h : ∀ c ∈ cs, c.isLower = false) : startsLower cs = false := by
  cases cs with
  | nil => rfl
  | cons c cs => exact h c List.mem_cons_self

lemma not_isLower_of_not_isWordChar {c : Char} (h : isWordChar c = false) : c.isLower = false := by
  simp only [isWordChar, Bool.or_eq_false_iff] at h
  exact h.1.2

lemma lastWord?_cons_of_joins {c : Char} (hc : isWordChar c) (hjoins : joins c (word ++ behind))
    (h : lastWord? (word ++ behind) = some ⟨[], word, behind⟩) :
    lastWord? (c :: (word ++ behind)) = some ⟨[], c :: word, behind⟩ := by
  simp [lastWord?, h, hc, hjoins]

lemma lastWord?_singleton {c : Char} (hc : isWordChar c) (hbehind : ∀ d ∈ behind, isWordChar d = false) :
    lastWord? ([c] ++ behind) = some ⟨[], [c], behind⟩ := by
  rw [List.singleton_append, lastWord?, lastWord?_eq_none_iff.2 hbehind]
  exact if_pos hc

/-- Letters of one word are found as one. -/
lemma IsOneWord.lastWord? (h : IsOneWord word) (hbehind : ∀ c ∈ behind, isWordChar c = false) :
    lastWord? (word ++ behind) = some ⟨[], word, behind⟩ := by
  cases h with
  | capitals c rest hc h =>
    induction rest generalizing c with
    | nil => exact lastWord?_singleton (IsLetter.isWordChar (.inl hc)) hbehind
    | cons d rest ih =>
      obtain ⟨hd, hrest⟩ := List.forall_mem_cons.1 h
      have hsmall : startsLower (rest ++ behind) = false := startsLower_eq_false <|
        List.forall_mem_append.2 ⟨fun e he => not_isLower_of_isUpper (hrest e he),
          fun e he => not_isLower_of_not_isWordChar (hbehind e he)⟩
      refine lastWord?_cons_of_joins (IsLetter.isWordChar (.inl hc)) ?_ (ih d hd hrest)
      simp [joins, hc, hd, hsmall]
  | small c rest hc h =>
    induction rest generalizing c with
    | nil => exact lastWord?_singleton hc.isWordChar hbehind
    | cons d rest ih =>
      obtain ⟨hd, hrest⟩ := List.forall_mem_cons.1 h
      exact lastWord?_cons_of_joins hc.isWordChar (joins_of_isLower hc hd _) (ih d (.inr hd) hrest)

lemma isWordChar_of_joins {c : Char} (h : joins c cs) : isWordChar c := by
  cases cs with
  | nil => cases h
  | cons d rest =>
    simp only [joins, Bool.or_eq_true, Bool.and_eq_true] at h
    simp only [isWordChar, Bool.or_eq_true]
    tauto

/-- A capital joins another only if no small letter comes behind. -/
lemma joins_iff_of_isUpper {c d : Char} (hd : d.isUpper) (rest : List Char) :
    joins c (d :: rest) ↔ c.isUpper ∧ startsLower rest = false := by
  have hdecimal : isDecimal d = false := IsLetter.not_isDecimal (.inl hd)
  simp [joins, hd, not_isLower_of_isUpper hd, hdecimal]

/-- A small letter joins every letter. -/
lemma joins_iff_of_isLower {c d : Char} (hd : d.isLower) (rest : List Char) :
    joins c (d :: rest) ↔ IsLetter c := by
  have hdecimal : isDecimal d = false := IsLetter.not_isDecimal (.inr hd)
  simp [joins, hd, not_isUpper_of_isLower hd, hdecimal, IsLetter, or_comm]

lemma IsOneWord.cons {c : Char} (h : IsOneWord word) (hc : IsLetter c) (hj : joins c (word ++ behind)) :
    IsOneWord (c :: word) := by
  cases h with
  | capitals d rest hd h =>
    have hupper := ((joins_iff_of_isUpper hd _).1 hj).1
    exact .capitals c (d :: rest) hupper (List.forall_mem_cons.2 ⟨hd, h⟩)
  | small d rest hd h =>
    rcases hd with hd | hd
    · obtain ⟨hupper, hstart⟩ := (joins_iff_of_isUpper hd _).1 hj
      cases rest with
      | nil => exact .capitals c [d] hupper (by simpa using hd)
      | cons e rest =>
        exact absurd (h e List.mem_cons_self) (Bool.eq_false_iff.1 hstart)
    · exact .small c (d :: rest) hc (List.forall_mem_cons.2 ⟨hd, h⟩)

/-- What stands in front of the last word does not join it. -/
lemma not_joins_of_lastWord? (h : lastWord? cs = some found) :
    ∀ b, found.before.getLast? = some b → joins b (found.word ++ found.behind) = false := by
  induction cs generalizing found with
  | nil => cases h
  | cons c cs ih =>
    rw [lastWord?] at h
    split at h
    · next inner hinner =>
      have htext := text_of_lastWord? hinner
      split at h
      · next hjoins =>
        obtain rfl := Option.some.inj h
        simp only [Bool.and_eq_true, List.isEmpty_iff] at hjoins
        intro b hb
        rw [hjoins.1.1] at hb
        cases hb
      · next hjoins =>
        obtain rfl := Option.some.inj h
        intro b hb
        cases hbefore : inner.before with
        | nil =>
          rw [Located.text, hbefore, List.nil_append] at htext
          rw [hbefore] at hb hjoins
          obtain rfl : c = b := Option.some.inj hb
          rw [htext, Bool.eq_false_iff]
          exact fun hj => hjoins (by simp [isWordChar_of_joins hj, hj])
        | cons d before =>
          rw [hbefore, List.getLast?_cons_cons, ← hbefore] at hb
          exact ih hinner b hb
    · split at h
      · obtain rfl := Option.some.inj h
        intro b hb
        cases hb
      · cases h

/-- A word of letters is read as one. -/
lemma isOneWord_of_lastWord? (h : lastWord? cs = some found) (hletters : ∀ c ∈ found.word, IsLetter c) :
    IsOneWord found.word := by
  induction cs generalizing found with
  | nil => cases h
  | cons c cs ih =>
    rw [lastWord?] at h
    split at h
    · next inner hinner =>
      have htext := text_of_lastWord? hinner
      split at h
      · next hjoins =>
        obtain rfl := Option.some.inj h
        simp only [Bool.and_eq_true, List.isEmpty_iff] at hjoins
        obtain ⟨hc, hinside⟩ := List.forall_mem_cons.1 hletters
        rw [Located.text, hjoins.1.1, List.nil_append] at htext
        exact (ih hinner hinside).cons hc (htext ▸ hjoins.2)
      · obtain rfl := Option.some.inj h
        have hone : IsOneWord inner.word := ih hinner hletters
        exact hone
    · split at h
      · obtain rfl := Option.some.inj h
        exact .small c [] (hletters c List.mem_cons_self) (by simp)
      · cases h

/-- A word that ends in a capital is in capitals. -/
lemma IsOneWord.forall_isUpper {b : Char} (h : IsOneWord word) (hlast : word.getLast? = some b)
    (hb : b.isUpper) : ∀ c ∈ word, c.isUpper := by
  cases h with
  | capitals c rest hc h => exact List.forall_mem_cons.2 ⟨hc, h⟩
  | small c rest hc h =>
    cases rest with
    | nil =>
      obtain rfl : c = b := Option.some.inj hlast
      simpa using hb
    | cons d rest =>
      rw [List.getLast?_cons_cons] at hlast
      have hlower := h b (List.mem_of_getLast? hlast)
      rw [not_isUpper_of_isLower hlower] at hb
      cases hb

/-- A text that ends in a capital ends in a word of capitals. -/
lemma exists_lastWord?_of_isUpper {b : Char} (hlast : cs.getLast? = some b) (hb : b.isUpper) :
    ∃ front word, lastWord? cs = some ⟨front, word, []⟩ ∧ word ≠ [] ∧ ∀ c ∈ word, c.isUpper := by
  obtain ⟨⟨front, word, rest⟩, hfound⟩ : ∃ found, lastWord? cs = some found := by
    refine Option.ne_none_iff_exists'.1 fun hnone => ?_
    have hno := lastWord?_eq_none_iff.1 hnone b (List.mem_of_getLast? hlast)
    rw [IsLetter.isWordChar (.inl hb)] at hno
    cases hno
  obtain ⟨hne, hkind, hrest⟩ := isLast_of_lastWord? hfound
  have htext : front ++ word ++ rest = cs := text_of_lastWord? hfound
  obtain rfl : rest = [] := by
    by_contra hne
    rw [← htext, List.getLast?_append_of_ne_nil _ hne] at hlast
    have hno := hrest b (List.mem_of_getLast? hlast)
    rw [IsLetter.isWordChar (.inl hb)] at hno
    cases hno
  have hend : word.getLast? = some b := by
    rwa [← htext, List.append_nil, List.getLast?_append_of_ne_nil _ hne] at hlast
  have hletters : ∀ c ∈ word, IsLetter c := hkind.resolve_right fun hdecimal => by
    have hno := hdecimal b (List.mem_of_getLast? hend)
    rw [IsLetter.not_isDecimal (.inl hb)] at hno
    cases hno
  exact ⟨front, word, hfound, hne, (isOneWord_of_lastWord? hfound hletters).forall_isUpper hend hb⟩

/-- A capital behind a text that ends in a capital belongs to the same word. -/
lemma exists_lastWord?_append_capital {b c : Char} (hlast : cs.getLast? = some b) (hb : b.isUpper)
    (hc : c.isUpper) (hbehind : ∀ d ∈ behind, isWordChar d = false) :
    ∃ front word, lastWord? cs = some ⟨front, word, []⟩ ∧ (∀ d ∈ word, d.isUpper) ∧
      lastWord? (cs ++ c :: behind) = some ⟨front, word ++ [c], behind⟩ := by
  obtain ⟨front, word, hfound, hne, hupper⟩ := exists_lastWord?_of_isUpper hlast hb
  obtain ⟨d, rest, rfl⟩ := List.exists_cons_of_ne_nil hne
  obtain ⟨hd, hrest⟩ := List.forall_mem_cons.1 hupper
  have hone : IsOneWord (d :: rest ++ [c]) :=
    .capitals d (rest ++ [c]) hd (List.forall_mem_append.2 ⟨hrest, by simpa using hc⟩)
  have hboundary : ∀ e, front.getLast? = some e → joins e ((d :: rest ++ [c]) ++ behind) = false := by
    intro e he
    have hnot := Bool.eq_false_iff.1 (not_joins_of_lastWord? hfound e he)
    refine Bool.eq_false_iff.2 fun hjoins => hnot ?_
    refine (joins_iff_of_isUpper hd _).2 ⟨((joins_iff_of_isUpper hd _).1 hjoins).1, ?_⟩
    refine startsLower_eq_false fun f hf => not_isLower_of_isUpper (hrest f ?_)
    simpa using hf
  have htext : front ++ (d :: rest) ++ [] = cs := text_of_lastWord? hfound
  refine ⟨front, d :: rest, hfound, hupper, ?_⟩
  have happend := lastWord?_append (hone.lastWord? hbehind) hboundary
  rw [← htext]
  simpa using happend

/-! ## Letter case -/

lemma toUpper_toLower {c : Char} (h : c.isUpper) : c.toLower.toUpper = c := by
  apply Char.toNat_inj.1
  rw [toNat_toUpper, if_pos (isLower_toLower h), toNat_toLower, if_pos h]
  omega

/-- A form that begins as the word does begins with the same character when it is matched with it. -/
lemma matchCase_cons {c : Char} (rest form : List Char) (hc : IsLetter c) :
    matchCase (c :: rest) (c.toLower :: form) =
      c :: if 0 < rest.length && (c :: rest).all Char.isUpper then form.map Char.toUpper else form := by
  rw [matchCase, List.length_cons]
  simp only [Nat.lt_add_left_iff_pos]
  split
  · next h =>
    have hupper : c.isUpper := by simp_all
    rw [List.map_cons, toUpper_toLower hupper]
  · rcases hc with hc | hc
    · rw [if_pos (by simp [hc]), capitalize, toUpper_toLower hc]
    · rw [if_neg (by simp [not_isUpper_of_isLower hc]), toLower_of_isLower hc]

/-- A rule for words in small letters that leaves the first letter as it is. -/
def KeepsFirst (rule : List Char → List Char) : Prop :=
  ∀ c rest, (∀ d ∈ c :: rest, d.isLower) → ∃ form, rule (c :: rest) = c :: form ∧ ∀ d ∈ form, d.isLower

lemma KeepsFirst.comp {other : List Char → List Char} (hother : KeepsFirst other) (hrule : KeepsFirst rule) :
    KeepsFirst (other ∘ rule) := by
  intro c rest h
  obtain ⟨form, hform, hlower⟩ := hrule c rest h
  rw [Function.comp_apply, hform]
  exact hother c form (List.forall_mem_cons.2 ⟨h c List.mem_cons_self, hlower⟩)

/-- A located word in small letters. -/
def Located.small (found : Located) : List Char :=
  found.word.map Char.toLower

lemma IsOneWord.isLower_map (h : IsOneWord word) : ∀ c ∈ word.map Char.toLower, c.isLower :=
  isLower_map_toLower h.letters

/-- What a rule makes of a word begins as the word does, and goes on in the letter case of the word. -/
lemma exists_matchCase_eq (h : IsOneWord word) (hrule : KeepsFirst rule) :
    ∃ c rest form, word = c :: rest ∧ rule (word.map Char.toLower) = c.toLower :: form ∧
      (∀ d ∈ form, d.isLower) ∧ matchCase word (rule (word.map Char.toLower)) =
        c :: if 0 < rest.length && word.all Char.isUpper then form.map Char.toUpper else form := by
  have hsmall := h.isLower_map
  have hletters := h.letters
  cases word with
  | nil => cases h
  | cons c rest =>
    obtain ⟨form, hform, hlower⟩ := hrule c.toLower (rest.map Char.toLower) hsmall
    refine ⟨c, rest, form, rfl, hform, hlower, ?_⟩
    rw [List.map_cons, hform]
    exact matchCase_cons rest form (hletters c List.mem_cons_self)

/-- A word in another form is still read as one word. -/
lemma IsOneWord.matchCase (h : IsOneWord word) (hrule : KeepsFirst rule) :
    IsOneWord (matchCase word (rule (word.map Char.toLower))) := by
  obtain ⟨c, rest, form, rfl, -, hlower, heq⟩ := exists_matchCase_eq h hrule
  rw [heq]
  split
  · next hupper =>
    have hc : c.isUpper := by simp_all
    exact .capitals c _ hc (List.forall_mem_map.2 fun d hd => isUpper_toUpper (hlower d hd))
  · exact .small c form (h.letters c List.mem_cons_self) hlower

/-- A word has its own letter case. -/
lemma IsOneWord.matchCase_self (h : IsOneWord word) : Name.matchCase word (word.map Char.toLower) = word := by
  cases h with
  | capitals c rest hc h =>
    rw [List.map_cons, matchCase_cons rest _ (.inl hc)]
    split
    · rw [List.map_map]
      exact congrArg (c :: ·) <|
        (List.map_congr_left fun d hd => toUpper_toLower (h d hd)).trans (List.map_id' rest)
    · next hone =>
      have hall : (c :: rest).all Char.isUpper := List.all_eq_true.2 (List.forall_mem_cons.2 ⟨hc, h⟩)
      have hnil : rest = [] := by simpa [hall] using hone
      rw [hnil, List.map_nil]
  | small c rest hc h =>
    have hsmall : rest.map Char.toLower = rest := by
      rw [List.map_congr_left fun d hd => toLower_of_isLower (h d hd), List.map_id']
    have hcase : (0 < rest.length && (c :: rest).all Char.isUpper) = false := by
      cases rest with
      | nil => rfl
      | cons d rest =>
        have hd : d.isUpper = false := not_isUpper_of_isLower (h d List.mem_cons_self)
        simp [hd]
    rw [List.map_cons, matchCase_cons rest _ hc, hsmall, hcase]
    rfl

lemma KeepsFirst.isLower (hrule : KeepsFirst rule) (h : IsOneWord word) :
    ∀ c ∈ rule (word.map Char.toLower), c.isLower := by
  have hsmall := h.isLower_map
  cases word with
  | nil => cases h
  | cons c rest =>
    obtain ⟨form, hform, hlower⟩ := hrule c.toLower (rest.map Char.toLower) hsmall
    rw [List.map_cons, hform]
    exact List.forall_mem_cons.2 ⟨hsmall _ List.mem_cons_self, hlower⟩

/-- With more than one letter, a word in another form has the letter case of the word. -/
lemma matchCase_matchCase {other : List Char → List Char} (h : IsOneWord word) (hrule : KeepsFirst rule)
    (hother : KeepsFirst other) (hlong : 1 < (rule (word.map Char.toLower)).length) :
    matchCase (matchCase word (rule (word.map Char.toLower))) (other (rule (word.map Char.toLower))) =
      matchCase word (other (rule (word.map Char.toLower))) := by
  obtain ⟨c, rest, form, rfl, hform, hlower, heq⟩ := exists_matchCase_eq h hrule
  have hc : IsLetter c := h.letters c List.mem_cons_self
  have hsmall : ∀ d ∈ c.toLower :: form, d.isLower :=
    List.forall_mem_cons.2 ⟨h.isLower_map _ List.mem_cons_self, hlower⟩
  obtain ⟨result, hresult, -⟩ := hother c.toLower form hsmall
  rw [heq, hform, hresult]
  rw [hform, List.length_cons] at hlong
  obtain ⟨d, form, rfl⟩ := List.exists_cons_of_ne_nil (List.length_pos_iff.1 (Nat.lt_of_succ_lt_succ hlong))
  rw [matchCase_cons rest _ hc, matchCase_cons _ _ hc]
  congr 2
  have hd : d.isLower := hlower d List.mem_cons_self
  cases hcase : (decide (0 < rest.length) && (c :: rest).all Char.isUpper) with
  | true =>
    have hupper : c.isUpper := by simp_all
    have hform : ∀ e ∈ form, e.toUpper.isUpper := fun e he =>
      isUpper_toUpper (hlower e (List.mem_cons_of_mem _ he))
    simpa [hupper, isUpper_toUpper hd] using hform
  | false => simp [not_isUpper_of_isLower hd]

/-! ## The word that is put into another number -/

/-- The last word of a text, unless it is a number. -/
def inflected? (cs : List Char) : Option Located :=
  (lastWord? cs).filter fun found => !found.word.all isDigit

lemma mapLastWord_of_not_inflected (h : inflected? cs = none) (rule : List Char → List Char) :
    mapLastWord rule cs = cs := by
  rw [mapLastWord]
  split
  · rfl
  · next found hfound =>
    simp only [inflected?, hfound, Option.filter_some, ite_eq_right_iff] at h
    rw [if_pos (by simpa using h)]

section Inflected

variable (h : inflected? cs = some found)

include h

lemma lastWord?_of_inflected? : lastWord? cs = some found :=
  (Option.filter_eq_some_iff.1 h).1

lemma startsLower_behind_of_inflected? : startsLower found.behind = false :=
  startsLower_eq_false fun c hc => not_isLower_of_not_isWordChar <|
    (isLast_of_lastWord? (lastWord?_of_inflected? h)).behind c hc

lemma text_of_inflected? : found.text = cs :=
  text_of_lastWord? (lastWord?_of_inflected? h)

lemma isOneWord_of_inflected? : IsOneWord found.word := by
  have hfound := lastWord?_of_inflected? h
  refine isOneWord_of_lastWord? hfound ((isLast_of_lastWord? hfound).kind.resolve_right fun hdecimal => ?_)
  have hnumber := (Option.filter_eq_some_iff.1 h).2
  rw [List.all_eq_true.2 fun c hc => by simp [isDigit, hdecimal c hc]] at hnumber
  cases hnumber

lemma mapLastWord_of_inflected? (rule : List Char → List Char) :
    mapLastWord rule cs = (found.reworded rule).text := by
  have hnumber := (Option.filter_eq_some_iff.1 h).2
  rw [mapLastWord, lastWord?_of_inflected? h]
  exact if_neg (by simpa using hnumber)

lemma small_reworded (hrule : KeepsFirst rule) : (found.reworded rule).small = rule found.small :=
  map_toLower_matchCase found.word (hrule.isLower (isOneWord_of_inflected? h))

/-- A rule changes a text if and only if it changes its last word. -/
lemma mapLastWord_eq_self_iff (hrule : KeepsFirst rule) :
    mapLastWord rule cs = cs ↔ rule found.small = found.small := by
  rw [mapLastWord_of_inflected? h, ← text_of_inflected? h, Located.text, Located.text]
  constructor
  · intro hsame
    have hword : (found.reworded rule).word = found.word :=
      List.append_cancel_left (List.append_cancel_right hsame)
    rw [← small_reworded h hrule, Located.small, hword, Located.small]
  · intro hsame
    have hword : (found.reworded rule).word = found.word := by
      rw [Located.reworded, ← Located.small, hsame]
      exact (isOneWord_of_inflected? h).matchCase_self
    rw [hword]
    rfl

/-- A text in another form has the word that was put into this form, unless the word now joins what stands in
front of it. -/
lemma inflected?_reworded (hrule : KeepsFirst rule)
    (hboundary : ∀ b, found.before.getLast? = some b →
      joins b ((found.reworded rule).word ++ found.behind) = false) :
    inflected? (found.reworded rule).text = some (found.reworded rule) := by
  have hone : IsOneWord (found.reworded rule).word := (isOneWord_of_inflected? h).matchCase hrule
  have hbehind := (isLast_of_lastWord? (lastWord?_of_inflected? h)).behind
  have hlast : lastWord? (found.reworded rule).text = some (found.reworded rule) := by
    rw [Located.text, List.append_assoc]
    refine (lastWord?_append (hone.lastWord? hbehind) hboundary).trans ?_
    rw [List.append_nil]
    rfl
  rw [inflected?, hlast, Option.filter_some, hone.not_all_isDigit]
  rfl

/-- A word in another form joins what stands in front of it only if all but a capital is gone from it, and
another capital stands in front. -/
lemma exists_of_joins_reworded (hrule : KeepsFirst rule) {b : Char} (hb : found.before.getLast? = some b)
    (hjoins : joins b ((found.reworded rule).word ++ found.behind)) :
    b.isUpper ∧ ∃ c d rest, found.word = c :: d :: rest ∧ c.isUpper ∧ d.isLower ∧
      rule found.small = [c.toLower] ∧ (found.reworded rule).word = [c] := by
  have hbehind := startsLower_behind_of_inflected? h
  have hnot := not_joins_of_lastWord? (lastWord?_of_inflected? h) b hb
  have hone := isOneWord_of_inflected? h
  obtain ⟨c, rest, form, hword, hform, hlower, heq⟩ := exists_matchCase_eq hone hrule
  have heq : (found.reworded rule).word = _ := heq
  rw [heq] at hjoins ⊢
  rw [hword] at hnot hone hjoins ⊢
  have hnot := Bool.eq_false_iff.1 hnot
  rcases hone.letters c List.mem_cons_self with hc | hc
  · obtain ⟨hupper, hstart⟩ := (joins_iff_of_isUpper hc _).1 hjoins
    have hsmall : startsLower (rest ++ found.behind) := by
      by_contra hno
      exact hnot ((joins_iff_of_isUpper hc _).2 ⟨hupper, Bool.eq_false_iff.2 hno⟩)
    cases rest with
    | nil => exact absurd hsmall (Bool.eq_false_iff.1 hbehind)
    | cons d rest =>
      have hd : d.isLower := hsmall
      have hcase : (c :: d :: rest).all Char.isUpper = false := by simp [not_isUpper_of_isLower hd]
      rw [hcase, Bool.and_false, if_neg (by decide)] at hstart ⊢
      cases form with
      | nil => exact ⟨hupper, c, d, rest, rfl, hc, hd, hform, rfl⟩
      | cons e form => exact absurd (hlower e List.mem_cons_self) (Bool.eq_false_iff.1 hstart)
  · exact absurd ((joins_iff_of_isLower hc _).2 ((joins_iff_of_isLower hc _).1 hjoins)) hnot

/-- With more than one letter, a word in another form does not join what stands in front of it. -/
lemma not_joins_reworded (hrule : KeepsFirst rule) (hlong : 1 < (rule found.small).length) :
    ∀ b, found.before.getLast? = some b → joins b ((found.reworded rule).word ++ found.behind) = false := by
  intro b hb
  refine Bool.eq_false_iff.2 fun hjoins => ?_
  obtain ⟨-, c, -, -, -, -, -, hform, -⟩ := exists_of_joins_reworded h hrule hb hjoins
  rw [hform] at hlong
  exact absurd hlong (by simp)

/-- Two rules that are applied one after the other, the first of them leaving more than one letter, apply to
the same word. -/
lemma mapLastWord_mapLastWord {other : List Char → List Char} (hrule : KeepsFirst rule)
    (hother : KeepsFirst other) (hlong : 1 < (rule found.small).length) :
    mapLastWord other (mapLastWord rule cs) = mapLastWord (other ∘ rule) cs := by
  have hreworded := inflected?_reworded h hrule (not_joins_reworded h hrule hlong)
  have hword : ((found.reworded rule).reworded other).word = (found.reworded (other ∘ rule)).word := by
    have hsmall : ((found.reworded rule).word.map Char.toLower) = rule found.small := small_reworded h hrule
    rw [Located.reworded, hsmall]
    exact matchCase_matchCase (isOneWord_of_inflected? h) hrule hother hlong
  rw [mapLastWord_of_inflected? h, mapLastWord_of_inflected? h, mapLastWord_of_inflected? hreworded,
    Located.text, Located.text, hword]
  rfl

lemma small_ne_nil : found.small ≠ [] := by
  have hne := (isLast_of_lastWord? (lastWord?_of_inflected? h)).ne_nil
  simpa [Located.small] using hne

end Inflected

end RestConnector.Name
