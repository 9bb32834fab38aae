import RestConnector.Proofs.Text.Numeral
import RestConnector.Proofs.Text.Replacement
import RestConnector.Scalar.Classify

/-!
# What counts as a UUID

A UUID is written with 32 hexadecimal digits, with or without hyphens between groups of them, and either
alone, or in braces, or behind `urn:uuid:` (`HasForm`).  Each of these forms is recognised, but so is much
else.  `urn:`, `uuid:` and hyphens are dropped wherever they stand, and so are braces at the ends, however
many (`Decorates`).  A text is taken for a UUID if 32 characters are left of it and these are a numeral in base
16, which may have a sign, a mark in front, blanks at its ends, underscores and digits of any script
(`isUuid_iff_exists_numeral`).

So a text of words, such as `dead_beef_dead_beef_dead_beef_00`, can be typed as a UUID although it is none
(`words_between_underscores_are_a_uuid`).
-/

namespace RestConnector.Scalar

open RestConnector.Text

/-! ## Forms -/

/-- A text with hyphens behind groups of the given sizes. -/
def grouped : List Nat → List Char → List Char
  | [], cs => cs
  | size :: sizes, cs => cs.take size ++ '-' :: grouped sizes (cs.drop size)

/-- The digits of a UUID in groups of 8, 4, 4, 4 and 12. -/
def hyphenated (digits : List Char) : List Char :=
  grouped [8, 4, 4, 4] digits

/-- The forms in which the digits of a UUID are written: with or without hyphens, and either alone, or in
braces, or as the name of a resource. -/
def forms (digits : List Char) : List (List Char) :=
  [digits, hyphenated digits].flatMap fun body =>
    [body, '{' :: (body ++ ['}']), "urn:uuid:".toList ++ body]

/-- Whether a text is written in one of these forms. -/
def HasForm (cs : List Char) : Prop :=
  ∃ digits, digits.length = 32 ∧ (∀ c ∈ digits, (hexValue? c).isSome) ∧ cs ∈ forms digits

lemma mem_grouped {c : Char} {sizes : List Nat} {cs : List Char} (h : c ∈ grouped sizes cs) :
    c = '-' ∨ c ∈ cs := by
  induction sizes generalizing cs with
  | nil => exact .inr h
  | cons size sizes ih =>
    rw [grouped, List.mem_append, List.mem_cons] at h
    rcases h with h | h | h
    · exact .inr (List.mem_of_mem_take h)
    · exact .inl h
    · exact (ih h).imp_right List.mem_of_mem_drop

lemma filter_grouped (sizes : List Nat) {cs : List Char} (h : '-' ∉ cs) :
    (grouped sizes cs).filter (· != '-') = cs := by
  induction sizes generalizing cs with
  | nil =>
    refine List.filter_eq_self.2 fun c hc => ?_
    simpa using ne_of_mem_of_not_mem hc h
  | cons size sizes ih =>
    have hfront : (cs.take size).filter (· != '-') = cs.take size := by
      refine List.filter_eq_self.2 fun c hc => ?_
      simpa using ne_of_mem_of_not_mem (List.mem_of_mem_take hc) h
    rw [grouped, List.filter_append, hfront, List.filter_cons_of_neg (by simp),
      ih (fun hc => h (List.mem_of_mem_drop hc)), List.take_append_drop]

/-! ## Decoration -/

/-- Whether a character is a brace. -/
def isBrace (c : Char) : Bool :=
  c = '{' || c = '}'

/-- A text of which some characters are left when `urn:` is left out, then `uuid:`, then braces at both ends
and then hyphens. -/
inductive Decorates (digits : List Char) : List Char → Prop
  | intro {cs middle front body back : List Char} (hurn : Deletes "urn:".toList cs middle)
      (huuid : Deletes "uuid:".toList middle (front ++ body ++ back)) (hfront : ∀ c ∈ front, isBrace c)
      (hback : ∀ c ∈ back, isBrace c) (hbody : body.filter (· != '-') = digits) : Decorates digits cs

lemma replace_urn_eq_iff {cs out : List Char} :
    replace "urn:" "" cs = out ↔ Deletes "urn:".toList cs out := by
  have hword : ':' ∉ "urn".toList := by decide
  exact replaceFrom_eq_iff hword

lemma replace_uuid_eq_iff {cs out : List Char} :
    replace "uuid:" "" cs = out ↔ Deletes "uuid:".toList cs out := by
  have hword : ':' ∉ "uuid".toList := by decide
  exact replaceFrom_eq_iff hword

lemma decorates_bareUuid (cs : List Char) : Decorates (bareUuid cs) cs := by
  have huuid := replace_uuid_eq_iff.1 (rfl : replace "uuid:" "" (replace "urn:" "" cs) = _)
  obtain ⟨front, back, hsplit, hfront, hback⟩ :=
    exists_append_trimEnds isBrace (replace "uuid:" "" (replace "urn:" "" cs))
  rw [hsplit] at huuid
  exact .intro (replace_urn_eq_iff.1 rfl) huuid hfront hback rfl

/-- Digits are found in a text that they are left of, since none of them is a brace. -/
lemma Decorates.bareUuid_eq {digits cs : List Char} (h : Decorates digits cs) (hopen : '{' ∉ digits)
    (hclose : '}' ∉ digits) : bareUuid cs = digits := by
  obtain @⟨middle, front, body, back, hurn, huuid, hfront, hback, rfl⟩ := h
  have hkept : ∀ c ∈ body, isBrace c = false := by
    intro c hc
    rw [isBrace, Bool.or_eq_false_iff, decide_eq_false_iff_not, decide_eq_false_iff_not]
    constructor
    · rintro rfl
      exact hopen (List.mem_filter.2 ⟨hc, by decide⟩)
    · rintro rfl
      exact hclose (List.mem_filter.2 ⟨hc, by decide⟩)
  have htrimmed : trimEnds isBrace (front ++ body ++ back) = body := by
    rw [trimEnds_append hfront hback, trimEnds_eq_self hkept]
  unfold bareUuid
  rw [replace_urn_eq_iff.2 hurn, replace_uuid_eq_iff.2 huuid]
  exact congrArg (List.filter (· != '-')) htrimmed

/-! ## Forms without their decoration -/

lemma not_infix_of_notMem {mark cs : List Char} {c : Char} (hmark : c ∈ mark) (hcs : c ∉ cs) :
    ¬ mark <:+: cs :=
  fun h => hcs (h.subset hmark)

/-- What stands between braces, or alone, is left of a text without letters of the two marks. -/
lemma decorates_braced {body digits : List Char} (front back : List Char)
    (hfront : ∀ c ∈ front, isBrace c) (hback : ∀ c ∈ back, isBrace c) (hletter : 'u' ∉ body)
    (hbody : body.filter (· != '-') = digits) : Decorates digits (front ++ body ++ back) := by
  have hbrace : ∀ {cs : List Char}, (∀ c ∈ cs, isBrace c) → 'u' ∉ cs := fun h hmem =>
    absurd (h 'u' hmem) (by decide)
  have hletters : 'u' ∉ front ++ body ++ back := by
    simp only [List.mem_append, not_or]
    exact ⟨⟨hbrace hfront, hletter⟩, hbrace hback⟩
  exact .intro (.absent (not_infix_of_notMem (by decide) hletters))
    (.absent (not_infix_of_notMem (by decide) hletters)) hfront hback hbody

lemma decorates_resource {body digits : List Char} (hurn : 'r' ∉ body) (huuid : 'u' ∉ body)
    (hbody : body.filter (· != '-') = digits) : Decorates digits ("urn:uuid:".toList ++ body) := by
  have hrest : Deletes "urn:".toList ("uuid:".toList ++ body) ("uuid:".toList ++ body) := by
    refine .absent (not_infix_of_notMem (c := 'r') (by decide) ?_)
    rw [List.mem_append, not_or]
    exact ⟨by decide, hurn⟩
  have hfirst : Deletes "urn:".toList ("urn:uuid:".toList ++ body) ("uuid:".toList ++ body) :=
    .found [] (by decide) hrest
  have hsecond : Deletes "uuid:".toList ("uuid:".toList ++ body) ([] ++ body ++ []) := by
    rw [List.append_nil]
    exact .found [] (by decide) (.absent (not_infix_of_notMem (by decide) huuid))
  exact .intro hfirst hsecond (by simp) (by simp) hbody

/-- The digits are left of each of their forms. -/
lemma decorates_of_mem_forms {digits cs : List Char} (hhex : ∀ c ∈ digits, (hexValue? c).isSome)
    (h : cs ∈ forms digits) : Decorates digits cs := by
  have hdigits : ∀ {c : Char}, hexValue? c = none → c ∉ digits := fun hnone hmem => by
    have hsome := hhex _ hmem
    rw [hnone] at hsome
    cases hsome
  obtain ⟨body, hmem, hcs⟩ := List.mem_flatMap.1 h
  have hbody : body.filter (· != '-') = digits ∧ ∀ c ∈ body, c = '-' ∨ c ∈ digits := by
    have hhyphen : '-' ∉ digits := hdigits (by decide)
    rw [List.mem_cons, List.mem_singleton] at hmem
    rcases hmem with rfl | rfl
    · exact ⟨filter_grouped [] hhyphen, fun c hc => .inr hc⟩
    · exact ⟨filter_grouped _ hhyphen, fun c hc => mem_grouped hc⟩
  obtain ⟨hfilter, hchars⟩ := hbody
  have hletter : ∀ {c : Char}, c ≠ '-' → hexValue? c = none → c ∉ body := fun hne hnone hc =>
    (hchars _ hc).elim hne (hdigits hnone)
  simp only [List.mem_cons, List.not_mem_nil, or_false] at hcs
  rcases hcs with rfl | rfl | rfl
  · have halone := decorates_braced [] [] (by simp) (by simp)
      (hletter (c := 'u') (by decide) (by decide)) hfilter
    rwa [List.append_nil] at halone
  · exact decorates_braced ['{'] ['}'] (by decide) (by decide)
      (hletter (c := 'u') (by decide) (by decide)) hfilter
  · exact decorates_resource (hletter (by decide) (by decide)) (hletter (by decide) (by decide))
      hfilter

lemma isNumeral_of_hexDigits {digits : List Char} (hne : digits ≠ [])
    (hhex : ∀ c ∈ digits, (hexValue? c).isSome) : IsNumeral digits := by
  have hrun : DigitRun .hexadecimal digits := by
    refine digitRun_of_forall hne fun c hc => ?_
    rw [Radix.digit?, Option.isSome_or, hhex c hc, Bool.or_true]
  have hnumeral : IsNumeral ([] ++ ([] ++ ([] ++ (digits ++ [])))) :=
    .intro (by simp) List.mem_cons_self .none hrun (by simp)
  simpa using hnumeral

/-- The digits of a form are what is left of it. -/
lemma bareUuid_of_mem_forms {digits cs : List Char} (hhex : ∀ c ∈ digits, (hexValue? c).isSome)
    (h : cs ∈ forms digits) : bareUuid cs = digits := by
  refine (decorates_of_mem_forms hhex h).bareUuid_eq (fun hc => ?_) fun hc => ?_
  · exact absurd (hhex '{' hc) (by decide)
  · exact absurd (hhex '}' hc) (by decide)

/-- A text has one of the forms exactly if it is a form of what is left of it. -/
lemma hasForm_iff (cs : List Char) :
    HasForm cs ↔ (bareUuid cs).length = 32 ∧ (∀ c ∈ bareUuid cs, (hexValue? c).isSome) ∧
      cs ∈ forms (bareUuid cs) := by
  constructor
  · rintro ⟨digits, hlength, hhex, hmem⟩
    rw [bareUuid_of_mem_forms hhex hmem]
    exact ⟨hlength, hhex, hmem⟩
  · exact fun h => ⟨bareUuid cs, h⟩

instance (cs : List Char) : Decidable (HasForm cs) :=
  decidable_of_iff _ (hasForm_iff cs).symm

/-! ## UUIDs -/

lemma bareUuid_of_isNumeral {digits cs : List Char} (hnumeral : IsNumeral digits)
    (h : Decorates digits cs) : bareUuid cs = digits :=
  h.bareUuid_eq (fun hc => absurd (hnumeral.mem '{' hc) (by decide)) fun hc =>
    absurd (hnumeral.mem '}' hc) (by decide)

/-- What is left of a text in no form has some other character, or had another decoration. -/
lemma not_hasForm_iff {digits cs : List Char} (hlength : digits.length = 32)
    (hnumeral : IsNumeral digits) (h : Decorates digits cs) :
    ¬ HasForm cs ↔ (∃ c ∈ digits, hexValue? c = none) ∨ cs ∉ forms digits := by
  rw [hasForm_iff, bareUuid_of_isNumeral hnumeral h, and_iff_right hlength, not_and_or]
  simp

lemma isUuid_iff_bareUuid (text : String) :
    isUuid text ↔ (bareUuid (trim text.toList)).length = 32 ∧
      IsNumeral (bareUuid (trim text.toList)) := by
  rw [← exists_readInteger_iff, isUuid, Bool.and_eq_true, beq_iff_eq]
  refine and_congr_right fun _ => ?_
  cases readInteger .hexadecimal (bareUuid (trim text.toList)) <;> simp

lemma isUuid_iff_decorates (text : String) :
    isUuid text ↔ ∃ digits, digits.length = 32 ∧ IsNumeral digits ∧
      Decorates digits (trim text.toList) := by
  rw [isUuid_iff_bareUuid]
  constructor
  · rintro ⟨hlength, hnumeral⟩
    exact ⟨_, hlength, hnumeral, decorates_bareUuid _⟩
  · rintro ⟨digits, hlength, hnumeral, hleft⟩
    rw [bareUuid_of_isNumeral hnumeral hleft]
    exact ⟨hlength, hnumeral⟩

/-- Each of the forms is recognised. -/
lemma isUuid_of_hasForm {text : String} (h : HasForm (trim text.toList)) : isUuid text := by
  obtain ⟨digits, hlength, hhex, hmem⟩ := h
  have hne : digits ≠ [] := by
    rintro rfl
    cases hlength
  exact (isUuid_iff_decorates text).2
    ⟨digits, hlength, isNumeral_of_hexDigits hne hhex, decorates_of_mem_forms hhex hmem⟩

/-- A text is taken for a UUID exactly if, without its decoration, it is a numeral of 32 characters.  Every
text in one of the forms is one.  The others that are taken for one are those in whose numeral a character is
no hexadecimal digit, and those whose decoration is not that of a form. -/
theorem isUuid_iff_exists_numeral (text : String) :
    let cs := trim text.toList
    (isUuid text ↔ ∃ digits, digits.length = 32 ∧ IsNumeral digits ∧ Decorates digits cs) ∧
    (HasForm cs → isUuid text) ∧
    (isUuid text ∧ ¬ HasForm cs ↔ ∃ digits, digits.length = 32 ∧ IsNumeral digits ∧
      Decorates digits cs ∧ ((∃ c ∈ digits, hexValue? c = none) ∨ cs ∉ forms digits)) := by
  intro cs
  refine ⟨isUuid_iff_decorates text, isUuid_of_hasForm, ?_⟩
  rw [isUuid_iff_decorates, ← exists_and_right]
  refine exists_congr fun digits => ?_
  rw [and_assoc, and_assoc]
  refine and_congr_right fun hlength => and_congr_right fun hnumeral => and_congr_right fun hleft => ?_
  exact not_hasForm_iff hlength hnumeral hleft

/-- Words with underscores between them, of letters that are hexadecimal digits, are taken for a UUID. -/
theorem words_between_underscores_are_a_uuid :
    let text := "dead_beef_dead_beef_dead_beef_00"
    isUuid text ∧ ¬ HasForm (trim text.toList) ∧ ofString text = ⟨.uuid, some "uuid", "UUID"⟩ := by
  decide

end RestConnector.Scalar
