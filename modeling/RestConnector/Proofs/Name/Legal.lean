import RestConnector.Proofs.Name.Plural
import RestConnector.Proofs.Name.Wordy

/-!
# Names that can be declared

A name can be declared in the generated code if it is an identifier and no keyword (`IsLegal`); the name of
a record field has to stay clear of the names that record classes have of their own as well
(`IsLegalField`).  Every kind of name is mended in its own way, and something may still be put behind a name
when that is done.

Two observations are enough for all of them.  Every keyword and every reserved name ends in a letter
(`endsInLetter_of_mem_keywords`, `endsInLetter_of_mem_reservedFields`), so that an underscore or a number
behind a name makes it none of them, and a later step never undoes an earlier one.  And a plural ends in s or
in one of the listed words, which none of the keywords does that begin with a capital (`isLegal_pluralize`).
-/

namespace RestConnector.Name

open RestConnector.Text

/-- A name that can be declared. -/
structure IsLegal (name : String) : Prop where
  isIdentifier : IsIdentifier name
  not_keyword : name ∉ keywords

/-- A name that can be declared as a field of a record. -/
structure IsLegalField (name : String) : Prop extends IsLegal name where
  not_reserved : name ∉ reservedFields

/-! ## Last characters -/

/-- Whether the last character of a name is a letter. -/
def endsInLetter (name : String) : Bool :=
  name.toList.getLast?.any fun c => IsLetter c

lemma endsInLetter_of_mem_keywords : ∀ name ∈ keywords, endsInLetter name := by decide

lemma endsInLetter_of_mem_reservedFields : ∀ name ∈ reservedFields, endsInLetter name := by decide

variable {name fallback : String}

lemma notMem_keywords (h : endsInLetter name = false) : name ∉ keywords := by
  intro hm
  rw [endsInLetter_of_mem_keywords name hm] at h
  cases h

lemma notMem_reservedFields (h : endsInLetter name = false) : name ∉ reservedFields := by
  intro hm
  rw [endsInLetter_of_mem_reservedFields name hm] at h
  cases h

lemma endsInLetter_underscore (name : String) : endsInLetter (name ++ "_") = false := by
  have hlast : (name ++ "_").toList.getLast? = some '_' := by simp
  rw [endsInLetter, hlast]
  decide

lemma endsInLetter_numbered (name : String) (k : Nat) : endsInLetter (numbered name k) = false := by
  have hne : (toString k).toList ≠ [] := by
    rw [Nat.toString_eq_repr, Nat.toList_repr]
    exact Nat.toDigits_ne_nil
  have hdigit : ∀ c ∈ (toString k).toList, c.isDigit := by
    intro c hc
    rw [Nat.toString_eq_repr, Nat.toList_repr] at hc
    exact Nat.isDigit_of_mem_toDigits (by decide) (by decide) hc
  rw [endsInLetter, numbered, String.toList_append, List.getLast?_append_of_ne_nil _ hne,
    List.getLast?_eq_some_getLast hne, Option.any_some, decide_eq_false_iff_not]
  intro hletter
  have hdecimal := isDecimal_of_isDigit (hdigit _ (List.getLast_mem hne))
  rw [hletter.not_isDecimal] at hdecimal
  cases hdecimal

/-! ## Mended names -/

/-- A name of words that begins with a letter is an identifier. -/
lemma IsWordy.isIdentifier {c : Char} (h : IsWordy name) (hhead : name.toList.head? = some c)
    (hc : IsLetter c) : IsIdentifier name := by
  refine ⟨fun he => ?_, h, ?_⟩
  · rw [he] at hhead
    cases hhead
  · rw [startsWithDigit, hhead]
    exact hc.not_isDigit

lemma avoidKeyword_notMem (name : String) : avoidKeyword name ∉ keywords := by
  unfold avoidKeyword
  split
  · exact notMem_keywords (endsInLetter_underscore name)
  · assumption

lemma IsMarked.isIdentifier {marked : String} (h : IsMarked name marked) (hname : IsIdentifier name) :
    IsIdentifier marked := by
  rcases h with rfl | rfl
  · exact hname
  · exact hname.append (by decide)

lemma IsIdentifier.avoidKeyword (h : IsIdentifier name) : IsLegal (avoidKeyword name) :=
  ⟨(isMarked_avoidKeyword name).isIdentifier h, avoidKeyword_notMem name⟩

lemma isIdentifier_coverDigit (hne : name ≠ "") (h : IsWordy name) :
    IsIdentifier (coverDigit name) := by
  refine ⟨coverDigit_ne_empty hne, ?_, startsWithDigit_coverDigit name⟩
  unfold coverDigit
  split
  · exact isWordy_append.2 ⟨by decide, h⟩
  · exact h

lemma isLegal_safeIdentifier (h : IsWordy name) (hfallback : IsLegal fallback) :
    IsLegal (safeIdentifier name fallback) := by
  by_cases hne : name = ""
  · have hempty : safeIdentifier name fallback = fallback := by simp [safeIdentifier, hne]
    rwa [hempty]
  · rw [safeIdentifier_of_ne_empty fallback hne]
    exact (isIdentifier_coverDigit hne h).avoidKeyword

/-- Every type name can be declared, if the name that stands in for nothing can. -/
theorem isLegal_typeName {f : Char} (hfallback : IsLegal fallback)
    (hhead : fallback.toList.head? = some f) (hf : IsLetter f) (name : String) :
    IsLegal (typeName name fallback) := by
  obtain ⟨c, hc, hletter⟩ := exists_head?_typeName hhead hf name
  have hwordy := isWordy_typeName name hfallback.isIdentifier.chars
  refine ⟨hwordy.isIdentifier hc hletter, ?_⟩
  unfold typeName
  dsimp only
  split
  · exact hfallback.not_keyword
  · exact avoidKeyword_notMem _

/-- With a fallback that begins with a capital, so does every type name. -/
lemma exists_capital_typeName {f : Char} (hhead : fallback.toList.head? = some f) (hf : f.isUpper)
    (name : String) : ∃ c, (typeName name fallback).toList.head? = some c ∧ c.isUpper :=
  exists_head?_typeName_of (fun _ => id) hhead hf name

/-! ## Fields -/

lemma IsMarked.notMem_reservedFields {marked : String} (h : IsMarked name marked)
    (hname : name ∉ reservedFields) : marked ∉ reservedFields := by
  rcases h with rfl | rfl
  · exact hname
  · exact Name.notMem_reservedFields (endsInLetter_underscore name)

lemma avoidReserved_notMem (name : String) : avoidReserved name ∉ reservedFields := by
  unfold avoidReserved
  split
  · exact notMem_reservedFields (endsInLetter_underscore name)
  · assumption

lemma isIdentifier_ledName {key : String} (h : snakeCase key ≠ "") : IsIdentifier (ledName key) := by
  have hwordy := isWordy_snakeCase key
  refine ⟨ledName_ne_empty h, ?_, startsWithDigit_ledName key⟩
  unfold ledName
  split
  · exact isWordy_append.2 ⟨by decide, hwordy⟩
  · exact hwordy

/-- A field name is not reserved, for what is put behind it ends in no letter. -/
theorem isLegalField_fieldName (key : String) : IsLegalField (fieldName key) := by
  by_cases h : snakeCase key = ""
  · have hempty : fieldName key = "field" := by simp [fieldName, h]
    rw [hempty]
    exact ⟨⟨⟨by decide, by decide, by decide⟩, by decide⟩, by decide⟩
  · have hidentifier : IsIdentifier (avoidReserved (ledName key)) :=
      (isMarked_avoidReserved _).isIdentifier (isIdentifier_ledName h)
    rw [fieldName_of_ne_empty h]
    exact ⟨hidentifier.avoidKeyword,
      (isMarked_avoidKeyword _).notMem_reservedFields (avoidReserved_notMem (ledName key))⟩

/-! ## Numbered names -/

lemma IsLegal.freshName (h : IsLegal name) (taken : List String) : IsLegal (freshName taken name) := by
  unfold Name.freshName
  split
  · refine ⟨?_, notMem_keywords (endsInLetter_numbered name _)⟩
    rw [numbered, String.append_assoc]
    have hnumber : IsWordy (numbered "" (firstFree taken name taken.length 2)) :=
      isWordy_numbered (by decide) _
    rw [numbered, String.empty_append] at hnumber
    exact h.isIdentifier.append hnumber
  · exact h

lemma IsLegalField.freshName (h : IsLegalField name) (taken : List String) :
    IsLegalField (freshName taken name) := by
  refine ⟨h.toIsLegal.freshName taken, ?_⟩
  unfold Name.freshName
  split
  · exact notMem_reservedFields (endsInLetter_numbered name _)
  · exact h.not_reserved

/-! ## Plurals -/

/-- The keywords that begin with a capital end in no plural. -/
lemma not_suffix_of_mem_keywords : ∀ word ∈ keywords, word.toList.head?.any Char.isUpper →
    (∀ c ∈ word.toList, isWordChar c) ∧
      ∀ ending ∈ "s" :: listedPlurals, ¬ ending.toList <:+ word.toList.map Char.toLower := by
  decide

lemma toLower_of_isLower {c : Char} (h : c.isLower) : c.toLower = c := by
  apply toLower_of_not_isUpper
  have hc := isLower_iff.1 h
  rw [isUpper_iff]
  omega

lemma toLower_toUpper {c : Char} (h : c.isLower) : c.toUpper.toLower = c := by
  have hc := isLower_iff.1 h
  apply Char.toNat_inj.1
  rw [toNat_toLower, if_pos (isUpper_toUpper h), toNat_toUpper, if_pos h]
  omega

/-- A word that is matched in letter case with another is the same in small letters. -/
lemma map_toLower_matchCase (model : List Char) {result : List Char}
    (h : ∀ c ∈ result, c.isLower) : (matchCase model result).map Char.toLower = result := by
  have hsmall : ∀ cs : List Char, (∀ c ∈ cs, c.isLower) → cs.map Char.toLower = cs := by
    intro cs hcs
    rw [List.map_congr_left fun c hc => toLower_of_isLower (hcs c hc), List.map_id']
  unfold matchCase
  split
  · rw [List.map_map]
    refine (List.map_congr_left fun c hc => ?_).trans (List.map_id' result)
    exact toLower_toUpper (h c hc)
  · split
    · cases result with
      | nil => rfl
      | cons c cs =>
        obtain ⟨hc, hcs⟩ := List.forall_mem_cons.1 h
        rw [capitalize, List.map_cons, toLower_toUpper hc, hsmall cs hcs]
    · exact hsmall result h

/-- The capital in front of a word is kept. -/
lemma head?_matchCase {model result : List Char} {c d : Char} (hmodel : model.head? = some c)
    (hc : c.isUpper) (hresult : result.head? = some d) :
    (matchCase model result).head? = some d.toUpper := by
  unfold matchCase
  split
  · rw [List.head?_map, hresult, Option.map_some]
  · obtain ⟨rest, rfl⟩ := List.head?_eq_some_iff.1 hresult
    rw [if_pos (by simp [hmodel, hc])]
    rfl

lemma pluralOf_ne_nil (word : List Char) : pluralOf word ≠ [] := by
  obtain ⟨ending, hm, hsuffix⟩ := exists_suffix_pluralOf word
  have hendings : ∀ ending ∈ "s" :: listedPlurals, ending.toList ≠ [] := by decide
  intro he
  rw [he] at hsuffix
  exact hendings ending hm (List.suffix_nil.1 hsuffix)

/-- A name is its own plural, or has the plural of its last word in place of that word. -/
lemma pluralize_cases (name : String) :
    pluralize name = name ∨
      ∃ found : Located, ∃ plural, found.IsLast ∧ found.text = name.toList ∧
        (∃ word, plural = pluralOf word) ∧ (∀ c ∈ plural, c.isLower) ∧
        (pluralize name).toList = found.before ++ matchCase found.word plural ++ found.behind := by
  rcases mapLastWord_cases name.toList with hsame | ⟨found, hlast, htext, hletters, hreworded⟩
  · exact .inl (by rw [pluralize, onChars, hsame, String.ofList_toList])
  · refine .inr ⟨found, _, hlast, htext, ⟨found.word.map Char.toLower, rfl⟩, ?_, ?_⟩
    · exact isLower_pluralOf (isLower_map_toLower hletters)
    · rw [pluralize, toList_onChars, hreworded]
      rfl

lemma IsWordy.pluralize (h : IsWordy name) : IsWordy (pluralize name) := by
  rcases pluralize_cases name with hsame | ⟨found, plural, -, htext, -, hlower, hlist⟩
  · rwa [hsame]
  · have hmatched : ∀ c ∈ matchCase found.word plural, isWordChar c :=
      forall_mem_matchCase (p := (isWordChar ·)) (fun _ => isWordChar_toUpper)
        fun c hc => isWordChar_iff.2 (.inl (.inr (hlower c hc)))
    rw [IsWordy, ← htext, Located.text, List.forall_mem_append, List.forall_mem_append] at h
    rw [IsWordy, hlist, List.forall_mem_append, List.forall_mem_append]
    exact ⟨⟨h.1.1, fun c hc => .inr (hmatched c hc)⟩, h.2⟩

/-- The first character stays, or it is the capital of the only word. -/
lemma exists_head?_pluralize {c : Char} (hhead : name.toList.head? = some c) (hc : c.isUpper) :
    ∃ d, (pluralize name).toList.head? = some d ∧ d.isUpper := by
  rcases pluralize_cases name with hsame | ⟨found, plural, hlast, htext, hplural, hlower, hlist⟩
  · exact ⟨c, by rw [hsame, hhead], hc⟩
  rw [hlist, List.append_assoc]
  rw [← htext, Located.text, List.append_assoc] at hhead
  cases hbefore : found.before with
  | cons d before =>
    rw [hbefore] at hhead
    exact ⟨c, hhead, hc⟩
  | nil =>
    obtain ⟨word, rfl⟩ := hplural
    obtain ⟨d, rest, hd⟩ := List.exists_cons_of_ne_nil (pluralOf_ne_nil word)
    rw [hbefore, List.nil_append, List.head?_append_of_ne_nil _ hlast.ne_nil] at hhead
    have hmatched := head?_matchCase hhead hc (List.head?_eq_some_iff.2 ⟨rest, hd⟩)
    have hsmall : d.isLower := hlower d (by rw [hd]; exact List.mem_cons_self)
    refine ⟨d.toUpper, ?_, isUpper_toUpper hsmall⟩
    rw [List.nil_append, List.head?_append, hmatched]
    rfl

lemma pluralize_notMem_keywords (h : name ∉ keywords)
    (hhead : (pluralize name).toList.head?.any Char.isUpper) : pluralize name ∉ keywords := by
  intro hm
  rcases pluralize_cases name with hsame | ⟨found, plural, hlast, -, ⟨word, rfl⟩, hlower, hlist⟩
  · exact h (hsame ▸ hm)
  obtain ⟨hwords, hendings⟩ := not_suffix_of_mem_keywords _ hm hhead
  obtain ⟨ending, hending, hsuffix⟩ := exists_suffix_pluralOf word
  refine hendings ending hending ?_
  -- A keyword has word characters only, so that the plural stands at its end.
  have hbehind : found.behind = [] := by
    refine List.eq_nil_iff_forall_not_mem.2 fun c hc => ?_
    have hword := hwords c (by rw [hlist]; exact List.mem_append_right _ hc)
    rw [hlast.behind c hc] at hword
    cases hword
  rw [hlist, hbehind, List.append_nil, List.map_append, map_toLower_matchCase found.word hlower]
  exact hsuffix.trans (List.suffix_append _ _)

/-- A name that can be declared and begins with a capital can be declared in the plural. -/
theorem isLegal_pluralize {c : Char} (h : IsLegal name) (hhead : name.toList.head? = some c)
    (hc : c.isUpper) : IsLegal (pluralize name) := by
  have hwordy : IsWordy name := h.isIdentifier.chars
  obtain ⟨d, hd, hupper⟩ := exists_head?_pluralize hhead hc
  refine ⟨hwordy.pluralize.isIdentifier hd (.inl hupper), ?_⟩
  exact pluralize_notMem_keywords h.not_keyword (by simp [hd, hupper])

end RestConnector.Name
