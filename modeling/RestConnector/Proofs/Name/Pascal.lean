import RestConnector.Proofs.Name.Identifier
import RestConnector.Text.Case

/-!
# Names of types

Pascal case runs the words of a name together and gives each a capital first letter.  In the result a
small letter never stands at the beginning and never behind a digit (`IsPascal`), and that is enough to
find the boundaries of all words again: a name in Pascal case is its own Pascal case
(`pascalCase_pascalCase`).

`typeName` mends what Pascal case leaves open.  A name whose first word character is a letter needs no
fallback (`typeName_of_letter`), and the type name of a type name is itself.  A name without words, or
with a number in front, takes the fallback as its beginning (`typeName_of_no_words`,
`typeName_of_decimal`).  With a fallback that begins with a letter every type name begins with a letter,
so that its snake case has the form of an identifier (`isIdentifier_snakeCase`).
-/

namespace RestConnector.Name

open RestConnector.Text

/-! ## Capitals -/

lemma toNat_toUpper (c : Char) :
    c.toUpper.toNat = if c.isLower then c.toNat - 32 else c.toNat := by
  have hval : c.isLower ↔ c.val ≥ 'a'.val ∧ c.val ≤ 'z'.val := by
    show (decide (c.val ≥ 'a'.val) && decide (c.val ≤ 'z'.val)) = true ↔ _
    rw [Bool.and_eq_true, decide_eq_true_iff, decide_eq_true_iff]
  by_cases h : c.isLower
  · have hc := isLower_iff.1 h
    rw [if_pos h]
    delta Char.toUpper
    rw [dif_pos (hval.1 h)]
    simp only [Char.toNat_mk, UInt32.toNat_add]
    simp
    omega
  · rw [if_neg h]
    delta Char.toUpper
    rw [dif_neg (hval.not.1 h)]

lemma toUpper_of_not_isLower {c : Char} (h : ¬ c.isLower) : c.toUpper = c := by
  apply Char.toNat_inj.1
  rw [toNat_toUpper, if_neg h]

lemma isUpper_toUpper {c : Char} (h : c.isLower) : c.toUpper.isUpper := by
  have hc := isLower_iff.1 h
  rw [isUpper_iff, toNat_toUpper, if_pos h]
  omega

/-- Whether a character is one of the letters that stand in words. -/
def IsLetter (c : Char) : Prop := c.isUpper ∨ c.isLower

instance : DecidablePred IsLetter := fun c => inferInstanceAs (Decidable (c.isUpper ∨ c.isLower))

lemma isWordChar_iff {c : Char} : isWordChar c ↔ IsLetter c ∨ isDecimal c := by
  simp [isWordChar, IsLetter]

lemma IsLetter.isUpper_toUpper {c : Char} (h : IsLetter c) : c.toUpper.isUpper := by
  rcases h with h | h
  · have hl : ¬ c.isLower := by
      have := isUpper_iff.1 h
      rw [isLower_iff]
      omega
    rwa [toUpper_of_not_isLower hl]
  · exact Name.isUpper_toUpper h

/-- The digits of ASCII are ten, and all others lie beyond ASCII. -/
lemma toNat_of_isDigit {c : Char} (h : isDigit c) :
    (48 ≤ c.toNat ∧ c.toNat < 58) ∨ 128 ≤ c.toNat := by
  have hzeros : ∀ start ∈ decimalZeros, start = 48 ∨ 128 ≤ start := by decide
  have hruns : ∀ run ∈ placelessDigits, 128 ≤ run.1 := by decide
  simp only [isDigit, isDecimal, Bool.or_eq_true, List.any_eq_true, Bool.and_eq_true,
    decide_eq_true_eq] at h
  rcases h with ⟨start, hm, hle, hlt⟩ | ⟨run, hm, hle, -⟩
  · rcases hzeros start hm with rfl | hbeyond
    · exact .inl ⟨hle, hlt⟩
    · exact .inr (by omega)
  · have := hruns run hm
    exact .inr (by omega)

lemma IsLetter.not_isDigit {c : Char} (h : IsLetter c) : isDigit c = false := by
  rw [Bool.eq_false_iff]
  intro hd
  have hrange := toNat_of_isDigit hd
  rcases h with h | h
  · have := isUpper_iff.1 h
    omega
  · have := isLower_iff.1 h
    omega

lemma IsLetter.toLower {c : Char} (h : IsLetter c) : IsLetter c.toLower := by
  by_cases hu : c.isUpper
  · exact .inr (isLower_toLower hu)
  · rwa [toLower_of_not_isUpper hu]

lemma IsLetter.not_isDecimal {c : Char} (h : IsLetter c) : isDecimal c = false := by
  have hd := h.not_isDigit
  rw [isDigit, Bool.or_eq_false_iff] at hd
  exact hd.1

lemma toUpper_of_isDecimal {c : Char} (h : isDecimal c) : c.toUpper = c := by
  apply toUpper_of_not_isLower
  intro hl
  have := IsLetter.not_isDecimal (.inr hl)
  rw [h] at this
  cases this

/-! ## Boundaries of words -/

/-- What joins a character is a word character, and a small letter joins letters only. -/
lemma exists_of_joins {c : Char} {cs : List Char} (h : joins c cs) :
    ∃ d rest, cs = d :: rest ∧ isWordChar d ∧ (d.isLower → IsLetter c) := by
  cases cs with
  | nil => simp [joins] at h
  | cons d rest =>
    refine ⟨d, rest, rfl, ?_, fun hd => ?_⟩
    · simp only [joins, Bool.or_eq_true, Bool.and_eq_true] at h
      rw [isWordChar_iff]
      rcases h with ((⟨-, hd⟩ | ⟨-, hd⟩) | ⟨⟨-, hd⟩, -⟩) | ⟨-, hd⟩
      · exact .inl (.inr hd)
      · exact .inl (.inr hd)
      · exact .inl (.inl hd)
      · exact .inr hd
    · simp only [joins, Bool.or_eq_true, Bool.and_eq_true] at h
      rcases h with ((⟨hc, -⟩ | ⟨hc, -⟩) | ⟨⟨hc, -⟩, -⟩) | ⟨-, hdec⟩
      · exact .inr hc
      · exact .inl hc
      · exact .inl hc
      · have := IsLetter.not_isDecimal (.inr hd)
        rw [hdec] at this
        cases this

lemma joins_of_isLower {c d : Char} (hc : IsLetter c) (hd : d.isLower) (rest : List Char) :
    joins c (d :: rest) := by
  rcases hc with hc | hc <;> simp [joins, hc, hd]

lemma exists_wordsOf_cons {c : Char} (h : isWordChar c) (cs : List Char) :
    ∃ word rest, wordsOf (c :: cs) = (c :: word) :: rest := by
  by_cases hj : joins c cs
  · cases hw : wordsOf cs with
    | nil => exact ⟨[], [], by simp [wordsOf, h, hj, hw, attach]⟩
    | cons word rest => exact ⟨word, rest, by simp [wordsOf, h, hj, hw, attach]⟩
  · exact ⟨[], wordsOf cs, by simp [wordsOf, h, hj]⟩

/-! ## Pascal case -/

/-- The characters of a text in Pascal case. -/
def pascalChars (cs : List Char) : List Char :=
  (wordsOf cs).flatMap capitalize

lemma toList_pascalCase (name : String) : (pascalCase name).toList = pascalChars name.toList := by
  simp [pascalCase, pascalChars]

lemma pascalChars_of_not_word {c : Char} (h : ¬ isWordChar c) (cs : List Char) :
    pascalChars (c :: cs) = pascalChars cs := by
  simp [pascalChars, wordsOf, h]

lemma pascalChars_of_not_joins {c : Char} {cs : List Char} (h : isWordChar c)
    (hj : ¬ joins c cs) : pascalChars (c :: cs) = c.toUpper :: pascalChars cs := by
  simp [pascalChars, wordsOf, h, hj, capitalize]

/-- A character takes the capital of the word that it joins. -/
lemma pascalChars_of_joins {c d : Char} {rest : List Char} (h : isWordChar c) (hd : isWordChar d)
    (hj : joins c (d :: rest)) :
    ∃ tail, pascalChars (d :: rest) = d.toUpper :: tail ∧
      pascalChars (c :: d :: rest) = c.toUpper :: d :: tail := by
  obtain ⟨word, others, hw⟩ := exists_wordsOf_cons hd rest
  refine ⟨word ++ others.flatMap capitalize, ?_, ?_⟩
  · simp [pascalChars, hw, capitalize]
  · have hc : wordsOf (c :: d :: rest) = attach c (wordsOf (d :: rest)) := by
      rw [wordsOf, if_pos h, if_pos hj]
    simp [pascalChars, hc, hw, attach, capitalize]

/-- Small letters stand behind letters only. -/
structure IsPascal (cs : List Char) : Prop where
  isWordChar : ∀ c ∈ cs, isWordChar c
  front : startsLower cs = false
  chain : cs.IsChain fun c d => d.isLower → IsLetter c

lemma isWordChar_toUpper {c : Char} (h : isWordChar c) : isWordChar c.toUpper := by
  rcases isWordChar_iff.1 h with hc | hc
  · exact isWordChar_iff.2 (.inl (.inl hc.isUpper_toUpper))
  · rwa [toUpper_of_isDecimal hc]

lemma not_isLower_toUpper {c : Char} : c.toUpper.isLower = false := by
  rw [Bool.eq_false_iff]
  intro h
  have hl := isLower_iff.1 h
  rw [toNat_toUpper] at hl
  split at hl
  · next hc =>
    have := isLower_iff.1 hc
    omega
  · next hc => exact hc (isLower_iff.2 hl)

/-- A capital may stand in front of anything. -/
lemma IsPascal.cons {c : Char} {cs : List Char} (h : IsPascal cs) (hc : Name.isWordChar c) :
    IsPascal (c.toUpper :: cs) := by
  refine ⟨List.forall_mem_cons.2 ⟨isWordChar_toUpper hc, h.isWordChar⟩, not_isLower_toUpper, ?_⟩
  have hfront := h.front
  have hchain := h.chain
  cases cs with
  | nil => exact List.IsChain.singleton _
  | cons d rest =>
    refine List.isChain_cons_cons.2 ⟨fun hd => ?_, hchain⟩
    rw [startsLower, hd] at hfront
    cases hfront

/-- A character that joins the next word takes the capital from it. -/
lemma IsPascal.join {c d : Char} {tail : List Char} (h : IsPascal (d.toUpper :: tail))
    (hc : Name.isWordChar c) (hd : Name.isWordChar d) (hletter : d.isLower → IsLetter c) :
    IsPascal (c.toUpper :: d :: tail) := by
  obtain ⟨-, htail⟩ := List.forall_mem_cons.1 h.isWordChar
  refine ⟨?_, not_isLower_toUpper, ?_⟩
  · exact List.forall_mem_cons.2 ⟨isWordChar_toUpper hc, List.forall_mem_cons.2 ⟨hd, htail⟩⟩
  · refine List.isChain_cons_cons.2 ⟨fun hl => .inl (hletter hl).isUpper_toUpper, ?_⟩
    have hchain := h.chain
    cases tail with
    | nil => exact List.IsChain.singleton _
    | cons e rest =>
      obtain ⟨hpair, hrest⟩ := List.isChain_cons_cons.1 hchain
      refine List.isChain_cons_cons.2 ⟨fun he => ?_, hrest⟩
      -- A small letter is a letter as it is; anything else is its own capital.
      by_cases hl : d.isLower
      · exact .inr hl
      · rw [← toUpper_of_not_isLower hl]
        exact hpair he

/-- A text in Pascal case, whatever it comes from, has small letters behind letters only. -/
lemma isPascal_pascalChars (cs : List Char) : IsPascal (pascalChars cs) := by
  induction cs with
  | nil => exact ⟨by simp [pascalChars, wordsOf], rfl, by simp [pascalChars, wordsOf]⟩
  | cons c cs ih =>
    by_cases hc : isWordChar c
    · by_cases hj : joins c cs
      · obtain ⟨d, rest, rfl, hd, hletter⟩ := exists_of_joins hj
        obtain ⟨tail, htail, heq⟩ := pascalChars_of_joins hc hd hj
        rw [htail] at ih
        rw [heq]
        exact ih.join hc hd hletter
      · rw [pascalChars_of_not_joins hc hj]
        exact ih.cons hc
    · rw [pascalChars_of_not_word hc]
      exact ih

/-- Where small letters stand behind letters only, each of them joins what is before it. -/
lemma pascalChars_eq_capitalize {cs : List Char} (hw : ∀ c ∈ cs, isWordChar c)
    (hchain : cs.IsChain fun c d => d.isLower → IsLetter c) : pascalChars cs = capitalize cs := by
  induction cs with
  | nil => rfl
  | cons c cs ih =>
    have hc := hw c (by simp)
    cases cs with
    | nil => simp [pascalChars, wordsOf, hc, joins, capitalize]
    | cons d rest =>
      have hd := hw d (by simp)
      have hpair := List.isChain_cons_cons.1 hchain
      have ih' := ih (fun e he => hw e (by simp [he])) hpair.2
      by_cases hj : joins c (d :: rest)
      · obtain ⟨tail, htail, heq⟩ := pascalChars_of_joins hc hd hj
        rw [htail] at ih'
        rw [heq, (List.cons.inj ih').2]
        rfl
      · have hl : ¬ d.isLower := fun hl => hj (joins_of_isLower (hpair.1 hl) hl rest)
        rw [pascalChars_of_not_joins hc hj, ih']
        simp only [capitalize, toUpper_of_not_isLower hl]

lemma IsPascal.pascalChars_eq {cs : List Char} (h : IsPascal cs) : pascalChars cs = cs := by
  rw [pascalChars_eq_capitalize h.isWordChar h.chain]
  cases cs with
  | nil => rfl
  | cons c cs =>
    have hl : ¬ c.isLower := by
      have hfront := h.front
      rw [startsLower] at hfront
      rw [hfront]
      exact Bool.false_ne_true
    rw [capitalize, toUpper_of_not_isLower hl]

/-- Pascal case changes nothing the second time. -/
theorem pascalCase_pascalCase (name : String) : pascalCase (pascalCase name) = pascalCase name := by
  rw [← String.toList_inj, toList_pascalCase, toList_pascalCase]
  exact (isPascal_pascalChars name.toList).pascalChars_eq

/-! ## First characters -/

/-- The first character of a name's first word. -/
def initial? (name : String) : Option Char :=
  name.toList.find? isWordChar

/-- Whether the first word of a name begins with a letter. -/
def HasInitialLetter (name : String) : Prop :=
  ∃ c, initial? name = some c ∧ IsLetter c

lemma initial?_of_head? {name : String} {c : Char} (h : name.toList.head? = some c)
    (hc : isWordChar c) : initial? name = some c := by
  obtain ⟨cs, hcs⟩ := List.head?_eq_some_iff.1 h
  rw [initial?, hcs, List.find?_cons_of_pos hc]

lemma head?_pascalCase (name : String) :
    (pascalCase name).toList.head? = (initial? name).map Char.toUpper := by
  rw [toList_pascalCase, initial?]
  induction name.toList with
  | nil => rfl
  | cons c cs ih =>
    by_cases hc : isWordChar c
    · obtain ⟨word, rest, hw⟩ := exists_wordsOf_cons hc cs
      rw [List.find?_cons_of_pos hc, pascalChars, hw]
      rfl
    · rw [pascalChars_of_not_word hc, List.find?_cons_of_neg hc, ih]

lemma head?_snakeCase (name : String) :
    (snakeCase name).toList.head? = (initial? name).map Char.toLower := by
  have hflat := flatten_foldedWords name
  have hfind : (initial? name).map Char.toLower = (foldedWords name).flatten.head? := by
    rw [hflat, List.head?_map, List.head?_filter, initial?]
  rw [hfind, toList_snakeCase]
  cases hf : foldedWords name with
  | nil => rfl
  | cons word rest =>
    have hne : word ≠ [] := ne_nil_of_mem_foldedWords (by rw [hf]; simp)
    rw [head?_intercalate hne, List.flatten_cons, List.head?_append_of_ne_nil _ hne]

lemma head?_avoidKeyword {name : String} {c : Char} (h : name.toList.head? = some c) :
    (avoidKeyword name).toList.head? = some c := by
  unfold avoidKeyword
  split
  · rw [String.toList_append, List.head?_append, h]
    rfl
  · exact h

/-- A letter of ASCII is written in small by rule, whatever stands around it. -/
lemma head?_lower {text : String} {c : Char} (h : text.toList.head? = some c) (hc : IsLetter c) :
    (lower text).toList.head? = some c.toLower := by
  obtain ⟨cs, hcs⟩ := List.head?_eq_some_iff.1 h
  have hrange : c.toNat < 128 := by
    rcases hc with hc | hc
    · have := isUpper_iff.1 hc
      omega
    · have := isLower_iff.1 hc
      omega
  have hsigma : c ≠ 'Σ' := by
    rintro rfl
    revert hrange
    decide
  simp [lower, lowerChars, hcs, lowerFrom, hsigma, lowerChar, hrange]

/-! ## Type names -/

lemma typeName_of_no_words {name : String} (fallback : String) (h : initial? name = none) :
    typeName name fallback = fallback := by
  have hhead := head?_pascalCase name
  rw [h, Option.map_none, List.head?_eq_none_iff] at hhead
  have hempty : pascalCase name = "" := String.toList_inj.1 hhead
  simp [typeName, hempty]

lemma pascalCase_ne_empty {name : String} {c : Char} (h : initial? name = some c) :
    pascalCase name ≠ "" := by
  intro he
  have hhead := head?_pascalCase name
  rw [h, he] at hhead
  cases hhead

lemma typeName_of_letter {name : String} (fallback : String) (h : HasInitialLetter name) :
    typeName name fallback = avoidKeyword (pascalCase name) := by
  obtain ⟨c, hc, hletter⟩ := h
  have hdigit : startsWithDigit (pascalCase name) = false := by
    rw [startsWithDigit, head?_pascalCase, hc]
    exact IsLetter.not_isDigit (.inl hletter.isUpper_toUpper)
  simp [typeName, pascalCase_ne_empty hc, hdigit]

lemma typeName_of_decimal {name : String} {c : Char} (fallback : String)
    (h : initial? name = some c) (hc : isDecimal c) :
    typeName name fallback = avoidKeyword (fallback ++ pascalCase name) := by
  have hdigit : startsWithDigit (pascalCase name) = true := by
    rw [startsWithDigit, head?_pascalCase, h, Option.map_some, toUpper_of_isDecimal hc]
    simp [isDigit, hc]
  simp [typeName, pascalCase_ne_empty h, hdigit]

lemma wordsOf_append_of_not_word {x : Char} (hx : ¬ isWordChar x) (cs : List Char) :
    wordsOf (cs ++ [x]) = wordsOf cs := by
  have hkinds : x.isUpper = false ∧ x.isLower = false ∧ isDecimal x = false := by
    simpa [isWordChar, and_assoc] using hx
  have hjoins (c : Char) (cs : List Char) : joins c (cs ++ [x]) = joins c cs := by
    rcases cs with _ | ⟨d, _ | ⟨e, rest⟩⟩
    · simp [joins, hkinds]
    · simp [joins, startsLower, hkinds]
    · rfl
  induction cs with
  | nil => simp [wordsOf, hx]
  | cons c cs ih => rw [List.cons_append, wordsOf, wordsOf, hjoins, ih]

/-- The underscore behind a keyword is no part of a word. -/
lemma pascalCase_avoidKeyword (name : String) :
    pascalCase (avoidKeyword name) = pascalCase name := by
  have hunderscore : ¬ isWordChar '_' := by decide
  unfold avoidKeyword
  split
  · rw [← String.toList_inj, toList_pascalCase, toList_pascalCase, String.toList_append]
    exact congrArg (·.flatMap capitalize) (wordsOf_append_of_not_word hunderscore name.toList)
  · rfl

lemma head?_typeName_of_letter {name : String} {c : Char} (fallback : String)
    (h : initial? name = some c) (hc : IsLetter c) :
    (typeName name fallback).toList.head? = some c.toUpper := by
  rw [typeName_of_letter fallback ⟨c, h, hc⟩]
  apply head?_avoidKeyword
  rw [head?_pascalCase, h, Option.map_some]

/-- A name that has nothing else to begin with begins with the fallback. -/
lemma exists_typeName_eq_append {name : String} (fallback : String)
    (h : ¬ HasInitialLetter name) :
    ∃ rest, typeName name fallback = fallback ++ rest ∧
      ∀ c, rest.toList.head? = some c → isDecimal c := by
  cases hi : initial? name with
  | none =>
    refine ⟨"", by rw [typeName_of_no_words fallback hi, String.append_empty], ?_⟩
    intro c hc
    cases hc
  | some c =>
    have hdec : isDecimal c :=
      (isWordChar_iff.1 (List.find?_some hi)).resolve_left fun hl => h ⟨c, hi, hl⟩
    have hhead : (pascalCase name).toList.head? = some c := by
      rw [head?_pascalCase, hi, Option.map_some, toUpper_of_isDecimal hdec]
    rw [typeName_of_decimal fallback hi hdec]
    unfold avoidKeyword
    split
    · refine ⟨pascalCase name ++ "_", String.append_assoc, fun d hd => ?_⟩
      rw [String.toList_append, List.head?_append, hhead] at hd
      cases hd
      exact hdec
    · refine ⟨pascalCase name, rfl, fun d hd => ?_⟩
      rw [hhead] at hd
      cases hd
      exact hdec

/-- A type name begins with a capital or as its fallback does. -/
lemma exists_head?_typeName_of {fallback : String} {f : Char} {p : Char → Prop}
    (hupper : ∀ c : Char, c.isUpper → p c) (hf : fallback.toList.head? = some f) (hp : p f)
    (name : String) : ∃ c, (typeName name fallback).toList.head? = some c ∧ p c := by
  by_cases h : HasInitialLetter name
  · obtain ⟨c, hc, hletter⟩ := h
    exact ⟨_, head?_typeName_of_letter fallback hc hletter, hupper _ hletter.isUpper_toUpper⟩
  · obtain ⟨rest, he, -⟩ := exists_typeName_eq_append fallback h
    refine ⟨f, ?_, hp⟩
    rw [he, String.toList_append, List.head?_append, hf]
    rfl

/-- With a fallback that begins with a letter, so does every type name. -/
lemma exists_head?_typeName {fallback : String} {f : Char} (hf : fallback.toList.head? = some f)
    (hl : IsLetter f) (name : String) :
    ∃ c, (typeName name fallback).toList.head? = some c ∧ IsLetter c :=
  exists_head?_typeName_of (fun _ => .inl) hf hl name

/-- A fallback that is no empty text leaves no type name empty. -/
lemma typeName_ne_empty {fallback : String} (h : fallback ≠ "") (name : String) :
    typeName name fallback ≠ "" := by
  obtain ⟨f, rest, hf⟩ := List.exists_cons_of_ne_nil (String.toList_eq_nil_iff.not.2 h)
  obtain ⟨c, hc, -⟩ := exists_head?_typeName_of (p := fun _ => True) (fun _ _ => trivial)
    (congrArg List.head? hf) trivial name
  intro he
  rw [he] at hc
  cases hc

/-- The type name of a type name is itself, if no fallback had to help. -/
theorem typeName_typeName {name : String} (fallback other : String) (h : HasInitialLetter name) :
    typeName (typeName name fallback) other = typeName name fallback := by
  obtain ⟨c, hc, hletter⟩ := h
  have hhead := head?_typeName_of_letter fallback hc hletter
  have hupper : IsLetter c.toUpper := .inl hletter.isUpper_toUpper
  have hinitial : HasInitialLetter (typeName name fallback) :=
    ⟨c.toUpper, initial?_of_head? hhead (isWordChar_iff.2 (.inl hupper)), hupper⟩
  rw [typeName_of_letter other hinitial, typeName_of_letter fallback ⟨c, hc, hletter⟩,
    pascalCase_avoidKeyword, pascalCase_pascalCase]

/-! ## Identifiers -/

/-- The form of an identifier: letters, digits and underscores, and no digit in front. -/
structure IsIdentifier (name : String) : Prop where
  ne_empty : name ≠ ""
  chars : ∀ c ∈ name.toList, c = '_' ∨ isWordChar c
  no_digit : startsWithDigit name = false

/-- The characters of a text are checked one after the other. -/
lemma forall_of_all {text : String} (h : text.toList.all fun c => c = '_' || isWordChar c) :
    ∀ c ∈ text.toList, c = '_' ∨ isWordChar c := by
  intro c hc
  have hall := List.all_eq_true.1 h c hc
  rwa [Bool.or_eq_true, decide_eq_true_iff] at hall

lemma IsIdentifier.append {name suffix : String} (h : IsIdentifier name)
    (hs : ∀ c ∈ suffix.toList, c = '_' ∨ isWordChar c) : IsIdentifier (name ++ suffix) := by
  have hne : name.toList ≠ [] := fun hn => h.ne_empty (String.toList_inj.1 hn)
  refine ⟨fun he => hne ?_, fun c hc => ?_, ?_⟩
  · have hlist := congrArg String.toList he
    rw [String.toList_append] at hlist
    exact (List.append_eq_nil_iff.1 hlist).1
  · rw [String.toList_append, List.mem_append] at hc
    exact hc.elim (h.chars c) (hs c)
  · rw [startsWithDigit, String.toList_append, List.head?_append_of_ne_nil _ hne]
    exact h.no_digit

/-- The snake case of a name that begins with a letter is an identifier. -/
theorem isIdentifier_snakeCase {name : String} {c : Char} (h : name.toList.head? = some c)
    (hc : IsLetter c) : IsIdentifier (snakeCase name) := by
  have hhead : (snakeCase name).toList.head? = some c.toLower := by
    rw [head?_snakeCase, initial?_of_head? h (isWordChar_iff.2 (.inl hc)), Option.map_some]
  refine ⟨fun he => ?_, fun d hd => ?_, ?_⟩
  · rw [he] at hhead
    cases hhead
  · obtain rfl | ⟨e, -, he, rfl⟩ := mem_snakeCase hd
    · exact .inl rfl
    · exact .inr (isWordChar_toLower he)
  · rw [startsWithDigit, hhead]
    exact hc.toLower.not_isDigit

end RestConnector.Name
