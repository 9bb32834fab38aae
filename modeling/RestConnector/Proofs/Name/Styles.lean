import Mathlib.Data.List.Chain
import RestConnector.Proofs.Name.Legal

/-!
# Names that are written in a style twice

A style changes nothing the second time.  For the styles that only arrange words, this is because the words of
the result are known.  A word is of one kind, letters or decimal digits (`kind_of_mem_wordsOf`); in small
letters it is read as one word wherever it stands between underscores, so the words of a name in snake case are
the words it was made of (`wordsOf_intercalate`).  The words of a name in Pascal case need not be: `a-b` becomes
`AB`, which is one word.  There the argument is on letters (`IsPascal`).

What is mended in a name is mended for good.  A keyword or a reserved name gets an underscore behind it, which
is no part of a word, so the second time the same words come out and get the same underscore
(`IsMarked.snakeCase_eq`, `typeName_avoidKeyword`).  What a number gets in front is made of words itself.
-/

namespace RestConnector.Name

open RestConnector.Text

variable {name fallback : String} {word : List Char}

/-! ## Words of one kind -/

lemma kind_of_mem_wordsOf {cs : List Char} (h : word ∈ wordsOf cs) :
    (∀ c ∈ word, IsLetter c) ∨ ∀ c ∈ word, isDecimal c := by
  induction cs generalizing word with
  | nil => exact absurd h List.not_mem_nil
  | cons c cs ih =>
    by_cases hc : isWordChar c
    · by_cases hj : joins c cs
      · obtain ⟨d, rest, rfl, hd, -⟩ := exists_of_joins hj
        obtain ⟨tail, others, hwords⟩ := exists_wordsOf_cons hd rest
        rw [hwords] at ih
        rw [wordsOf, if_pos hc, if_pos hj, hwords, attach] at h
        rcases List.mem_cons.1 h with rfl | h
        · exact kind_cons_of_joins hj (ih List.mem_cons_self)
        · exact ih (List.mem_cons_of_mem _ h)
      · rw [wordsOf, if_pos hc, if_neg hj] at h
        rcases List.mem_cons.1 h with rfl | h
        · rw [List.forall_mem_singleton, List.forall_mem_singleton]
          exact isWordChar_iff.1 hc
        · exact ih h
    · rw [wordsOf, if_neg hc] at h
      exact ih h

/-- A word that is in small letters or a number. -/
structure IsFolded (word : List Char) : Prop where
  ne_nil : word ≠ []
  kind : (∀ c ∈ word, c.isLower) ∨ ∀ c ∈ word, isDecimal c

lemma toLower_of_isDecimal {c : Char} (h : isDecimal c) : c.toLower = c := by
  refine toLower_of_not_isUpper fun hupper => ?_
  rw [IsLetter.not_isDecimal (.inl hupper)] at h
  cases h

lemma isFolded_of_mem_foldedWords (h : word ∈ foldedWords name) : IsFolded word := by
  refine ⟨ne_nil_of_mem_foldedWords h, ?_⟩
  obtain ⟨original, horiginal, rfl⟩ := List.mem_map.1 h
  rcases kind_of_mem_wordsOf horiginal with hletters | hdecimals
  · exact .inl (isLower_map_toLower hletters)
  · refine .inr (List.forall_mem_map.2 fun c hc => ?_)
    rw [toLower_of_isDecimal (hdecimals c hc)]
    exact hdecimals c hc

/-- In front of something that is not of a word, a word in small letters is read as one. -/
lemma IsFolded.wordsOf_append (h : IsFolded word) (behind : List Char)
    (hbehind : ∀ c ∈ behind.head?, isWordChar c = false) :
    wordsOf (word ++ behind) = word :: wordsOf behind := by
  obtain ⟨hne, hkind⟩ := h
  induction word with
  | nil => exact absurd rfl hne
  | cons c rest ih =>
    have hc : isWordChar c := by
      rw [isWordChar_iff]
      exact hkind.imp (fun hsmall => .inr (hsmall c List.mem_cons_self)) fun hdec =>
        hdec c List.mem_cons_self
    cases rest with
    | nil =>
      have hj : ¬ joins c behind := fun hj => by
        obtain ⟨d, others, rfl, hd, -⟩ := exists_of_joins hj
        rw [hbehind d rfl] at hd
        cases hd
      rw [List.singleton_append, wordsOf, if_pos hc, if_neg hj]
    | cons d rest =>
      have hj : joins c (d :: rest ++ behind) := by
        rcases hkind with hsmall | hdecimals
        · simp [joins, hsmall c, hsmall d]
        · simp [joins, hdecimals c, hdecimals d]
      have hrest := ih (List.cons_ne_nil _ _)
        (hkind.imp (fun hsmall e he => hsmall e (List.mem_cons_of_mem _ he))
          fun hdecimals e he => hdecimals e (List.mem_cons_of_mem _ he))
      rw [List.cons_append, wordsOf, if_pos hc, if_pos hj, hrest, attach]

/-- Words in small letters are read back from between underscores. -/
lemma wordsOf_intercalate {words : List (List Char)} (h : ∀ word ∈ words, IsFolded word) :
    wordsOf (['_'].intercalate words) = words := by
  induction words with
  | nil => rfl
  | cons word rest ih =>
    obtain ⟨hword, hrest⟩ := List.forall_mem_cons.1 h
    cases rest with
    | nil =>
      have hread := hword.wordsOf_append [] (by simp)
      rw [List.append_nil] at hread
      rw [List.intercalate_singleton, hread, wordsOf]
    | cons next rest =>
      have hseparator : isWordChar '_' = false := isWordChar_underscore
      have hread := hword.wordsOf_append ('_' :: ['_'].intercalate (next :: rest))
        (by simpa using hseparator)
      rw [List.intercalate_cons_cons, List.append_assoc, List.singleton_append, hread, wordsOf,
        if_neg (by simp [hseparator]), ih hrest]

/-! ## Snake case -/

lemma IsFolded.map_toLower (h : IsFolded word) : word.map Char.toLower = word := by
  refine (List.map_congr_left fun c hc => ?_).trans (List.map_id word)
  rcases h.kind with hsmall | hdecimals
  · exact toLower_of_isLower (hsmall c hc)
  · exact toLower_of_isDecimal (hdecimals c hc)

/-- Words in small letters with underscores between them are in snake case. -/
lemma snakeCase_eq_self {words : List (List Char)} (hname : name.toList = ['_'].intercalate words)
    (h : ∀ word ∈ words, IsFolded word) : snakeCase name = name := by
  have hfolded : foldedWords name = words := by
    rw [foldedWords, hname, wordsOf_intercalate h]
    exact (List.map_congr_left fun word hword => (h word hword).map_toLower).trans (List.map_id words)
  rw [← String.toList_inj, toList_snakeCase, hfolded, hname]

/-- Snake case changes nothing the second time. -/
theorem snakeCase_snakeCase (name : String) : snakeCase (snakeCase name) = snakeCase name :=
  snakeCase_eq_self (toList_snakeCase name) fun _ => isFolded_of_mem_foldedWords

/-- The underscore behind a name is no part of a word. -/
lemma IsMarked.snakeCase_eq {marked : String} (h : IsMarked name marked) :
    snakeCase marked = snakeCase name := by
  rcases h with rfl | rfl
  · rfl
  · have hunderscore : ¬ isWordChar '_' := by simp [isWordChar_underscore]
    rw [snakeCase_eq_iff, foldedWords, foldedWords, String.toList_append]
    exact congrArg (·.map (·.map Char.toLower)) (wordsOf_append_of_not_word hunderscore name.toList)

/-! ## Identifiers -/

/-- Nothing is mended in a name that is no keyword and does not begin with a digit. -/
lemma safeIdentifier_eq_self (hne : name ≠ "") (hdigit : startsWithDigit name = false)
    (hkeyword : name ∉ keywords) : safeIdentifier name fallback = name := by
  rw [safeIdentifier_of_ne_empty fallback hne, coverDigit, if_neg (by simp [hdigit]), avoidKeyword,
    if_neg hkeyword]

/-- A mended name needs no mending, if the name that stands in for nothing does not. -/
theorem safeIdentifier_safeIdentifier (h : IsLegal fallback) (name : String) :
    safeIdentifier (safeIdentifier name fallback) fallback = safeIdentifier name fallback := by
  by_cases hne : name = ""
  · have hempty : safeIdentifier name fallback = fallback := by simp [safeIdentifier, hne]
    rw [hempty]
    exact safeIdentifier_eq_self h.isIdentifier.ne_empty h.isIdentifier.no_digit h.not_keyword
  · have hcovered := coverDigit_ne_empty hne
    have hmarked := isMarked_avoidKeyword (coverDigit name)
    rw [safeIdentifier_of_ne_empty fallback hne]
    refine safeIdentifier_eq_self (hmarked.ne_empty hcovered) ?_ (avoidKeyword_notMem _)
    rw [hmarked.startsWithDigit_eq hcovered, startsWithDigit_coverDigit]

/-! ## Names of fields -/

lemma snakeCase_ledName {key : String} (h : snakeCase key ≠ "") : snakeCase (ledName key) = ledName key := by
  unfold ledName
  split
  · have hwords : ∀ word ∈ "field".toList :: foldedWords key, IsFolded word :=
      List.forall_mem_cons.2 ⟨⟨by decide, .inl (by decide)⟩, fun _ => isFolded_of_mem_foldedWords⟩
    refine snakeCase_eq_self ?_ hwords
    cases hfolded : foldedWords key with
    | nil => exact absurd (String.toList_inj.1 (by rw [toList_snakeCase, hfolded]; rfl)) h
    | cons word rest =>
      rw [String.toList_append, toList_snakeCase, hfolded, List.intercalate_cons_cons]
      rfl
  · exact snakeCase_snakeCase key

/-- The words of a field name are those of the key, behind what a number gets in front. -/
lemma snakeCase_fieldName {key : String} (h : snakeCase key ≠ "") : snakeCase (fieldName key) = ledName key := by
  rw [fieldName_of_ne_empty h, (isMarked_avoidKeyword _).snakeCase_eq,
    (isMarked_avoidReserved _).snakeCase_eq, snakeCase_ledName h]

/-- The field name of a field name is itself. -/
theorem fieldName_fieldName (key : String) : fieldName (fieldName key) = fieldName key := by
  by_cases h : snakeCase key = ""
  · have hempty : fieldName key = "field" := by simp [fieldName, h]
    rw [hempty]
    decide
  · have hsnake := snakeCase_fieldName h
    have hled : ledName (fieldName key) = ledName key := by
      rw [ledName, hsnake, if_neg (by simp [startsWithDigit_ledName])]
    have hne : snakeCase (fieldName key) ≠ "" := by
      rw [hsnake]
      exact ledName_ne_empty h
    rw [fieldName_of_ne_empty hne, hled, fieldName_of_ne_empty h]

/-! ## Names of types -/

lemma IsPascal.append {front back : List Char} (hfront : IsPascal front) (hback : IsPascal back) :
    IsPascal (front ++ back) := by
  refine ⟨List.forall_mem_append.2 ⟨hfront.isWordChar, hback.isWordChar⟩, ?_, ?_⟩
  · cases front with
    | nil => exact hback.front
    | cons c front => exact hfront.front
  · refine List.isChain_append.2 ⟨hfront.chain, hback.chain, fun c _ d hd hlower => ?_⟩
    have hstart := hback.front
    obtain ⟨rest, rfl⟩ := List.head?_eq_some_iff.1 hd
    rw [startsLower, hlower] at hstart
    cases hstart

lemma isPascal_pascalCase (name : String) : IsPascal (pascalCase name).toList := by
  rw [toList_pascalCase]
  exact isPascal_pascalChars name.toList

/-- A name in Pascal case that begins with a letter is a type name, with the underscore of a keyword. -/
lemma typeName_avoidKeyword (hpascal : pascalCase name = name) {c : Char}
    (hhead : name.toList.head? = some c) (hc : IsLetter c) (fallback : String) :
    typeName (avoidKeyword name) fallback = avoidKeyword name := by
  have hinitial : HasInitialLetter (avoidKeyword name) :=
    ⟨c, initial?_of_head? (head?_avoidKeyword hhead) (isWordChar_iff.2 (.inl hc)), hc⟩
  rw [typeName_of_letter fallback hinitial, pascalCase_avoidKeyword, hpascal]

/-- With a fallback in Pascal case, the type name of a type name is itself. -/
theorem typeName_typeName_of_fallback {c : Char} (hpascal : pascalCase fallback = fallback)
    (hhead : fallback.toList.head? = some c) (hc : IsLetter c) (hkeyword : fallback ∉ keywords)
    (name : String) : typeName (typeName name fallback) fallback = typeName name fallback := by
  by_cases hletter : HasInitialLetter name
  · exact typeName_typeName fallback fallback hletter
  cases hinitial : initial? name with
  | none =>
    have hself := typeName_avoidKeyword hpascal hhead hc fallback
    rw [avoidKeyword, if_neg hkeyword] at hself
    rw [typeName_of_no_words fallback hinitial, hself]
  | some d =>
    have hdecimal : isDecimal d :=
      (isWordChar_iff.1 (List.find?_some hinitial)).resolve_left fun hl => hletter ⟨d, hinitial, hl⟩
    -- The number keeps its place behind the fallback, where it begins a word of its own.
    have hjoined : pascalCase (fallback ++ pascalCase name) = fallback ++ pascalCase name := by
      have hfront := isPascal_pascalCase fallback
      rw [hpascal] at hfront
      rw [← String.toList_inj, toList_pascalCase, String.toList_append]
      exact (hfront.append (isPascal_pascalCase name)).pascalChars_eq
    rw [typeName_of_decimal fallback hinitial hdecimal]
    refine typeName_avoidKeyword hjoined ?_ hc fallback
    rw [String.toList_append, List.head?_append, hhead]
    rfl

/-! ## All styles -/

/-- A name that is written in a style, or mended, is left as it is when that is done once more. -/
theorem styles_idempotent (name : String) :
    pascalCase (pascalCase name) = pascalCase name ∧
      snakeCase (snakeCase name) = snakeCase name ∧
      safeIdentifier (safeIdentifier name "value") "value" = safeIdentifier name "value" ∧
      safeIdentifier (safeIdentifier name "param") "param" = safeIdentifier name "param" ∧
      fieldName (fieldName name) = fieldName name ∧
      typeName (typeName name "Item") "Item" = typeName name "Item" ∧
      typeName (typeName name "Resource") "Resource" = typeName name "Resource" ∧
      typeName (typeName name "MyApi") "MyApi" = typeName name "MyApi" := by
  have hvalue : IsLegal "value" := ⟨⟨by decide, by decide, by decide⟩, by decide⟩
  have hparam : IsLegal "param" := ⟨⟨by decide, by decide, by decide⟩, by decide⟩
  refine ⟨pascalCase_pascalCase name, snakeCase_snakeCase name, safeIdentifier_safeIdentifier hvalue name,
    safeIdentifier_safeIdentifier hparam name, fieldName_fieldName name, ?_, ?_, ?_⟩
  · exact typeName_typeName_of_fallback (c := 'I') (by decide) rfl (by decide) (by decide) name
  · exact typeName_typeName_of_fallback (c := 'R') (by decide) rfl (by decide) (by decide) name
  · exact typeName_typeName_of_fallback (c := 'M') (by decide) rfl (by decide) (by decide) name

end RestConnector.Name
