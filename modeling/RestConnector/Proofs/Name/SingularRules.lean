import RestConnector.Proofs.Name.Endings

/-!
# The rules for the singular, read backwards

What the rules for the singular make of a word depends on its end, so the one that was applied is known by what
it leaves behind.  `SingularByRule` says all that the rules can make of a word in s that is not looked up, by
what stands in front of the s.  A word that ends in another letter is its own singular unless it is an
irregular plural (`singularOf_of_not_s`), and so is one that ends in *-ss* or *-sis* (`singularOf_of_ss`).
-/

namespace RestConnector.Name

open RestConnector.Text

variable {word : List Char}

/-! ## The rule that is applied -/

/-- What stands in front of the s in the words whose singular is looked up. -/
def listedFronts : List String :=
  fronts ['s'] (uncountables ++ singularsInS ++ irregulars.map (·.2))

/-- The endings from which the rules for the singular drop *-es*, without the *-es*. -/
def hisses : List String := ["ss", "sh", "ch", "x", "zz", "us"]

/-- Whether another rule comes before the one that drops the s behind a word. -/
def readsOtherwise (word : List Char) : Bool :=
  isListed (sisStems.map (· ++ "se")) word || (2 < word.length && endsIn ["ie"] word) ||
    endsIn ["lve"] word || endsIn ["knive", "wive", "live"] word ||
    isListed (oesWords.map (· ++ "e")) word ||
    endsIn ["sse", "she", "che", "xe", "zze", "use"] word || endsIn ["s", "si"] word

/-- What the rules on endings make of a word with an s behind it. -/
inductive SingularByRule : List Char → List Char → Prop
  | sis (stem : List Char) (h : isListed sisStems stem) :
      SingularByRule (stem ++ "se".toList) (stem ++ "sis".toList)
  | y (front : List Char) (h : front ≠ []) :
      SingularByRule (front ++ "ie".toList) (front ++ "y".toList)
  | f (front : List Char) (h : endsIn ["l"] front) :
      SingularByRule (front ++ "ve".toList) (front ++ "f".toList)
  | fe (front : List Char) (h : endsIn ["kni", "wi", "li"] front) :
      SingularByRule (front ++ "ve".toList) (front ++ "fe".toList)
  | oes (noun : List Char) (h : isListed oesWords noun) : SingularByRule (noun ++ "e".toList) noun
  | es (noun : List Char) (h : endsIn hisses noun) : SingularByRule (noun ++ "e".toList) noun
  | same (word : List Char) (h : endsIn ["s", "si"] word) : SingularByRule word (word ++ ['s'])
  | plain (word : List Char) (h : readsOtherwise word = false) : SingularByRule word word

lemma isListed_oesWords (word : List Char) :
    (endsIn ["oe"] word && isListed oesWords (dropEnd 1 word)) =
      isListed (oesWords.map (· ++ "e")) word := by
  cases hends : endsIn ["oe"] word with
  | true =>
    rw [isListed_map_append, endsIn_mono ["e"] hends (by decide)]
    rfl
  | false => rw [Bool.false_and, not_isListed_of_not (endsIn ["oe"]) hends (by decide)]

/-- The rules on endings, as they apply to a word with an s behind it that is not looked up. -/
lemma singularOf_append_s (hne : word ≠ []) (hlisted : isListed listedFronts word = false) :
    singularOf (word ++ ['s']) =
      if endsIn ["se"] word && isListed sisStems (dropEnd 2 word) then dropEnd 2 word ++ "sis".toList
      else if 2 < word.length && endsIn ["ie"] word then dropEnd 2 word ++ "y".toList
      else if endsIn ["lve"] word then dropEnd 2 word ++ "f".toList
      else if endsIn ["knive", "wive", "live"] word then dropEnd 2 word ++ "fe".toList
      else if isListed (oesWords.map (· ++ "e")) word then dropEnd 1 word
      else if endsIn ["sse", "she", "che", "xe", "zze", "use"] word then dropEnd 1 word
      else if endsIn ["s", "si"] word then word ++ ['s']
      else word := by
  rw [listedFronts, ← isListed_append] at hlisted
  simp only [isListed, List.any_append, Bool.or_eq_false_iff] at hlisted
  obtain ⟨⟨huncountable, hsingular⟩, hplural⟩ := hlisted
  have hirregular : irregularPlural? (word ++ ['s']) = none :=
    irregularPlural?_eq_none_iff.2 (not_isListed_append (by decide))
  rw [singularOf, if_neg (by simp [isListed, huncountable, hsingular, hirregular]),
    irregularSingular?_eq_none_iff.2 hplural]
  have hlength : (word ++ ['s']).length = word.length + 1 := List.length_append
  have hs : endsIn ["s"] (word ++ ['s']) := endsIn_append_of_back _ (by decide)
  have hlong : (decide (1 < (word ++ ['s']).length) && endsIn ["s"] (word ++ ['s'])) = true := by
    simp [hs, List.length_pos_iff.2 hne]
  have hwhole : dropEnd 0 word = word := by simp [dropEnd]
  rw [hlong]
  simp only [dropEnd_append_singleton, hlength, Nat.succ_lt_succ_iff, if_true, hwhole]
  rw [endsIn_append_eq ["ses"] ["se"] (by decide),
    endsIn_append_eq ["ies"] ["ie"] (by decide),
    endsIn_append_eq ["lves"] ["lve"] (by decide),
    endsIn_append_eq ["knives", "wives", "lives"] ["knive", "wive", "live"] (by decide),
    endsIn_append_eq ["oes"] ["oe"] (by decide),
    isListed_oesWords,
    endsIn_append_eq ["sses", "shes", "ches", "xes", "zzes", "uses"]
      ["sse", "she", "che", "xe", "zze", "use"] (by decide),
    endsIn_append_eq ["ss", "sis"] ["s", "si"] (by decide)]

/-- Where no list decides, the first rule does whose ending is there, and `readsOtherwise` is whether one
comes before the last. -/
theorem singularByRule (hne : word ≠ []) (hlisted : isListed listedFronts word = false) :
    SingularByRule word (singularOf (word ++ ['s'])) := by
  rw [singularOf_append_s hne hlisted]
  refine iteInduction (fun h => ?_) fun hsis => ?_
  · obtain ⟨hends, hstem⟩ := Bool.and_eq_true_iff.1 h
    obtain ⟨stem, rfl⟩ := exists_eq_append_of_endsIn hends
    rw [dropEnd_append (by rfl)] at hstem ⊢
    exact .sis stem hstem
  refine iteInduction (fun h => ?_) fun hy => ?_
  · obtain ⟨hlength, hends⟩ := Bool.and_eq_true_iff.1 h
    obtain ⟨front, rfl⟩ := exists_eq_append_of_endsIn hends
    rw [dropEnd_append (by rfl)]
    refine .y front ?_
    rintro rfl
    exact absurd hlength (by decide)
  refine iteInduction (fun h => ?_) fun hf => ?_
  · obtain ⟨front, rfl⟩ := exists_eq_append_of_endsIn (endsIn_mono ["ve"] h (by decide))
    rw [endsIn_append_eq _ ["l"] (by decide)] at h
    rw [dropEnd_append (by rfl)]
    exact .f front h
  refine iteInduction (fun h => ?_) fun hfe => ?_
  · obtain ⟨front, rfl⟩ := exists_eq_append_of_endsIn (endsIn_mono ["ve"] h (by decide))
    rw [endsIn_append_eq _ ["kni", "wi", "li"] (by decide)] at h
    rw [dropEnd_append (by rfl)]
    exact .fe front h
  refine iteInduction (fun h => ?_) fun hoes => ?_
  · rw [isListed_map_append] at h
    obtain ⟨hends, hnoun⟩ := Bool.and_eq_true_iff.1 h
    obtain ⟨noun, rfl⟩ := exists_eq_append_of_endsIn hends
    rw [dropEnd_append (by rfl)] at hnoun
    rw [dropEnd_append (by rfl)]
    exact .oes noun hnoun
  refine iteInduction (fun h => ?_) fun hes => ?_
  · obtain ⟨noun, rfl⟩ := exists_eq_append_of_endsIn (endsIn_mono ["e"] h (by decide))
    rw [endsIn_append_eq _ hisses (by decide)] at h
    rw [dropEnd_append (by rfl)]
    exact .es noun h
  refine iteInduction (fun h => .same word h) fun hsame => .plain word ?_
  rw [readsOtherwise, isListed_map_append]
  simp_all

/-- Only the last rule leaves what stands in front of the s. -/
lemma SingularByRule.readsOtherwise_eq_false {result : List Char} (h : SingularByRule word result)
    (heq : result = word) : readsOtherwise word = false := by
  cases h with
  | sis | y | f | fe | oes | es | same => simp at heq
  | plain _ h => exact h

/-- The s behind a word is dropped, and nothing else is done, if no other rule comes before. -/
theorem singularOf_append_s_eq_iff (hne : word ≠ []) (hlisted : isListed listedFronts word = false) :
    singularOf (word ++ ['s']) = word ↔ readsOtherwise word = false := by
  constructor
  · exact (singularByRule hne hlisted).readsOtherwise_eq_false
  · intro h
    simp only [readsOtherwise, Bool.or_eq_false_iff] at h
    obtain ⟨⟨⟨⟨⟨⟨hsis, hy⟩, hf⟩, hfe⟩, hoes⟩, hes⟩, hsame⟩ := h
    rw [isListed_map_append] at hsis
    have hsis : (endsIn ["se"] word && isListed sisStems (dropEnd 2 word)) = false := hsis
    rw [singularOf_append_s hne hlisted, hsis, hy, hf, hfe, hoes, hes, hsame]
    rfl

lemma endsIn_of_readsOtherwise (h : readsOtherwise word) :
    endsIn ["se", "ie", "ve", "oe", "he", "xe", "ze", "s", "si"] word := by
  simp only [readsOtherwise, Bool.or_eq_true, Bool.and_eq_true] at h
  rcases h with (((((h | h) | h) | h) | h) | h) | h
  · exact of_isListed h (by decide)
  · exact endsIn_mono _ h.2 (by decide)
  · exact endsIn_mono _ h (by decide)
  · exact endsIn_mono _ h (by decide)
  · exact of_isListed h (by decide)
  · exact endsIn_mono _ h (by decide)
  · exact endsIn_mono _ h (by decide)

/-- A word that does not end in s is its own singular, but for irregular plurals. -/
lemma singularOf_of_not_s (hs : endsIn ["s"] word = false)
    (hplural : isListed (irregulars.map (·.2)) word = false) : singularOf word = word := by
  rw [singularOf, irregularSingular?_eq_none_iff.2 hplural, hs, not_endsIn_mono ["ses"] hs (by decide),
    not_endsIn_mono ["ies"] hs (by decide), not_endsIn_mono ["lves"] hs (by decide),
    not_endsIn_mono ["knives", "wives", "lives"] hs (by decide), not_endsIn_mono ["oes"] hs (by decide),
    not_endsIn_mono ["sses", "shes", "ches", "xes", "zzes", "uses"] hs (by decide),
    not_endsIn_mono ["ss", "sis"] hs (by decide)]
  simp

/-- What ends in *-ss* or *-sis* is no plural. -/
lemma singularOf_of_ss (h : endsIn ["ss", "sis"] word) : singularOf word = word := by
  have hplural : isListed (irregulars.map (·.2)) word = false := not_isListed_of_endsIn h (by decide)
  rw [singularOf, irregularSingular?_eq_none_iff.2 hplural, h,
    not_endsIn_of_endsIn ["ses"] h (by decide),
    not_endsIn_of_endsIn ["ies"] h (by decide),
    not_endsIn_of_endsIn ["lves"] h (by decide),
    not_endsIn_of_endsIn ["knives", "wives", "lives"] h (by decide),
    not_endsIn_of_endsIn ["oes"] h (by decide),
    not_endsIn_of_endsIn ["sses", "shes", "ches", "xes", "zzes", "uses"] h (by decide)]
  simp

section Front

variable {front : List Char}

lemma singularOf_ies (hne : front ≠ []) (hlisted : isListed listedFronts (front ++ "ie".toList) = false) :
    singularOf (front ++ "ies".toList) = front ++ "y".toList := by
  have hword : front ++ "ies".toList = front ++ "ie".toList ++ ['s'] := by simp
  rw [hword, singularOf_append_s (by simp) hlisted, dropEnd_append (by rfl),
    not_endsIn_append ["se"] (by decide),
    endsIn_append_of_back ["ie"] (by decide)]
  simp [hne]

/-- The rules for *-ves*. -/
lemma singularOf_ves (front : List Char) :
    singularOf (front ++ "ves".toList) =
      if endsIn ["l"] front then front ++ "f".toList
      else if endsIn ["kni", "wi", "li"] front then front ++ "fe".toList
      else front ++ "ve".toList := by
  have hword : front ++ "ves".toList = front ++ "ve".toList ++ ['s'] := by simp
  have hlisted : isListed listedFronts (front ++ "ve".toList) = false := not_isListed_append (by decide)
  rw [hword, singularOf_append_s (by simp) hlisted, dropEnd_append (by rfl),
    not_endsIn_append ["se"] (by decide),
    not_endsIn_append ["ie"] (by decide),
    endsIn_append_eq ["lve"] ["l"] (by decide),
    endsIn_append_eq ["knive", "wive", "live"] ["kni", "wi", "li"] (by decide),
    not_isListed_append (by decide),
    not_endsIn_append ["sse", "she", "che", "xe", "zze", "use"] (by decide),
    not_endsIn_append ["s", "si"] (by decide)]
  simp

end Front

/-- The endings behind which a plural has *-es*. -/
def sibilants : List String := ["s", "sh", "ch", "x", "z"]

/-- The rules for *-es* behind a sibilant. -/
lemma singularOf_es (h : endsIn sibilants word) :
    singularOf (word ++ "es".toList) =
      if isListed (sisStems.map (· ++ "s")) word then dropEnd 1 word ++ "sis".toList
      else if endsIn hisses word then word
      else word ++ "e".toList := by
  have hword : word ++ "es".toList = word ++ "e".toList ++ ['s'] := by simp
  have hlisted : isListed listedFronts (word ++ "e".toList) = false := by
    rw [isListed_append]
    exact not_isListed_of_endsIn h (by decide)
  have hoes : isListed (oesWords.map (· ++ "e")) (word ++ "e".toList) = false := by
    rw [isListed_append]
    exact not_isListed_of_endsIn h (by decide)
  have hstem : (endsIn ["se"] (word ++ "e".toList) && isListed sisStems (dropEnd 2 (word ++ "e".toList))) =
      isListed (sisStems.map (· ++ "s")) word := by
    rw [endsIn_append_eq _ ["s"] (by decide), isListed_map_append]
    exact congrArg (_ && isListed sisStems ·) (dropEnd_append_singleton 1 word 'e')
  have hdrop : dropEnd 2 (word ++ "e".toList) = dropEnd 1 word := dropEnd_append_singleton 1 word 'e'
  have hwhole : dropEnd 1 (word ++ "e".toList) = word := dropEnd_append (by rfl)
  rw [hword, singularOf_append_s (by simp) hlisted, hstem, hdrop, hoes, hwhole,
    endsIn_append_eq ["ie"] ["i"] (by decide),
    not_endsIn_of_endsIn ["i"] h (by decide),
    endsIn_append_eq ["lve"] ["lv"] (by decide),
    not_endsIn_of_endsIn ["lv"] h (by decide),
    endsIn_append_eq ["knive", "wive", "live"] ["kniv", "wiv", "liv"] (by decide),
    not_endsIn_of_endsIn ["kniv", "wiv", "liv"] h (by decide),
    endsIn_append_eq ["sse", "she", "che", "xe", "zze", "use"] hisses (by decide),
    not_endsIn_append ["s", "si"] (by decide)]
  simp

/-! ## The first letter -/

lemma SingularByRule.head? {result : List Char} (h : SingularByRule word result) (hne : word ≠ []) :
    result.head? = word.head? := by
  cases h with
  | sis stem h => exact of_isListed h (by decide)
  | y front h => rw [List.head?_append_of_ne_nil _ h, List.head?_append_of_ne_nil _ h]
  | f front h | fe front h =>
    have hfront : front ≠ [] := ne_nil_of_endsIn h (by decide)
    rw [List.head?_append_of_ne_nil _ hfront, List.head?_append_of_ne_nil _ hfront]
  | oes _ h =>
    exact (List.head?_append_of_ne_nil _ (of_isListed (p := (· ≠ [])) h (by decide))).symm
  | es _ h => exact (List.head?_append_of_ne_nil _ (ne_nil_of_endsIn h (by decide))).symm
  | same _ h => exact List.head?_append_of_ne_nil _ hne
  | plain _ h => rfl

/-- A singular begins as its plural does. -/
theorem head?_singularOf (word : List Char) : (singularOf word).head? = word.head? := by
  by_cases hs : endsIn ["s"] word
  · obtain ⟨front, rfl⟩ := exists_eq_append_of_endsIn hs
    by_cases hempty : front = []
    · rw [hempty]
      decide
    by_cases hlisted : isListed listedFronts front
    · exact of_isListed hlisted (by decide)
    · rw [List.head?_append_of_ne_nil _ hempty]
      exact (singularByRule hempty (Bool.eq_false_iff.2 hlisted)).head? hempty
  by_cases hplural : isListed (irregulars.map (·.2)) word
  · exact of_isListed hplural (by decide)
  · rw [singularOf_of_not_s (Bool.eq_false_iff.2 hs) (Bool.eq_false_iff.2 hplural)]

lemma singularOf_ne_nil (hne : word ≠ []) : singularOf word ≠ [] := by
  intro he
  have hhead := head?_singularOf word
  rw [he, List.head?_nil, eq_comm, List.head?_eq_none_iff] at hhead
  exact hne hhead

end RestConnector.Name
