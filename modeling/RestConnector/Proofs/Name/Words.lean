import Mathlib.Data.List.Nodup
import RestConnector.Name.Words

/-!
# What words keep of a name

The words of a name, put end to end, are its word characters and nothing else (`flatten_wordsOf`), so a
word is never empty and holds no separator.  `foldedWords` is what remains of a name once letter case
and separators are forgotten.

A name in snake case is its folded words with underscores between them.  Since no word holds an
underscore, the words can be read back from it: two names have one snake case exactly when they have
the same folded words (`snakeCase_eq_iff`).
-/

namespace RestConnector.Name

open RestConnector.Text

/-! ## Letters and their case -/

lemma isUpper_iff_val {c : Char} : c.isUpper ↔ c.val ≥ 'A'.val ∧ c.val ≤ 'Z'.val := by
  show decide (c.val ≥ 'A'.val ∧ c.val ≤ 'Z'.val) = true ↔ _
  exact decide_eq_true_iff

lemma isUpper_iff {c : Char} : c.isUpper ↔ 65 ≤ c.toNat ∧ c.toNat ≤ 90 := by
  rw [isUpper_iff_val]
  simp [UInt32.le_iff_toNat_le]

lemma isLower_iff {c : Char} : c.isLower ↔ 97 ≤ c.toNat ∧ c.toNat ≤ 122 := by
  show (decide (c.val ≥ 'a'.val) && decide (c.val ≤ 'z'.val)) = true ↔ _
  simp [UInt32.le_iff_toNat_le]

lemma toNat_toLower (c : Char) :
    c.toLower.toNat = if c.isUpper then c.toNat + 32 else c.toNat := by
  by_cases h : c.isUpper
  · have hc := isUpper_iff.1 h
    rw [if_pos h]
    delta Char.toLower
    rw [dif_pos (isUpper_iff_val.1 h)]
    simp only [Char.toNat_mk, UInt32.toNat_add]
    simp
    omega
  · rw [if_neg h]
    delta Char.toLower
    rw [dif_neg (isUpper_iff_val.not.1 h)]

lemma toLower_of_not_isUpper {c : Char} (h : ¬ c.isUpper) : c.toLower = c := by
  apply Char.toNat_inj.1
  rw [toNat_toLower, if_neg h]

lemma isLower_toLower {c : Char} (h : c.isUpper) : c.toLower.isLower := by
  have hc := isUpper_iff.1 h
  rw [isLower_iff, toNat_toLower, if_pos h]
  omega

/-- Small letters stand in words wherever capitals do. -/
lemma isWordChar_toLower {c : Char} (h : isWordChar c) : isWordChar c.toLower := by
  by_cases hu : c.isUpper
  · simp [isWordChar, isLower_toLower hu]
  · rwa [toLower_of_not_isUpper hu]

/-- The underscore only separates. -/
lemma isWordChar_underscore : isWordChar '_' = false := by decide

/-! ## Words end to end -/

@[simp] lemma flatten_attach (c : Char) (pieces : List (List Char)) :
    (attach c pieces).flatten = c :: pieces.flatten := by
  cases pieces <;> simp [attach]

lemma ne_nil_of_mem_attach {c : Char} {pieces : List (List Char)} {piece : List Char}
    (h : ∀ p ∈ pieces, p ≠ []) (hp : piece ∈ attach c pieces) : piece ≠ [] := by
  cases pieces with
  | nil => simp_all [attach]
  | cons first rest =>
    simp only [attach, List.mem_cons] at hp
    rcases hp with rfl | hp
    · simp
    · exact h piece (by simp [hp])

/-- Nothing that can stand in a word is lost, and nothing else is kept. -/
theorem flatten_wordsOf (cs : List Char) : (wordsOf cs).flatten = cs.filter isWordChar := by
  induction cs with
  | nil => rfl
  | cons c cs ih =>
    by_cases hc : isWordChar c
    · by_cases hj : joins c cs <;> simp [wordsOf, hc, hj, ih]
    · simp [wordsOf, hc, ih]

lemma ne_nil_of_mem_wordsOf {cs word : List Char} (h : word ∈ wordsOf cs) : word ≠ [] := by
  induction cs generalizing word with
  | nil => simp [wordsOf] at h
  | cons c cs ih =>
    by_cases hc : isWordChar c
    · by_cases hj : joins c cs
      · simp only [wordsOf, hc, hj, if_true] at h
        exact ne_nil_of_mem_attach (fun p hp => ih hp) h
      · simp only [wordsOf, hc, hj, if_true, Bool.false_eq_true, if_false, List.mem_cons] at h
        rcases h with rfl | h
        · simp
        · exact ih h
    · simp only [wordsOf, hc, Bool.false_eq_true, if_false] at h
      exact ih h

lemma isWordChar_of_mem_wordsOf {cs word : List Char} {c : Char} (h : word ∈ wordsOf cs)
    (hc : c ∈ word) : isWordChar c := by
  have hf : c ∈ (wordsOf cs).flatten := List.mem_flatten.2 ⟨word, h, hc⟩
  rw [flatten_wordsOf] at hf
  exact (List.mem_filter.1 hf).2

/-! ## Letter case forgotten -/

/-- The words of a name in small letters. -/
def foldedWords (name : String) : List (List Char) :=
  (wordsOf name.toList).map (·.map Char.toLower)

lemma ne_nil_of_mem_foldedWords {name : String} {word : List Char} (h : word ∈ foldedWords name) :
    word ≠ [] := by
  obtain ⟨w, hw, rfl⟩ := List.mem_map.1 h
  simpa using ne_nil_of_mem_wordsOf hw

lemma isWordChar_of_mem_foldedWords {name : String} {word : List Char} {c : Char}
    (h : word ∈ foldedWords name) (hc : c ∈ word) : isWordChar c := by
  obtain ⟨w, hw, rfl⟩ := List.mem_map.1 h
  obtain ⟨d, hd, rfl⟩ := List.mem_map.1 hc
  exact isWordChar_toLower (isWordChar_of_mem_wordsOf hw hd)

lemma underscore_notMem_of_mem_foldedWords {name : String} {word : List Char}
    (h : word ∈ foldedWords name) : '_' ∉ word := fun hc => by
  have := isWordChar_of_mem_foldedWords h hc
  simp [isWordChar_underscore] at this

/-- The folded words, put end to end, are the word characters of the name in small letters. -/
lemma flatten_foldedWords (name : String) :
    (foldedWords name).flatten = (name.toList.filter isWordChar).map Char.toLower := by
  rw [foldedWords, ← List.map_flatten, flatten_wordsOf]

/-! ## Snake case -/

lemma toList_snakeCase (name : String) :
    (snakeCase name).toList = ['_'].intercalate (foldedWords name) := by
  simp [snakeCase, foldedWords]

lemma mem_intercalate {separator c : Char} {words : List (List Char)}
    (h : c ∈ [separator].intercalate words) : c = separator ∨ c ∈ words.flatten := by
  induction words with
  | nil => simp at h
  | cons word rest ih =>
    cases rest with
    | nil => exact .inr (by simpa using h)
    | cons next rest =>
      rw [List.intercalate_cons_cons, List.mem_append, List.mem_append, List.mem_singleton] at h
      rcases h with (h | h) | h
      · exact .inr (by simp [h])
      · exact .inl h
      · obtain h | h := ih h
        · exact .inl h
        · exact .inr (by rw [List.flatten_cons]; exact List.mem_append_right _ h)

lemma mem_intercalate_of_mem_flatten {separator c : Char} {words : List (List Char)}
    (h : c ∈ words.flatten) : c ∈ [separator].intercalate words := by
  induction words with
  | nil => simp at h
  | cons word rest ih =>
    rw [List.flatten_cons, List.mem_append] at h
    cases rest with
    | nil => simpa using h
    | cons next rest =>
      rw [List.intercalate_cons_cons, List.mem_append, List.mem_append]
      exact h.imp .inl ih

/-- A name in snake case has underscores and, in small letters, word characters of the name. -/
theorem mem_snakeCase {name : String} {c : Char} (h : c ∈ (snakeCase name).toList) :
    c = '_' ∨ ∃ d ∈ name.toList, isWordChar d ∧ d.toLower = c := by
  rw [toList_snakeCase] at h
  obtain h | h := mem_intercalate h
  · exact .inl h
  · rw [flatten_foldedWords] at h
    obtain ⟨d, hd, rfl⟩ := List.mem_map.1 h
    obtain ⟨hm, hw⟩ := List.mem_filter.1 hd
    exact .inr ⟨d, hm, hw, rfl⟩

/-- Every word character of a name is in its snake case, in small letters. -/
theorem toLower_mem_snakeCase {name : String} {d : Char} (h : d ∈ name.toList)
    (hd : isWordChar d) : d.toLower ∈ (snakeCase name).toList := by
  rw [toList_snakeCase]
  apply mem_intercalate_of_mem_flatten
  rw [flatten_foldedWords]
  exact List.mem_map_of_mem (List.mem_filter.2 ⟨h, hd⟩)

/-- Words between separators that they do not hold can be read back. -/
lemma intercalate_injOn {separator : Char} {words others : List (List Char)}
    (hw : ∀ word ∈ words, word ≠ [] ∧ separator ∉ word)
    (ho : ∀ word ∈ others, word ≠ [] ∧ separator ∉ word)
    (h : [separator].intercalate words = [separator].intercalate others) : words = others := by
  -- Without words there is no text, and a first word is text of its own.
  have hnil : ∀ {ws : List (List Char)}, (∀ word ∈ ws, word ≠ [] ∧ separator ∉ word) →
      [separator].intercalate ws = [] → ws = [] := by
    intro ws hws he
    match ws with
    | [] => rfl
    | [word] => exact absurd (by simpa using he) (hws word (by simp)).1
    | word :: next :: rest => simp at he
  by_cases hwn : words = []
  · subst hwn
    exact (hnil ho h.symm).symm
  by_cases hon : others = []
  · subst hon
    exact absurd (hnil hw h) hwn
  · rw [← List.splitOn_intercalate separator (fun word hm => (hw word hm).2) hwn, h,
      List.splitOn_intercalate separator (fun word hm => (ho word hm).2) hon]

/-- Two names have one snake case exactly when they have the same words, letter case apart. -/
theorem snakeCase_eq_iff {a b : String} :
    snakeCase a = snakeCase b ↔ foldedWords a = foldedWords b := by
  have hgood : ∀ name, ∀ word ∈ foldedWords name, word ≠ [] ∧ '_' ∉ word := fun name word hm =>
    ⟨ne_nil_of_mem_foldedWords hm, underscore_notMem_of_mem_foldedWords hm⟩
  rw [← String.toList_inj, toList_snakeCase, toList_snakeCase]
  constructor
  · exact intercalate_injOn (hgood a) (hgood b)
  · exact congrArg _

end RestConnector.Name
