import RestConnector.Path
import RestConnector.Proofs.Name.Identifier

/-!
# Parameters and the words of placeholders

A placeholder becomes a parameter by its words alone: letter case, separators and everything else that
stands between the words is forgotten, a placeholder without words is called `param`, and what is done
to make the name an identifier keeps different words apart.  Hence two placeholders share a parameter
exactly when they have the same words (`parameterName_eq_iff`).

Apart from underscores, the characters of a parameter come from the placeholder; in particular a
parameter is written in ASCII exactly when the digits of its placeholder are (`ascii_parameterName_iff`).
-/

namespace RestConnector.Path

open RestConnector.Text RestConnector.Name

/-- The words that a parameter is named after. -/
def placeholderWords (placeholder : String) : List (List Char) :=
  if foldedWords placeholder = [] then ["param".toList] else foldedWords placeholder

/-- A name whose snake case is that of a placeholder's words. -/
def namedAfter (placeholder : String) : String :=
  if foldedWords placeholder = [] then "param" else placeholder

lemma foldedWords_param : foldedWords "param" = ["param".toList] := by decide

lemma foldedWords_namedAfter (placeholder : String) :
    foldedWords (namedAfter placeholder) = placeholderWords placeholder := by
  unfold namedAfter placeholderWords
  split
  · exact foldedWords_param
  · rfl

lemma placeholderWords_ne_nil (placeholder : String) : placeholderWords placeholder ≠ [] := by
  unfold placeholderWords
  split
  · simp
  · assumption

lemma isTrimmed_namedAfter (placeholder : String) :
    IsTrimmed (snakeCase (namedAfter placeholder)) := by
  apply isTrimmed_snakeCase
  rw [foldedWords_namedAfter]
  exact placeholderWords_ne_nil placeholder

/-- The name that stands in for no words is an identifier as it is. -/
lemma safeIdentifier_param : safeIdentifier (snakeCase "param") "param" = "param" := by decide

lemma snakeCase_eq_empty {name : String} (h : foldedWords name = []) : snakeCase name = "" := by
  rw [← String.toList_inj, toList_snakeCase, h]
  rfl

/-- The case of no words is no case of its own. -/
lemma parameterName_eq (placeholder : String) :
    parameterName placeholder = safeIdentifier (snakeCase (namedAfter placeholder)) "param" := by
  by_cases h : foldedWords placeholder = []
  · have hp : parameterName placeholder = "param" := by
      simp [parameterName, snakeCase_eq_empty h, safeIdentifier]
    rw [hp, namedAfter, if_pos h, safeIdentifier_param]
  · rw [parameterName, namedAfter, if_neg h]

/-- Two placeholders share a parameter exactly when they have the same words. -/
theorem parameterName_eq_iff {p q : String} :
    parameterName p = parameterName q ↔ placeholderWords p = placeholderWords q := by
  rw [parameterName_eq, parameterName_eq, ← foldedWords_namedAfter, ← foldedWords_namedAfter,
    ← snakeCase_eq_iff]
  constructor
  · exact safeIdentifier_injOn "param" (isTrimmed_namedAfter p) (isTrimmed_namedAfter q)
  · intro h
    rw [h]

/-- Every placeholder has a parameter with a name. -/
lemma parameterName_ne_empty (placeholder : String) : parameterName placeholder ≠ "" := by
  intro he
  have hne := (isTrimmed_namedAfter placeholder).ne_empty
  obtain ⟨c, hc⟩ := List.exists_mem_of_ne_nil _ (String.toList_eq_nil_iff.not.2 hne)
  have hm : c ∈ (safeIdentifier (snakeCase (namedAfter placeholder)) "param").toList :=
    (mem_safeIdentifier_iff hne).2 (.inl hc)
  rw [← parameterName_eq, he] at hm
  exact absurd hm (by simp)

/-! ## Characters of parameters -/

lemma isWordChar_of_mem_parameterName {placeholder : String} {c : Char}
    (h : c ∈ (parameterName placeholder).toList) : c = '_' ∨ isWordChar c := by
  rw [parameterName_eq, mem_safeIdentifier_iff (isTrimmed_namedAfter placeholder).ne_empty] at h
  rcases h with h | ⟨-, h⟩
  · obtain h | ⟨d, -, hd, rfl⟩ := mem_snakeCase h
    · exact .inl h
    · exact .inr (isWordChar_toLower hd)
  · exact .inl h

/-- Whether a character is one of ASCII. -/
def IsAscii (c : Char) : Prop := c.toNat < 128

instance : DecidablePred IsAscii := fun c => inferInstanceAs (Decidable (c.toNat < 128))

lemma isAscii_toLower_iff {c : Char} : IsAscii c.toLower ↔ IsAscii c := by
  unfold IsAscii
  rw [toNat_toLower]
  split
  · next h =>
    have := isUpper_iff.1 h
    omega
  · rfl

/-- A word character is one of ASCII unless it is a digit of another script. -/
lemma isAscii_of_isWordChar {c : Char} (h : isWordChar c) (hd : isDecimal c → IsAscii c) :
    IsAscii c := by
  simp only [isWordChar, Bool.or_eq_true] at h
  rcases h with (h | h) | h
  · have := isUpper_iff.1 h
    unfold IsAscii
    omega
  · have := isLower_iff.1 h
    unfold IsAscii
    omega
  · exact hd h

lemma foldedWords_ne_nil {name : String} {c : Char} (h : c ∈ name.toList) (hc : isWordChar c) :
    foldedWords name ≠ [] := fun he => by
  have hf := flatten_foldedWords name
  rw [he] at hf
  have hm : c.toLower ∈ (name.toList.filter isWordChar).map Char.toLower :=
    List.mem_map_of_mem (List.mem_filter.2 ⟨h, hc⟩)
  simp [← hf] at hm

/-- A parameter is written in ASCII exactly when the digits of its placeholder are. -/
theorem ascii_parameterName_iff {placeholder : String} :
    (∀ c ∈ (parameterName placeholder).toList, IsAscii c) ↔
      ∀ c ∈ placeholder.toList, isDecimal c → IsAscii c := by
  have hne := (isTrimmed_namedAfter placeholder).ne_empty
  rw [parameterName_eq]
  constructor
  · intro h c hc hd
    have hw : isWordChar c := by simp [isWordChar, hd]
    have hn : namedAfter placeholder = placeholder := if_neg (foldedWords_ne_nil hc hw)
    have hm : c.toLower ∈ (snakeCase (namedAfter placeholder)).toList :=
      toLower_mem_snakeCase (by rwa [hn]) hw
    exact isAscii_toLower_iff.1 (h _ ((mem_safeIdentifier_iff hne).2 (.inl hm)))
  · intro h c hc
    obtain hc | ⟨-, rfl⟩ := (mem_safeIdentifier_iff hne).1 hc
    · obtain rfl | ⟨d, hd, hw, rfl⟩ := mem_snakeCase hc
      · decide
      · rw [isAscii_toLower_iff]
        -- The digits are those of the placeholder, or of `param`, which has none.
        refine isAscii_of_isWordChar hw fun hdec => ?_
        unfold namedAfter at hd
        split at hd
        · have hparam : "param".toList.all (IsAscii ·) := by decide
          exact of_decide_eq_true (List.all_eq_true.1 hparam d hd)
        · exact h d hd hdec
    · decide

end RestConnector.Path
