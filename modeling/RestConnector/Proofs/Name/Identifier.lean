import RestConnector.Name.Identifier
import RestConnector.Proofs.Name.Words

/-!
# Mended names stay apart

`safeIdentifier` puts an underscore in front of a leading digit and another behind a keyword.  Neither
can make two names equal that were different, as long as no name has an underscore at one of its ends
to begin with (`safeIdentifier_injOn`).  Names in snake case have none, so only the words of a name
decide what it is mended to.

A field name is mended in the same way and in two more.  First a number gets a word in front (`ledName`), then
a reserved name gets an underscore behind it (`avoidReserved`); an underscore behind a name leaves its beginning
as it is (`IsMarked.startsWithDigit_eq`).
-/

namespace RestConnector.Name

open RestConnector.Text

/-! ## Names without underscores at their ends -/

/-- A name that is not empty and has no underscore at either end. -/
structure IsTrimmed (name : String) : Prop where
  ne_empty : name ≠ ""
  head_ne : name.toList.head? ≠ some '_'
  last_ne : name.toList.getLast? ≠ some '_'

lemma head?_intercalate {separator : Char} {word : List Char} {rest : List (List Char)}
    (h : word ≠ []) : ([separator].intercalate (word :: rest)).head? = word.head? := by
  cases rest with
  | nil => simp
  | cons next rest =>
    rw [List.intercalate_cons_cons, List.append_assoc, List.head?_append_of_ne_nil _ h]

lemma getLast?_intercalate {separator : Char} {words : List (List Char)} {word : List Char}
    (h : words.getLast? = some word) (hw : word ≠ []) :
    ([separator].intercalate words).getLast? = word.getLast? := by
  induction words with
  | nil => simp at h
  | cons first rest ih =>
    cases rest with
    | nil => simp_all
    | cons next rest =>
      have hr : ([separator].intercalate (next :: rest)).getLast? = word.getLast? :=
        ih (by simpa using h)
      rw [List.intercalate_cons_cons, List.getLast?_append, hr]
      cases hg : word.getLast? with
      | none => exact absurd (List.getLast?_eq_none_iff.1 hg) hw
      | some c => simp

/-- A name that has words begins and ends, in snake case, with a character of a word. -/
lemma isTrimmed_snakeCase {name : String} (h : foldedWords name ≠ []) :
    IsTrimmed (snakeCase name) := by
  have hhead : (snakeCase name).toList.head? ≠ some '_' := by
    rw [toList_snakeCase]
    cases hf : foldedWords name with
    | nil => exact absurd hf h
    | cons word rest =>
      have hm : word ∈ foldedWords name := by simp [hf]
      rw [head?_intercalate (ne_nil_of_mem_foldedWords hm)]
      exact fun hc => underscore_notMem_of_mem_foldedWords hm (List.mem_of_mem_head? hc)
  have hlast : (snakeCase name).toList.getLast? ≠ some '_' := by
    rw [toList_snakeCase]
    cases hf : (foldedWords name).getLast? with
    | none => exact absurd (List.getLast?_eq_none_iff.1 hf) h
    | some word =>
      have hm : word ∈ foldedWords name := List.mem_of_getLast? hf
      rw [getLast?_intercalate hf (ne_nil_of_mem_foldedWords hm)]
      exact fun hc => underscore_notMem_of_mem_foldedWords hm (List.mem_of_getLast? hc)
  refine ⟨fun he => ?_, hhead, hlast⟩
  have hs : snakeCase name = snakeCase "" := by rw [he]; decide
  exact h (snakeCase_eq_iff.1 hs)

/-! ## Mending -/

/-- A keyword with an underscore behind it is told from a name that ends otherwise. -/
lemma avoidKeyword_injOn {a b : String} (ha : a.toList.getLast? ≠ some '_')
    (hb : b.toList.getLast? ≠ some '_') (h : avoidKeyword a = avoidKeyword b) : a = b := by
  unfold avoidKeyword at h
  split at h <;> split at h
  · exact (String.append_left_inj "_").1 h
  · exact absurd (by simp [← h]) hb
  · exact absurd (by simp [h]) ha
  · exact h

/-- Puts an underscore in front of a leading digit. -/
def coverDigit (name : String) : String :=
  if startsWithDigit name then "_" ++ name else name

lemma safeIdentifier_of_ne_empty {name : String} (fallback : String) (h : name ≠ "") :
    safeIdentifier name fallback = avoidKeyword (coverDigit name) := by
  simp [safeIdentifier, coverDigit, h]

lemma coverDigit_ne_empty {name : String} (hne : name ≠ "") : coverDigit name ≠ "" := by
  unfold coverDigit
  split
  · simp
  · exact hne

lemma startsWithDigit_coverDigit (name : String) : startsWithDigit (coverDigit name) = false := by
  unfold coverDigit
  split
  · have hhead : ("_" ++ name).toList.head? = some '_' := by simp
    rw [startsWithDigit, hhead]
    decide
  · next hdigit => exact Bool.eq_false_iff.2 hdigit

lemma getLast?_coverDigit {name : String} (h : name ≠ "") :
    (coverDigit name).toList.getLast? = name.toList.getLast? := by
  unfold coverDigit
  split
  · have hne : name.toList ≠ [] := fun hn => h (String.toList_inj.1 (by simpa using hn))
    rw [String.toList_append, List.getLast?_append_of_ne_nil _ hne]
  · rfl

lemma coverDigit_injOn {a b : String} (ha : a.toList.head? ≠ some '_')
    (hb : b.toList.head? ≠ some '_') (h : coverDigit a = coverDigit b) : a = b := by
  unfold coverDigit at h
  split at h <;> split at h
  · exact (String.append_right_inj "_").1 h
  · exact absurd (by simp [← h]) hb
  · exact absurd (by simp [h]) ha
  · exact h

/-- Mending keeps names apart that have no underscore at their ends. -/
theorem safeIdentifier_injOn {a b : String} (fallback : String) (ha : IsTrimmed a)
    (hb : IsTrimmed b) (h : safeIdentifier a fallback = safeIdentifier b fallback) : a = b := by
  rw [safeIdentifier_of_ne_empty fallback ha.ne_empty,
    safeIdentifier_of_ne_empty fallback hb.ne_empty] at h
  refine coverDigit_injOn ha.head_ne hb.head_ne (avoidKeyword_injOn ?_ ?_ h)
  · rw [getLast?_coverDigit ha.ne_empty]
    exact ha.last_ne
  · rw [getLast?_coverDigit hb.ne_empty]
    exact hb.last_ne

/-! ## Marks -/

/-- A name as it is, or with an underscore behind it. -/
def IsMarked (name marked : String) : Prop :=
  marked = name ∨ marked = name ++ "_"

lemma isMarked_ite (p : Prop) [Decidable p] (name : String) :
    IsMarked name (if p then name ++ "_" else name) := by
  split
  · exact .inr rfl
  · exact .inl rfl

lemma isMarked_avoidKeyword (name : String) : IsMarked name (avoidKeyword name) :=
  isMarked_ite _ name

section Marked

variable {name marked : String} (h : IsMarked name marked)

include h

lemma IsMarked.ne_empty (hne : name ≠ "") : marked ≠ "" := by
  rcases h with rfl | rfl
  · exact hne
  · simp

lemma IsMarked.startsWithDigit_eq (hne : name ≠ "") : startsWithDigit marked = startsWithDigit name := by
  rcases h with rfl | rfl
  · rfl
  · have hlist : name.toList ≠ [] := fun hnil => hne (String.toList_inj.1 hnil)
    rw [startsWithDigit, String.toList_append, List.head?_append_of_ne_nil _ hlist, startsWithDigit]

end Marked

/-! ## Names of fields -/

/-- The snake case of a key, with the word *field* in front of a number. -/
def ledName (key : String) : String :=
  if startsWithDigit (snakeCase key) then "field_" ++ snakeCase key else snakeCase key

/-- A reserved name gets an underscore behind it. -/
def avoidReserved (name : String) : String :=
  if name ∈ reservedFields then name ++ "_" else name

lemma isMarked_avoidReserved (name : String) : IsMarked name (avoidReserved name) :=
  isMarked_ite _ name

lemma ledName_ne_empty {key : String} (h : snakeCase key ≠ "") : ledName key ≠ "" := by
  unfold ledName
  split
  · simp
  · exact h

lemma startsWithDigit_ledName (key : String) : startsWithDigit (ledName key) = false := by
  unfold ledName
  split
  · have hhead : ("field_" ++ snakeCase key).toList.head? = some 'f' := by simp
    rw [startsWithDigit, hhead]
    decide
  · next hdigit => exact Bool.eq_false_iff.2 hdigit

/-- Where a field name comes from words, the underscores behind it are all that is left to put. -/
lemma fieldName_of_ne_empty {key : String} (h : snakeCase key ≠ "") :
    fieldName key = avoidKeyword (avoidReserved (ledName key)) := by
  have hsome : ¬ (snakeCase key).isEmpty := by simpa using h
  have hled := ledName_ne_empty h
  have hmarked := isMarked_avoidReserved (ledName key)
  have hcovered : coverDigit (avoidReserved (ledName key)) = avoidReserved (ledName key) := by
    simp [coverDigit, hmarked.startsWithDigit_eq hled, startsWithDigit_ledName]
  have hmended : fieldName key = safeIdentifier (avoidReserved (ledName key)) "value" := by
    simp only [fieldName]
    rw [if_neg hsome]
    rfl
  rw [hmended, safeIdentifier_of_ne_empty "value" (hmarked.ne_empty hled), hcovered]

/-! ## Characters of mended names -/

lemma mem_avoidKeyword_iff {name : String} {c : Char} :
    c ∈ (avoidKeyword name).toList ↔ c ∈ name.toList ∨ (name ∈ keywords ∧ c = '_') := by
  unfold avoidKeyword
  split <;> simp_all

lemma mem_coverDigit_iff {name : String} {c : Char} :
    c ∈ (coverDigit name).toList ↔ c ∈ name.toList ∨ (startsWithDigit name ∧ c = '_') := by
  unfold coverDigit
  split <;> simp_all [or_comm]

/-- Mending takes nothing away and adds underscores only. -/
theorem mem_safeIdentifier_iff {name fallback : String} {c : Char} (hn : name ≠ "") :
    c ∈ (safeIdentifier name fallback).toList ↔
      c ∈ name.toList ∨ ((startsWithDigit name ∨ coverDigit name ∈ keywords) ∧ c = '_') := by
  rw [safeIdentifier_of_ne_empty fallback hn, mem_avoidKeyword_iff, mem_coverDigit_iff]
  tauto

end RestConnector.Name
