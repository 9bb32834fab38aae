import Mathlib.Data.List.DropRight
import RestConnector.Text.Blank

/-!
# Trimming

What is left of a text after it has been trimmed begins and ends with characters that stay; so it is left as
it is when it is trimmed once more (`trim_trim`), and it has a character that is no blank if the text had
one (`isAllBlank_trim`).  It does not depend on how much of what is dropped stands at the ends
(`trimEnds_append`).
-/

namespace RestConnector.Text

variable {drops : Char → Bool} {cs : List Char}

lemma trimRight_eq_rdropWhile (drops : Char → Bool) (cs : List Char) :
    trimRight drops cs = cs.rdropWhile drops := rfl

/-- What is dropped at the end of a text is what is to be dropped. -/
lemma exists_append_trimRight (drops : Char → Bool) (cs : List Char) :
    ∃ dropped, cs = trimRight drops cs ++ dropped ∧ ∀ c ∈ dropped, drops c := by
  refine ⟨(cs.reverse.takeWhile drops).reverse, ?_, fun c hc => ?_⟩
  · rw [trimRight, ← List.reverse_append, List.takeWhile_append_dropWhile, List.reverse_reverse]
  · exact List.all_eq_true.1 List.all_takeWhile c (List.mem_reverse.1 hc)

lemma trimEnds_eq_nil_iff : trimEnds drops cs = [] ↔ ∀ c ∈ cs, drops c := by
  rw [trimEnds, trimRight_eq_rdropWhile, List.rdropWhile_eq_nil_iff]
  constructor
  · intro h
    rcases hrest : cs.dropWhile drops with _ | ⟨c, rest⟩
    · exact List.dropWhile_eq_nil_iff.1 hrest
    · have hdropped : drops c := h c (hrest ▸ List.mem_cons_self)
      have hkept : ¬ drops c := by
        simpa [hrest] using List.head_dropWhile_not drops (l := cs) (by simp [hrest])
      exact absurd hdropped hkept
  · exact fun h c hc => h c ((List.dropWhile_suffix drops).subset hc)

/-- What is dropped at both ends is what is to be dropped. -/
lemma exists_append_trimEnds (drops : Char → Bool) (cs : List Char) :
    ∃ front back, cs = front ++ trimEnds drops cs ++ back ∧ (∀ c ∈ front, drops c) ∧
      ∀ c ∈ back, drops c := by
  obtain ⟨back, hback, hdropped⟩ := exists_append_trimRight drops (cs.dropWhile drops)
  refine ⟨cs.takeWhile drops, back, ?_, List.all_eq_true.1 List.all_takeWhile, hdropped⟩
  rw [trimEnds, List.append_assoc, ← hback, List.takeWhile_append_dropWhile]

/-- Nothing is dropped from the front of a text whose end alone is trimmed, if nothing was before. -/
lemma dropWhile_trimRight (h : cs.dropWhile drops = cs) :
    (trimRight drops cs).dropWhile drops = trimRight drops cs := by
  rw [trimRight_eq_rdropWhile, List.dropWhile_eq_self_iff]
  rw [List.dropWhile_eq_self_iff] at h
  intro hlength
  have hfront : cs.rdropWhile drops <+: cs := List.rdropWhile_prefix drops cs
  rw [hfront.getElem]
  exact h (hlength.trans_le hfront.length_le)

theorem trimEnds_trimEnds (drops : Char → Bool) (cs : List Char) :
    trimEnds drops (trimEnds drops cs) = trimEnds drops cs := by
  have hhead : (cs.dropWhile drops).dropWhile drops = cs.dropWhile drops :=
    List.dropWhile_idempotent drops cs
  rw [trimEnds, trimEnds, dropWhile_trimRight hhead, trimRight_eq_rdropWhile,
    trimRight_eq_rdropWhile]
  exact List.rdropWhile_idempotent drops _

lemma trimEnds_eq_self (h : ∀ c ∈ cs, drops c = false) : trimEnds drops cs = cs := by
  have hfront : cs.dropWhile drops = cs := by
    refine List.dropWhile_eq_self_iff.2 fun hlength => ?_
    simp [h _ (List.getElem_mem hlength)]
  rw [trimEnds, hfront, trimRight_eq_rdropWhile, List.rdropWhile_eq_self_iff]
  intro hne
  simp [h _ (List.getLast_mem hne)]

/-- What is to be dropped may be put at the ends of a text before it is trimmed. -/
lemma trimEnds_append {front back : List Char} (hfront : ∀ c ∈ front, drops c)
    (hback : ∀ c ∈ back, drops c) : trimEnds drops (front ++ cs ++ back) = trimEnds drops cs := by
  have hreverse : ∀ c ∈ back.reverse, drops c := fun c hc => hback c (List.mem_reverse.1 hc)
  rw [trimEnds, List.append_assoc, List.dropWhile_append_of_pos hfront, List.dropWhile_append]
  split
  case isTrue hempty =>
    rw [List.isEmpty_iff, List.dropWhile_eq_nil_iff] at hempty
    rw [trimEnds_eq_nil_iff.2 hempty, List.dropWhile_eq_nil_iff.2 hback]
    rfl
  case isFalse =>
    rw [trimRight, List.reverse_append, List.dropWhile_append_of_pos hreverse]
    rfl

/-- Between what is dropped, a text that begins and ends with what stays is left. -/
lemma trimEnds_enclosed {front body back : List Char} {first last : Char} (hfront : ∀ c ∈ front, drops c)
    (hback : ∀ c ∈ back, drops c) (hfirst : ¬ drops first) (hlast : ¬ drops last) :
    trimEnds drops (front ++ (first :: (body ++ [last]) ++ back)) = first :: (body ++ [last]) := by
  have hends : (first :: (body ++ [last])).reverse = last :: (first :: body).reverse := by simp
  rw [← List.append_assoc, trimEnds_append hfront hback, trimEnds, List.dropWhile_cons_of_neg hfirst,
    trimRight, hends, List.dropWhile_cons_of_neg hlast, ← hends, List.reverse_reverse]

lemma trim_trim (cs : List Char) : trim (trim cs) = trim cs :=
  trimEnds_trimEnds isBlank cs

/-- Trimming takes no other character than blanks. -/
lemma isAllBlank_trim (text : String) : isAllBlank (onChars trim text) = isAllBlank text := by
  rw [Bool.eq_iff_iff, isAllBlank, isAllBlank, toList_onChars, List.all_eq_true, List.all_eq_true,
    ← trimEnds_eq_nil_iff, ← trimEnds_eq_nil_iff, trim, trimEnds_trimEnds]

end RestConnector.Text
