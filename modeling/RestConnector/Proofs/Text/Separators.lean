import Mathlib.Data.List.TakeWhile
import RestConnector.Text.Basic

/-!
# Separators

A text is divided at the first separator in it, or at every one.  The parts of a text with a separator in it
are those of its front and what follows (`before_append`, `behind?_append`); and a text that is put together
from pieces without a separator is taken apart into them (`cutAt_commaList`).  What holds of a piece without
a separator, and of such a piece in front of what it holds of, holds of every text (`separated_induction`).
-/

namespace RestConnector.Text

variable {separator : Char} {cs : List Char}

/-! ## The first separator -/

lemma before_append (h : separator ∈ cs) (rest : List Char) :
    before separator (cs ++ rest) = before separator cs := by
  induction cs with
  | nil => exact absurd h List.not_mem_nil
  | cons c cs ih =>
    by_cases hc : c = separator
    · simp [before, hc]
    · have hcs : separator ∈ cs := (List.mem_cons.1 h).resolve_left fun heq => hc heq.symm
      have hrest := ih hcs
      simp only [before] at hrest ⊢
      simp [hc, hrest]

lemma behind?_append (h : separator ∈ cs) (rest : List Char) :
    behind? separator (cs ++ rest) = (behind? separator cs).map (· ++ rest) := by
  induction cs with
  | nil => exact absurd h List.not_mem_nil
  | cons c cs ih =>
    rw [List.cons_append, behind?, behind?]
    by_cases hc : c = separator
    · rw [if_pos hc, if_pos hc, Option.map_some]
    · have hcs : separator ∈ cs := (List.mem_cons.1 h).resolve_left fun heq => hc heq.symm
      rw [if_neg hc, if_neg hc, ih hcs]

lemma behind?_of_not_mem (h : separator ∉ cs) :
    behind? separator cs = none := by
  induction cs with
  | nil => rfl
  | cons c cs ih =>
    obtain ⟨hc, hcs⟩ := not_or.1 (mt List.mem_cons.2 h)
    rw [behind?, if_neg (Ne.symm hc), ih hcs]

lemma before_of_not_mem (h : separator ∉ cs) : before separator cs = cs :=
  List.takeWhile_eq_self_iff.2 fun c hc => by simp [ne_of_mem_of_not_mem hc h]

/-- What stands in front of the first separator, if it is seen where it is. -/
lemma before_append_cons (h : separator ∉ cs) (rest : List Char) :
    before separator (cs ++ separator :: rest) = cs := by
  have hfront : ∀ c ∈ cs, (c != separator) = true := fun c hc => by
    simp [ne_of_mem_of_not_mem hc h]
  rw [before, List.takeWhile_append_of_pos hfront, List.takeWhile_cons_of_neg (by simp),
    List.append_nil]

lemma behind?_append_cons (h : separator ∉ cs) (rest : List Char) :
    behind? separator (cs ++ separator :: rest) = some rest := by
  induction cs with
  | nil => simp [behind?]
  | cons c cs ih =>
    obtain ⟨hc, hcs⟩ := not_or.1 (mt List.mem_cons.2 h)
    rw [List.cons_append, behind?, if_neg (Ne.symm hc), ih hcs]

/-! ## Every separator -/

lemma cutAt_of_notMem (h : separator ∉ cs) :
    cutAt separator cs = [cs] := by
  induction cs with
  | nil => rfl
  | cons c cs ih =>
    rw [List.mem_cons, not_or] at h
    rw [cutAt, if_neg (Ne.symm h.1), ih h.2, attach]

lemma cutAt_append_cons (h : separator ∉ cs) (rest : List Char) :
    cutAt separator (cs ++ separator :: rest) = cs :: cutAt separator rest := by
  induction cs with
  | nil => simp [cutAt]
  | cons c cs ih =>
    obtain ⟨hc, hcs⟩ := not_or.1 (mt List.mem_cons.2 h)
    rw [List.cons_append, cutAt, if_neg (Ne.symm hc), ih hcs, attach]

/-- What stands in front of the first separator is the first piece. -/
lemma head?_cutAt (separator : Char) (cs : List Char) :
    (cutAt separator cs).head? = some (before separator cs) := by
  induction cs with
  | nil => rfl
  | cons c cs ih =>
    by_cases hc : c = separator
    · simp [cutAt, before, hc]
    · obtain ⟨pieces, hpieces⟩ := List.head?_eq_some_iff.1 ih
      simp [cutAt, before, hc, hpieces, attach]

lemma cutAt_ne_nil (separator : Char) (cs : List Char) : cutAt separator cs ≠ [] := by
  intro hnil
  have hhead := head?_cutAt separator cs
  rw [hnil] at hhead
  cases hhead

/-- A text is cut in two at a separator, and then each of its sides. -/
lemma cutAt_append (front rest : List Char) :
    cutAt separator (front ++ separator :: rest) = cutAt separator front ++ cutAt separator rest := by
  induction front with
  | nil => simp [cutAt]
  | cons c front ih =>
    rw [List.cons_append, cutAt, cutAt, ih]
    split
    · rfl
    · obtain ⟨piece, pieces, hpieces⟩ := List.exists_cons_of_ne_nil (cutAt_ne_nil separator front)
      rw [hpieces]
      rfl

/-- A text is a piece without a separator, or has such a piece and a separator in front of the rest. -/
@[elab_as_elim]
lemma separated_induction {motive : List Char → Prop} (separator : Char) (cs : List Char)
    (single : ∀ cs, separator ∉ cs → motive cs)
    (cut : ∀ piece rest, separator ∉ piece → motive rest → motive (piece ++ separator :: rest)) :
    motive cs := by
  induction hlength : cs.length using Nat.strong_induction_on generalizing cs with
  | _ n ih =>
    by_cases hmem : separator ∈ cs
    · obtain ⟨piece, rest, rfl, hpiece⟩ := List.eq_append_cons_of_mem hmem
      refine cut piece rest hpiece (ih rest.length ?_ rest rfl)
      rw [← hlength, List.length_append, List.length_cons]
      omega
    · exact single cs hmem

lemma commaList_cons_cons (first second : String) (rest : List String) :
    (commaList (first :: second :: rest)).toList =
      first.toList ++ ',' :: ' ' :: (commaList (second :: rest)).toList := by
  rw [commaList, String.intercalate_cons_cons, String.toList_append, String.toList_append,
    List.append_assoc]
  rfl

lemma not_mem_commaList {c : Char} {names : List String} (hcomma : c ≠ ',') (hspace : c ≠ ' ')
    (h : ∀ name ∈ names, c ∉ name.toList) : c ∉ (commaList names).toList := by
  induction names with
  | nil => simp [commaList]
  | cons first rest ih =>
    obtain ⟨hfirst, hrest⟩ := List.forall_mem_cons.1 h
    cases rest with
    | nil => simpa [commaList] using hfirst
    | cons second rest =>
      rw [commaList_cons_cons]
      simp only [List.mem_append, List.mem_cons, not_or]
      exact ⟨hfirst, hcomma, hspace, ih hrest⟩

/-- A list of names is taken apart at its commas; but for the first, every name has a space in front. -/
theorem cutAt_commaList {first : String} {rest : List String}
    (h : ∀ name ∈ first :: rest, ',' ∉ name.toList) :
    cutAt ',' (commaList (first :: rest)).toList =
      first.toList :: rest.map fun name => ' ' :: name.toList := by
  induction rest generalizing first with
  | nil =>
    simpa [commaList] using cutAt_of_notMem (h first List.mem_cons_self)
  | cons second rest ih =>
    obtain ⟨hfirst, hrest⟩ := List.forall_mem_cons.1 h
    rw [commaList_cons_cons, cutAt_append_cons hfirst, cutAt, if_neg (by decide), ih hrest]
    rfl

end RestConnector.Text
