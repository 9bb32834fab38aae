import Mathlib.Data.List.Infix
import RestConnector.Proofs.Text.Separators

/-!
# Replaced texts

Replacement goes over a text once from the left.  To leave the marks out (`Deletes`) is to keep what is
between them, in which the mark does not occur.

The marks that are replaced here all end in a character that they have nowhere else, such as `api.` and
`uuid:`.  Two occurrences of such a mark never overlap, so the order in which they are found does not matter
(`replaceFrom_found`); and cut at its last character, a text has the mark exactly where one of its pieces,
other than the last, ends in what is in front of that character (`replaceFrom_of_suffix`,
`replaceFrom_of_not_suffix`).
-/

namespace RestConnector.Text

variable {mark word piece new cs rest : List Char} {last : Char}

/-! ## One mark -/

lemma replaceFrom_length_append (old new front cs : List Char) :
    replaceFrom old new front.length (front ++ cs) = replaceFrom old new 0 cs := by
  induction front with
  | nil => rfl
  | cons c front ih => exact ih

/-- A mark at the front is replaced, and nothing of it is looked at again. -/
lemma replaceFrom_mark_append (hmark : mark ≠ []) (new cs : List Char) :
    replaceFrom mark new 0 (mark ++ cs) = new ++ replaceFrom mark new 0 cs := by
  obtain ⟨c, tail, rfl⟩ := List.exists_cons_of_ne_nil hmark
  have hfront : (c :: tail).isPrefixOf (c :: (tail ++ cs)) := by
    rw [List.isPrefixOf_iff_prefix]
    exact List.prefix_append (c :: tail) cs
  rw [List.cons_append, replaceFrom, if_pos hfront, List.length_cons, Nat.add_sub_cancel,
    replaceFrom_length_append]

lemma replaceFrom_cons {c : Char} (h : ¬ mark <+: c :: cs) (new : List Char) :
    replaceFrom mark new 0 (c :: cs) = c :: replaceFrom mark new 0 cs := by
  rw [replaceFrom, if_neg (mt List.isPrefixOf_iff_prefix.1 h)]

/-- A mark is in front of a text exactly if it makes up all that is before its last character. -/
lemma mark_prefix_iff (hword : last ∉ word) (hpiece : last ∉ piece) :
    word ++ [last] <+: piece ++ last :: rest ↔ word = piece := by
  constructor
  · rintro ⟨back, hback⟩
    rw [List.append_assoc, List.singleton_append] at hback
    rw [← before_append_cons hword back, hback, before_append_cons hpiece]
  · rintro rfl
    exact ⟨rest, by rw [List.append_assoc, List.singleton_append]⟩

/-! ## Pieces between marks -/

lemma replaceFrom_of_absent (h : ¬ mark <:+: cs) (new : List Char) :
    replaceFrom mark new 0 cs = cs := by
  induction cs with
  | nil => rfl
  | cons c cs ih =>
    rw [List.infix_cons_iff, not_or] at h
    rw [replaceFrom_cons h.1, ih h.2]

/-- No mark begins in a piece without marks, not even one that goes on into the next mark. -/
lemma not_begins_mark {c : Char} (hword : last ∉ word) (h : ¬ word ++ [last] <:+: c :: piece)
    (cs : List Char) : ¬ word ++ [last] <+: c :: (piece ++ (word ++ [last] ++ cs)) := by
  intro hprefix
  by_cases hlast : last ∈ c :: piece
  · -- The mark would end where the piece has its last character first.
    obtain ⟨front, back, hsplit, hfront⟩ := List.eq_append_cons_of_mem hlast
    rw [← List.cons_append, hsplit, List.append_assoc, List.cons_append,
      mark_prefix_iff hword hfront] at hprefix
    refine h ⟨[], back, ?_⟩
    rw [hsplit, hprefix, List.nil_append, List.append_assoc, List.singleton_append]
  · -- It would end where the next mark does, which is as long.
    have hfront : last ∉ c :: piece ++ word := by
      rw [List.mem_append, not_or]
      exact ⟨hlast, hword⟩
    have htext : c :: (piece ++ (word ++ [last] ++ cs)) = c :: piece ++ word ++ last :: cs := by simp
    rw [htext, mark_prefix_iff hword hfront] at hprefix
    have hlength := congrArg List.length hprefix
    simp only [List.length_append, List.length_cons] at hlength
    omega

lemma replaceFrom_found (hword : last ∉ word) (h : ¬ word ++ [last] <:+: piece)
    (new cs : List Char) :
    replaceFrom (word ++ [last]) new 0 (piece ++ (word ++ [last] ++ cs)) =
      piece ++ (new ++ replaceFrom (word ++ [last]) new 0 cs) := by
  induction piece with
  | nil => exact replaceFrom_mark_append (by simp) new cs
  | cons c piece ih =>
    have hpiece : ¬ word ++ [last] <:+: piece := mt List.infix_cons h
    rw [List.cons_append, replaceFrom_cons (not_begins_mark hword h cs), ih hpiece,
      List.cons_append]

/-! ## Leaving marks out -/

/-- A text without the marks in it. -/
inductive Deletes (mark : List Char) : List Char → List Char → Prop
  | absent {cs : List Char} (h : ¬ mark <:+: cs) : Deletes mark cs cs
  | found (piece : List Char) {cs out : List Char} (h : ¬ mark <:+: piece)
      (hrest : Deletes mark cs out) : Deletes mark (piece ++ (mark ++ cs)) (piece ++ out)

lemma Deletes.cons {c : Char} {out : List Char} (h : Deletes mark cs out)
    (hfront : ¬ mark <+: c :: cs) : Deletes mark (c :: cs) (c :: out) := by
  cases h with
  | absent h => exact .absent fun hinfix => (List.infix_cons_iff.1 hinfix).elim hfront h
  | @found piece cs out h hrest =>
    refine .found (c :: piece) (fun hinfix => ?_) hrest
    rcases List.infix_cons_iff.1 hinfix with hbegins | hinfix
    · exact hfront (hbegins.trans (List.prefix_append (c :: piece) _))
    · exact h hinfix

lemma deletes_replaceFrom (hmark : mark ≠ []) (skip : Nat) (cs : List Char) :
    Deletes mark (cs.drop skip) (replaceFrom mark [] skip cs) := by
  have hnil : ¬ mark <:+: [] := mt List.infix_nil.1 hmark
  fun_induction replaceFrom mark [] skip cs with
  | case1 =>
    rw [List.drop_nil]
    exact .absent hnil
  | case2 skip c cs ih => exact ih
  | case3 c cs hprefix ih =>
    obtain ⟨back, hback⟩ := List.isPrefixOf_iff_prefix.1 hprefix
    obtain ⟨d, tail, rfl⟩ := List.exists_cons_of_ne_nil hmark
    rw [List.cons_append, List.cons.injEq] at hback
    obtain ⟨rfl, rfl⟩ := hback
    have hrest : (tail ++ back).drop ((d :: tail).length - 1) = back := by
      rw [List.length_cons, Nat.add_sub_cancel, List.drop_left]
    rw [hrest] at ih
    exact .found [] hnil ih
  | case4 c cs hprefix ih => exact ih.cons (mt List.isPrefixOf_iff_prefix.2 hprefix)

/-- To replace marks of this kind by nothing is to leave them out. -/
theorem replaceFrom_eq_iff (hword : last ∉ word) {out : List Char} :
    replaceFrom (word ++ [last]) [] 0 cs = out ↔ Deletes (word ++ [last]) cs out := by
  constructor
  · rintro rfl
    exact deletes_replaceFrom (by simp) 0 cs
  · intro h
    induction h with
    | absent h => exact replaceFrom_of_absent h []
    | found piece h _ ih => rw [replaceFrom_found hword h, List.nil_append, ih]

/-! ## Pieces between last characters -/

/-- A piece that ends in the word loses this end, and what is behind it. -/
lemma replaceFrom_of_suffix (hword : last ∉ word) (hpiece : last ∉ piece) (new rest : List Char) :
    replaceFrom (word ++ [last]) new 0 (piece ++ word ++ last :: rest) =
      piece ++ (new ++ replaceFrom (word ++ [last]) new 0 rest) := by
  have hinfix : ¬ word ++ [last] <:+: piece := fun h =>
    hpiece (h.subset (List.mem_append_right _ (List.mem_singleton_self last)))
  have htext : piece ++ word ++ last :: rest = piece ++ (word ++ [last] ++ rest) := by simp
  rw [htext, replaceFrom_found hword hinfix]

lemma replaceFrom_of_not_suffix (hword : last ∉ word) (hpiece : last ∉ piece)
    (h : ¬ word <:+ piece) (new rest : List Char) :
    replaceFrom (word ++ [last]) new 0 (piece ++ last :: rest) =
      piece ++ last :: replaceFrom (word ++ [last]) new 0 rest := by
  induction piece with
  | nil =>
    have hne : word ≠ [] := fun hnil => h (hnil ▸ List.suffix_rfl)
    have hfront : ¬ word ++ [last] <+: [] ++ last :: rest := by rwa [mark_prefix_iff hword hpiece]
    rw [List.nil_append] at hfront ⊢
    rw [replaceFrom_cons hfront, List.nil_append]
  | cons c piece ih =>
    have hne : word ≠ c :: piece := fun heq => h (heq ▸ List.suffix_rfl)
    have hfront : ¬ word ++ [last] <+: c :: piece ++ last :: rest := by
      rwa [mark_prefix_iff hword hpiece]
    have hsuffix : ¬ word <:+ piece := fun hp => h (hp.trans (List.suffix_cons c piece))
    rw [List.mem_cons, not_or] at hpiece
    rw [List.cons_append] at hfront ⊢
    rw [replaceFrom_cons hfront, ih hpiece.2 hsuffix, List.cons_append]

/-- Puts a text in front of the first of several pieces. -/
def runInto (front : List Char) : List (List Char) → List (List Char)
  | [] => [front]
  | piece :: pieces => (front ++ piece) :: pieces

/-- Pieces of which all but the last have lost an ending if they had it.  A piece that has lost it runs
into the next one. -/
def cutEndings (ending : List Char) : List (List Char) → List (List Char)
  | [] => []
  | [piece] => [piece]
  | piece :: next :: pieces =>
    if ending <:+ piece then
      runInto (dropEnd ending.length piece) (cutEndings ending (next :: pieces))
    else piece :: cutEndings ending (next :: pieces)

lemma cutAt_append_of_notMem (h : last ∉ piece) (cs : List Char) :
    cutAt last (piece ++ cs) = runInto piece (cutAt last cs) := by
  obtain ⟨first, pieces, hpieces⟩ := List.exists_cons_of_ne_nil (cutAt_ne_nil last cs)
  rw [hpieces]
  induction piece with
  | nil => exact hpieces
  | cons c piece ih =>
    rw [List.mem_cons, not_or] at h
    rw [List.cons_append, cutAt, if_neg (Ne.symm h.1), ih h.2]
    rfl

/-- Without the marks, a text has the pieces that have lost their endings. -/
theorem cutAt_replaceFrom (hword : last ∉ word) (cs : List Char) :
    cutAt last (replaceFrom (word ++ [last]) [] 0 cs) = cutEndings word (cutAt last cs) := by
  induction cs using separated_induction last with
  | single cs h =>
    have hinfix : ¬ word ++ [last] <:+: cs := fun hm =>
      h (hm.subset (List.mem_append_right _ (List.mem_singleton_self last)))
    rw [replaceFrom_of_absent hinfix, cutAt_of_notMem h, cutEndings]
  | cut piece rest hpiece ih =>
    obtain ⟨next, pieces, hrest⟩ := List.exists_cons_of_ne_nil (cutAt_ne_nil last rest)
    rw [cutAt_append_cons hpiece, hrest, cutEndings, ← hrest, ← ih]
    split
    case isTrue hsuffix =>
      obtain ⟨stem, rfl⟩ := hsuffix
      rw [List.mem_append, not_or] at hpiece
      have hstem : dropEnd word.length (stem ++ word) = stem := by simp [dropEnd]
      rw [replaceFrom_of_suffix hword hpiece.1, List.nil_append, cutAt_append_of_notMem hpiece.1,
        hstem]
    case isFalse hsuffix =>
      rw [replaceFrom_of_not_suffix hword hpiece hsuffix, cutAt_append_cons hpiece]

lemma replaceFrom_sublist (mark : List Char) (skip : Nat) (cs : List Char) :
    (replaceFrom mark [] skip cs).Sublist cs := by
  fun_induction replaceFrom mark [] skip cs with
  | case1 => exact List.Sublist.refl []
  | case2 skip c cs ih => exact ih.cons c
  | case3 c cs hprefix ih => exact ih.cons c
  | case4 c cs hprefix ih => exact ih.cons_cons c

/-- Nothing is left out exactly if no piece but the last has the ending. -/
theorem replaceFrom_eq_self_iff (hword : last ∉ word) (cs : List Char) :
    replaceFrom (word ++ [last]) [] 0 cs = cs ↔
      ∀ piece ∈ (cutAt last cs).dropLast, ¬ word <:+ piece := by
  induction cs using separated_induction last with
  | single cs h =>
    have hinfix : ¬ word ++ [last] <:+: cs := fun hm =>
      h (hm.subset (List.mem_append_right _ (List.mem_singleton_self last)))
    rw [replaceFrom_of_absent hinfix, cutAt_of_notMem h]
    simp
  | cut piece rest hpiece ih =>
    rw [cutAt_append_cons hpiece, List.dropLast_cons_of_ne_nil (cutAt_ne_nil last rest),
      List.forall_mem_cons, ← ih]
    by_cases hsuffix : word <:+ piece
    · refine iff_of_false (fun heq => ?_) fun h => h.1 hsuffix
      obtain ⟨stem, rfl⟩ := hsuffix
      rw [List.mem_append, not_or] at hpiece
      rw [replaceFrom_of_suffix hword hpiece.1] at heq
      have hlength := congrArg List.length heq
      have hle := (replaceFrom_sublist (word ++ [last]) 0 rest).length_le
      simp only [List.length_append, List.length_cons, List.length_nil] at hlength hle
      omega
    · rw [replaceFrom_of_not_suffix hword hpiece hsuffix]
      simp [hsuffix]

end RestConnector.Text
