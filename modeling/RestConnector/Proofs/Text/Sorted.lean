import Mathlib.Data.List.Nodup
import RestConnector.Text.Sorted

/-!
# Sorted lists and sets

Sorting reorders a list (`sort_perm`), and a list that stands for a set has the elements of the given one,
each once (`nodup_distinct`, `mem_distinct`).
-/

namespace RestConnector.Text.Sorted

variable {α : Type}

lemma insert_perm (before : α → α → Bool) (a : α) (items : List α) :
    (insert before a items).Perm (a :: items) := by
  induction items with
  | nil => exact List.Perm.refl _
  | cons b rest ih =>
    rw [insert]
    split
    · exact (ih.cons b).trans (List.Perm.swap a b rest)
    · exact List.Perm.refl _

/-- Sorting reorders a list and does nothing else. -/
theorem sort_perm (before : α → α → Bool) (items : List α) : (sort before items).Perm items := by
  induction items with
  | nil => exact List.Perm.refl _
  | cons a rest ih => exact (insert_perm before a (sort before rest)).trans (ih.cons a)

lemma mem_distinct [DecidableEq α] {a : α} {items : List α} : a ∈ distinct items ↔ a ∈ items := by
  induction items with
  | nil => rfl
  | cons b rest ih =>
    rw [distinct, List.mem_cons]
    split
    · next hb =>
      rw [ih]
      exact ⟨.inr, fun h => h.elim (fun he => he ▸ hb) id⟩
    · rw [List.mem_cons, ih]

/-- Every element is there once. -/
theorem nodup_distinct [DecidableEq α] (items : List α) : (distinct items).Nodup := by
  induction items with
  | nil => exact List.nodup_nil
  | cons b rest ih =>
    rw [distinct]
    split
    · exact ih
    · next hb => exact List.nodup_cons.2 ⟨fun h => hb (mem_distinct.1 h), ih⟩

theorem nodup_sortedSet (names : List String) : (sortedSet names).Nodup :=
  (sort_perm precedes _).nodup_iff.2 (nodup_distinct names)

end RestConnector.Text.Sorted
