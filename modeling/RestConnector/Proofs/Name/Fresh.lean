import Mathlib.Data.List.Nodup
import Mathlib.Data.List.Perm.Subperm
import RestConnector.Name.Fresh

/-!
# Names that are free

A name that is taken gets the least number from 2 on that makes it free (`IsLeastFree`).  The search for that
number looks at as many numbers as there are taken names.  Different numbers give different names, so not all
of those names and the next one as well can be taken (`exists_le_free`), and the search ends at a number that
does (`isLeastFree_firstFree`).

Hence a fresh name is never taken (`freshName_notMem`), and it is the name itself or a numbered one
(`freshName_of_notMem`, `exists_isLeastFree_of_mem`).  Which names are taken is all that it hangs on, not
their order (`IsLeastFree.congr`).
-/

namespace RestConnector.Name

variable {taken : List String} {name : String}

/-- Whether a number is the least one from 2 on that makes a name free. -/
structure IsLeastFree (taken : List String) (name : String) (k : Nat) : Prop where
  two_le : 2 ≤ k
  free : numbered name k ∉ taken
  least : ∀ j, 2 ≤ j → j < k → numbered name j ∈ taken

lemma IsLeastFree.congr {others : List String} {k : Nat} (h : IsLeastFree taken name k)
    (hsame : ∀ other, other ∈ taken ↔ other ∈ others) : IsLeastFree others name k where
  two_le := h.two_le
  free := mt (hsame _).2 h.free
  least j hj hlt := (hsame _).1 (h.least j hj hlt)

lemma numbered_injective (name : String) : Function.Injective (numbered name) := by
  intro i j h
  have hnumbers : toString i = toString j := (String.append_right_inj _).1 h
  -- The digits of a number are read back as the number.
  simpa using congrArg (fun text => Nat.ofDigitChars 10 text.toList 0) hnumbers

/-- Among one more numbered names than there are taken names, one is free. -/
lemma exists_le_free (taken : List String) (name : String) (k : Nat) :
    ∃ i ≤ taken.length, numbered name (k + i) ∉ taken := by
  by_contra hall
  push Not at hall
  let candidates := (List.range (taken.length + 1)).map fun i => numbered name (k + i)
  have hnodup : candidates.Nodup :=
    List.nodup_range.map fun i j h => Nat.add_left_cancel (numbered_injective name h)
  have hsubset : candidates ⊆ taken := by
    intro candidate hm
    obtain ⟨i, hi, rfl⟩ := List.mem_map.1 hm
    exact hall i (Nat.le_of_lt_succ (List.mem_range.1 hi))
  have hlength : candidates.length = taken.length + 1 := by simp [candidates]
  have hle := (hnodup.subperm hsubset).length_le
  omega

/-- The search passes over taken names only, and it ends at a free one if there is one within reach. -/
lemma firstFree_spec {tries k : Nat} (h : ∃ i ≤ tries, numbered name (k + i) ∉ taken) :
    k ≤ firstFree taken name tries k ∧ numbered name (firstFree taken name tries k) ∉ taken ∧
      ∀ j, k ≤ j → j < firstFree taken name tries k → numbered name j ∈ taken := by
  induction tries generalizing k with
  | zero =>
    obtain ⟨i, hi, hfree⟩ := h
    obtain rfl : i = 0 := by omega
    refine ⟨Nat.le_refl k, hfree, fun j hj hlt => ?_⟩
    rw [firstFree] at hlt
    omega
  | succ tries ih =>
    rw [firstFree]
    split
    · next htaken =>
      obtain ⟨i, hi, hfree⟩ := h
      obtain ⟨i, rfl⟩ : ∃ before, i = before + 1 := by
        refine Nat.exists_eq_succ_of_ne_zero fun hzero => hfree ?_
        rw [hzero]
        exact htaken
      have hnext : numbered name (k + 1 + i) ∉ taken := by
        rwa [Nat.add_assoc, Nat.add_comm 1 i]
      obtain ⟨hle, hend, hbefore⟩ := ih ⟨i, by omega, hnext⟩
      refine ⟨by omega, hend, fun j hj hlt => ?_⟩
      rcases Nat.eq_or_lt_of_le hj with rfl | hj
      · exact htaken
      · exact hbefore j hj hlt
    · next hfree => exact ⟨Nat.le_refl k, hfree, fun j hj hlt => by omega⟩

lemma isLeastFree_firstFree (taken : List String) (name : String) :
    IsLeastFree taken name (firstFree taken name taken.length 2) := by
  obtain ⟨htwo, hfree, hleast⟩ := firstFree_spec (exists_le_free taken name 2)
  exact ⟨htwo, hfree, hleast⟩

/-! ## Fresh names -/

lemma freshName_of_notMem (h : name ∉ taken) : freshName taken name = name :=
  if_neg h

lemma exists_isLeastFree_of_mem (h : name ∈ taken) :
    ∃ k, IsLeastFree taken name k ∧ freshName taken name = numbered name k :=
  ⟨_, isLeastFree_firstFree taken name, if_pos h⟩

/-- A fresh name is not taken. -/
theorem freshName_notMem (taken : List String) (name : String) : freshName taken name ∉ taken := by
  by_cases h : name ∈ taken
  · obtain ⟨k, hk, hname⟩ := exists_isLeastFree_of_mem h
    rw [hname]
    exact hk.free
  · rw [freshName_of_notMem h]
    exact h

end RestConnector.Name
