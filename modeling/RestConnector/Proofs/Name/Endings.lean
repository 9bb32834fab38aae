import Mathlib.Tactic.SplitIfs
import RestConnector.Proofs.Name.Plural

/-!
# Rules and endings

The rules for singular and plural ask two things of a word: whether it is in a list, and what it ends in.  If
the end of the word is known, both questions become questions about the front of it (`isListed_append`,
`endsIn_append`), with shorter lists that are found by computation (`fronts`).  And what a word ends in decides
about other endings (`endsIn_mono`, `not_endsIn_of_endsIn`), by computation again.
-/

namespace RestConnector.Name

open RestConnector.Text

/-! ## Words with a known end -/

/-- What stands in front of an end in the words of a list that have it. -/
def fronts (back : List Char) (list : List String) : List String :=
  list.filterMap fun entry =>
    if back.isSuffixOf entry.toList then
      some (String.ofList (entry.toList.take (entry.toList.length - back.length)))
    else none

lemma toList_mem_fronts {back : List Char} {list : List String} {front : List Char} :
    (∃ entry ∈ fronts back list, entry.toList = front) ↔ ∃ entry ∈ list, entry.toList = front ++ back := by
  simp only [fronts, List.mem_filterMap, Option.ite_none_right_eq_some, Option.some.injEq,
    List.isSuffixOf_iff_suffix]
  constructor
  · rintro ⟨_, ⟨entry, hm, ⟨start, hstart⟩, rfl⟩, rfl⟩
    refine ⟨entry, hm, ?_⟩
    simp [← hstart]
  · rintro ⟨entry, hm, hentry⟩
    refine ⟨_, ⟨entry, hm, ⟨front, hentry.symm⟩, rfl⟩, ?_⟩
    simp [hentry]

variable {list endings : List String} {word back : List Char}

lemma isListed_append (list : List String) (word back : List Char) :
    isListed list (word ++ back) = isListed (fronts back list) word := by
  rw [Bool.eq_iff_iff, isListed_iff, isListed_iff, toList_mem_fronts]

lemma isListed_append_list (list others : List String) (word : List Char) :
    isListed (list ++ others) word = (isListed list word || isListed others word) := by
  simp [isListed]

lemma not_isListed_append (h : fronts back list = []) : isListed list (word ++ back) = false := by
  rw [isListed_append, h]
  rfl

lemma endsIn_append_list (endings others : List String) (word : List Char) :
    endsIn (endings ++ others) word = (endsIn endings word || endsIn others word) := by
  simp [endsIn]

/-- An ending is part of a known end, or goes beyond it. -/
lemma endsIn_append (endings : List String) (word back : List Char) :
    endsIn endings (word ++ back) = (endsIn endings back || endsIn (fronts back endings) word) := by
  rw [Bool.eq_iff_iff, Bool.or_eq_true, endsIn_iff, endsIn_iff, endsIn_iff]
  constructor
  · rintro ⟨ending, hm, hsuffix⟩
    rcases List.suffix_or_suffix_of_suffix hsuffix (List.suffix_append word back) with h | ⟨front, h⟩
    · exact .inl ⟨ending, hm, h⟩
    · obtain ⟨entry, hentry, rfl⟩ := toList_mem_fronts.2 ⟨ending, hm, h.symm⟩
      rw [← h] at hsuffix
      exact .inr ⟨entry, hentry, List.suffix_append_self_iff.1 hsuffix⟩
  · rintro (⟨ending, hm, hsuffix⟩ | ⟨entry, hentry, hsuffix⟩)
    · exact ⟨ending, hm, List.suffix_append_of_suffix hsuffix⟩
    · obtain ⟨ending, hm, hending⟩ := toList_mem_fronts.1 ⟨entry, hentry, rfl⟩
      refine ⟨ending, hm, ?_⟩
      rw [hending]
      exact List.suffix_append_self_iff.2 hsuffix

lemma endsIn_append_of_back (endings : List String) (h : endsIn endings back) :
    endsIn endings (word ++ back) := by
  rw [endsIn_append, h, Bool.true_or]

lemma endsIn_append_eq (endings rest : List String)
    (h : endsIn endings back = false ∧ fronts back endings = rest) :
    endsIn endings (word ++ back) = endsIn rest word := by
  rw [endsIn_append, h.1, h.2, Bool.false_or]

lemma not_endsIn_append (endings : List String) (h : endsIn endings back = false ∧ fronts back endings = []) :
    endsIn endings (word ++ back) = false := by
  rw [endsIn_append_eq endings [] h]
  rfl

lemma endsIn_mono (others : List String) (h : endsIn endings word)
    (hothers : ∀ ending ∈ endings, endsIn others ending.toList) : endsIn others word := by
  obtain ⟨ending, hm, hsuffix⟩ := endsIn_iff.1 h
  obtain ⟨other, hother, hshorter⟩ := endsIn_iff.1 (hothers ending hm)
  exact endsIn_iff.2 ⟨other, hother, hshorter.trans hsuffix⟩

lemma not_endsIn_mono {others : List String} (endings : List String) (h : endsIn others word = false)
    (hothers : ∀ ending ∈ endings, endsIn others ending.toList) : endsIn endings word = false := by
  refine Bool.eq_false_iff.2 fun hends => ?_
  rw [endsIn_mono _ hends hothers] at h
  cases h

/-- A word ends in nothing that differs from all it can end in. -/
lemma not_endsIn_of_endsIn (others : List String) (h : endsIn endings word)
    (hothers : ∀ ending ∈ endings, ∀ other ∈ others,
      ¬ other.toList <:+ ending.toList ∧ ¬ ending.toList <:+ other.toList) :
    endsIn others word = false := by
  refine Bool.eq_false_iff.2 fun ho => ?_
  obtain ⟨ending, hm, hsuffix⟩ := endsIn_iff.1 h
  obtain ⟨other, hother, hsuffix'⟩ := endsIn_iff.1 ho
  obtain ⟨hlonger, hshorter⟩ := hothers ending hm other hother
  exact (List.suffix_or_suffix_of_suffix hsuffix' hsuffix).elim hlonger hshorter

lemma exists_eq_append_of_endsIn {ending : String} (h : endsIn [ending] word) :
    ∃ front, word = front ++ ending.toList := by
  obtain ⟨_, hm, front, hfront⟩ := endsIn_iff.1 h
  obtain rfl := List.mem_singleton.1 hm
  exact ⟨front, hfront.symm⟩

lemma ne_nil_of_endsIn (h : endsIn endings word)
    (hendings : ∀ ending ∈ endings, ending.toList ≠ []) : word ≠ [] := by
  rintro rfl
  obtain ⟨ending, hm, hsuffix⟩ := endsIn_iff.1 h
  exact hendings ending hm (List.suffix_nil.1 hsuffix)

/-- What is true of all words in a list is true of a word that is listed. -/
@[elab_as_elim]
lemma of_isListed {p : List Char → Prop} (h : isListed list word)
    (hlist : ∀ entry ∈ list, p entry.toList) : p word := by
  obtain ⟨entry, hm, rfl⟩ := isListed_iff.1 h
  exact hlist entry hm

/-- A word is none of those that pass a test which it does not pass. -/
lemma not_isListed_of_not (test : List Char → Bool) (h : test word = false)
    (hlist : ∀ entry ∈ list, test entry.toList) : isListed list word = false := by
  refine Bool.eq_false_iff.2 fun hlisted => ?_
  have htest : test word := of_isListed hlisted hlist
  rw [h] at htest
  cases htest

/-- A word is none of those that all end in something else. -/
lemma not_isListed_of_endsIn (h : endsIn endings word)
    (hlist : ∀ entry ∈ list, endsIn endings entry.toList = false) : isListed list word = false :=
  not_isListed_of_not (! endsIn endings ·) (by simp [h]) (by simpa using hlist)

lemma dropEnd_append {n : Nat} (hn : back.length = n) : dropEnd n (word ++ back) = word := by
  simp [dropEnd, hn]

lemma dropEnd_append_singleton (n : Nat) (word : List Char) (c : Char) :
    dropEnd (n + 1) (word ++ [c]) = dropEnd n word := by
  rw [dropEnd, dropEnd, List.length_append, List.length_singleton, Nat.add_sub_add_right,
    List.take_append_of_le_length (Nat.sub_le _ _)]

lemma isListed_map_append (list : List String) (ending : String) (word : List Char) :
    isListed (list.map (· ++ ending)) word =
      (endsIn [ending] word && isListed list (dropEnd ending.toList.length word)) := by
  rw [Bool.eq_iff_iff, Bool.and_eq_true]
  constructor
  · intro h
    obtain ⟨_, hm, rfl⟩ := isListed_iff.1 h
    obtain ⟨entry, hentry, rfl⟩ := List.mem_map.1 hm
    rw [String.toList_append, dropEnd_append rfl]
    exact ⟨endsIn_iff.2 ⟨ending, by simp, List.suffix_append _ _⟩, isListed_iff.2 ⟨entry, hentry, rfl⟩⟩
  · rintro ⟨hends, h⟩
    obtain ⟨front, rfl⟩ := exists_eq_append_of_endsIn hends
    rw [dropEnd_append rfl] at h
    obtain ⟨entry, hentry, rfl⟩ := isListed_iff.1 h
    exact isListed_iff.2 ⟨entry ++ ending, List.mem_map_of_mem hentry, String.toList_append⟩

lemma irregularPlural?_eq_none_iff :
    irregularPlural? word = none ↔ isListed (irregulars.map (·.1)) word = false := by
  simp [irregularPlural?, isListed]

lemma irregularSingular?_eq_none_iff :
    irregularSingular? word = none ↔ isListed (irregulars.map (·.2)) word = false := by
  simp [irregularSingular?, isListed]

end RestConnector.Name
