import Mathlib.Data.List.Infix
import Mathlib.Tactic.Lemma

/-!
# Words in texts that are put together

A word that occurs in several texts put end to end may stand in one of them, or come about where two of them
meet.  If something stands between the texts that the word does not hold, it stands in one of them
(`infix_append_cons_iff`).  Otherwise the letters with which a text can begin say where the word can be divided:
if there is one place only, it stands in one text, or across one joint at that place (`infix_join_iff`).
-/

namespace RestConnector.Text

variable {α : Type}

/-! ## Something in between -/

/-- What a word does not hold keeps apart the texts in which it can stand. -/
lemma infix_append_cons_iff {word front rest : List α} {a : α} (ha : a ∉ word) (hne : word ≠ []) :
    word <:+: front ++ a :: rest ↔ word <:+: front ∨ word <:+: rest := by
  have hmem : ∀ {part tail : List α}, part ≠ [] → part <+: a :: tail → a ∈ part := by
    intro part tail hpart hstart
    obtain ⟨b, part, rfl⟩ := List.exists_cons_of_ne_nil hpart
    obtain ⟨rfl, -⟩ := List.cons_prefix_cons.1 hstart
    exact List.mem_cons_self
  rw [List.infix_append_iff_ne_nil, List.infix_cons_iff]
  constructor
  · rintro (hfront | (hstart | hrest) | ⟨first, second, -, hsecond, rfl, -, hstart⟩)
    · exact .inl hfront
    · exact absurd (hmem hne hstart) ha
    · exact .inr hrest
    · exact absurd (List.mem_append_right _ (hmem hsecond hstart)) ha
  · rintro (hfront | hrest)
    · exact .inl hfront
    · exact .inr (.inl (.inr hrest))

/-! ## End to end -/

/-- Whether a text begins with an element of a kind. -/
def BeginsWith (opens : α → Prop) (text : List α) : Prop :=
  ∃ a rest, text = a :: rest ∧ opens a

section Joints

variable {opens : α → Prop} {front back : List α} {texts : List (List α)}

/-- What texts of a kind begin with when they are put end to end is of this kind. -/
lemma beginsWith_of_prefix_flatten (htexts : ∀ text ∈ texts, BeginsWith opens text)
    (hne : front ≠ []) (h : front <+: texts.flatten) : BeginsWith opens front := by
  obtain ⟨a, front, rfl⟩ := List.exists_cons_of_ne_nil hne
  cases texts with
  | nil => exact absurd (List.prefix_nil.1 h) hne
  | cons text texts =>
    obtain ⟨b, rest, rfl, hb⟩ := htexts text List.mem_cons_self
    rw [List.flatten_cons, List.cons_append] at h
    obtain ⟨rfl, -⟩ := List.cons_prefix_cons.1 h
    exact ⟨a, front, rfl, hb⟩

/-- A word that is not divided stands in the first of some texts, if they begin with it. -/
lemma prefix_of_prefix_flatten {text : List α} (htext : BeginsWith opens text)
    (htexts : ∀ text ∈ texts, BeginsWith opens text) (hback : ∀ a ∈ back.tail, ¬ opens a)
    (h : back <+: (text :: texts).flatten) : back <+: text := by
  rw [List.flatten_cons] at h
  rcases List.prefix_or_prefix_of_prefix h (List.prefix_append text texts.flatten) with hstart | hstart
  · exact hstart
  · -- What is left of the word would begin another text.
    obtain ⟨left, rfl⟩ := hstart
    by_cases hleft : left = []
    · rw [hleft, List.append_nil]
    · obtain ⟨a, rest, rfl, ha⟩ := beginsWith_of_prefix_flatten htexts hleft
        ((List.prefix_append_right_inj text).1 h)
      obtain ⟨b, text, rfl, -⟩ := htext
      exact absurd ha (hback a (by simp))

/-- A word of two parts that are not divided is divided between them, if anywhere in front of a text. -/
lemma eq_of_append_eq {first second : List α} (hsecond : BeginsWith opens second) (hne : first ≠ [])
    (hfront : ∀ a ∈ front.tail, ¬ opens a) (hback : ∀ a ∈ back.tail, ¬ opens a)
    (h : front ++ back = first ++ second) : front = first ∧ back = second := by
  obtain ⟨b, rest, rfl, hb⟩ := hsecond
  obtain ⟨a, first, rfl⟩ := List.exists_cons_of_ne_nil hne
  rcases List.append_eq_append_iff.1 h with ⟨left, hfirst, rfl⟩ | ⟨left, rfl, hsecond⟩
  · cases left with
    | nil => exact ⟨by simpa using hfirst.symm, rfl⟩
    | cons c left => exact absurd hb (hback b (by simp))
  · cases left with
    | nil => exact ⟨List.append_nil _, hsecond.symm⟩
    | cons c left =>
      obtain ⟨rfl, -⟩ := List.cons.inj hsecond
      exact absurd hb (hfront b (by simp))

/-- A word of two parts that are not divided stands in one of the texts that are put end to end, or across the
joint of two of them, with one part on either side. -/
theorem infix_flatten_iff (htexts : ∀ text ∈ texts, BeginsWith opens text)
    (hfront : ∀ a ∈ front.tail, ¬ opens a) (hback : ∀ a ∈ back.tail, ¬ opens a) (hne : front ≠ []) :
    front ++ back <:+: texts.flatten ↔
      (∃ text ∈ texts, front ++ back <:+: text) ∨
        ∃ first second, [first, second] <:+: texts ∧ front <:+ first ∧ back <+: second := by
  constructor
  · intro h
    induction texts with
    | nil => exact absurd (List.infix_nil.1 h) (List.append_ne_nil_of_left_ne_nil hne _)
    | cons text texts ih =>
      obtain ⟨-, hrest⟩ := List.forall_mem_cons.1 htexts
      rw [List.flatten_cons, List.infix_append_iff_ne_nil] at h
      rcases h with h | h | ⟨first, second, hfirst, hsecond, hword, hsuffix, hstart⟩
      · exact .inl ⟨text, List.mem_cons_self, h⟩
      · rcases ih hrest h with ⟨other, hother, h⟩ | ⟨first, second, hpair, h⟩
        · exact .inl ⟨other, List.mem_cons_of_mem _ hother, h⟩
        · exact .inr ⟨first, second, List.infix_cons_iff.2 (.inr hpair), h⟩
      · obtain ⟨rfl, rfl⟩ := eq_of_append_eq (beginsWith_of_prefix_flatten hrest hsecond hstart) hfirst
          hfront hback hword
        cases texts with
        | nil => exact absurd (List.prefix_nil.1 hstart) hsecond
        | cons next texts =>
          obtain ⟨hnext, htail⟩ := List.forall_mem_cons.1 hrest
          exact .inr ⟨text, next, List.infix_append [] [text, next] texts, hsuffix,
            prefix_of_prefix_flatten hnext htail hback hstart⟩
  · rintro (⟨text, htext, h⟩ | ⟨first, second, ⟨before, behind, rfl⟩, ⟨left, rfl⟩, ⟨right, rfl⟩⟩)
    · exact h.trans (List.infix_of_mem_flatten htext)
    · refine ⟨before.flatten ++ left, right ++ behind.flatten, ?_⟩
      simp

end Joints

end RestConnector.Text
