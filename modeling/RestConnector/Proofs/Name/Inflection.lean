import RestConnector.Name.Inflection
import RestConnector.Proofs.Name.Pascal

/-!
# What inflection leaves alone

Only the last word of a name changes when the name is put into another number.  A number is a word of its
own, so the letters in front of one never belong to the last word, and they stay as they are
(`exists_mapLastWord_append`).
-/

namespace RestConnector.Name

open RestConnector.Text

lemma not_joins_of_isDecimal {c d : Char} (hc : IsLetter c) (hd : isDecimal d)
    (rest : List Char) : joins c (d :: rest) = false := by
  have hkinds : ¬ IsLetter d := fun hl => by
    have := hl.not_isDecimal
    rw [hd] at this
    cases this
  have hlower : d.isLower = false := Bool.eq_false_iff.2 fun h => hkinds (.inr h)
  have hupper : d.isUpper = false := Bool.eq_false_iff.2 fun h => hkinds (.inl h)
  simp [joins, hlower, hupper, hc.not_isDecimal]

lemma exists_lastWord? {c : Char} (hc : isWordChar c) (cs : List Char) :
    ∃ found, lastWord? (c :: cs) = some found := by
  cases h : lastWord? cs with
  | none => exact ⟨_, by rw [lastWord?, h, if_pos hc]⟩
  | some found =>
    rw [lastWord?, h]
    dsimp only
    split
    · exact ⟨_, rfl⟩
    · exact ⟨_, rfl⟩

/-- Characters that do not belong to the last word stand before it. -/
lemma lastWord?_append {front cs : List Char} {found : Located} (h : lastWord? cs = some found)
    (hfront : ∀ c, front.getLast? = some c → joins c cs = false) :
    lastWord? (front ++ cs) = some { found with before := front ++ found.before } := by
  induction front with
  | nil => exact h
  | cons c front ih =>
    cases front with
    | nil =>
      have hjoins : joins c cs = false := hfront c rfl
      rw [List.singleton_append, lastWord?, h]
      simp [hjoins]
    | cons d front =>
      have ih := ih fun e he => hfront e (by simpa using he)
      rw [List.cons_append, lastWord?, ih]
      simp

/-- Letters in front of a number are none of the last word's. -/
lemma exists_mapLastWord_append (rule : List Char → List Char) {front cs : List Char} {d : Char}
    (hfront : ∀ c, front.getLast? = some c → IsLetter c) (hd : isDecimal d) :
    ∃ rest, mapLastWord rule (front ++ d :: cs) = front ++ rest := by
  obtain ⟨found, hfound⟩ := exists_lastWord? (isWordChar_iff.2 (.inr hd)) cs
  have happend : lastWord? (front ++ d :: cs) =
      some { found with before := front ++ found.before } :=
    lastWord?_append hfound fun c hc => not_joins_of_isDecimal (hfront c hc) hd cs
  rw [mapLastWord, happend]
  dsimp only
  split
  · exact ⟨_, rfl⟩
  · exact ⟨_, by rw [Located.text, List.append_assoc, List.append_assoc]⟩

/-- A name that goes on with a number at most begins, in another number, as it does without it. -/
lemma head?_mapLastWord_append (rule : List Char → List Char) {front rest : List Char} {c : Char}
    (hrule : (mapLastWord rule front).head? = some c) (hc : front.head? = some c)
    (hfront : ∀ d, front.getLast? = some d → IsLetter d)
    (hrest : ∀ d, rest.head? = some d → isDecimal d) :
    (mapLastWord rule (front ++ rest)).head? = some c := by
  cases rest with
  | nil => rwa [List.append_nil]
  | cons d rest =>
    obtain ⟨behind, h⟩ := exists_mapLastWord_append rule hfront (hrest d rfl)
    rw [h, List.head?_append, hc]
    rfl

end RestConnector.Name
