import Mathlib.Data.List.TakeWhile
import RestConnector.Proofs.Path.Pieces

/-!
# Paths that have a placeholder

A placeholder is searched for from the left, and what it takes is not searched again.  Whether a path has
one at all does not depend on this order: it has one exactly if a placeholder begins somewhere in it
(`placeholders_ne_nil_iff`), which is said here without a reader.  Braces need a name between them that has
neither a slash nor a closing brace in it, and a colon needs the beginning of a name behind it.

The characters by which a placeholder begins also stand in paths that have none, as in `/logs/12:30`, and
`hasParameters` goes by these characters alone.  So it misses no placeholder (`hasParameters_of_placeholders`),
and it is wrong about a path exactly if all of these characters in it are stray
(`hasParameters_iff_placeholders_iff`).
-/

namespace RestConnector.Path

variable {cs : List Char} {path : String}

/-! ## Where placeholders begin -/

/-- A text that begins with a placeholder. -/
inductive BeginsPlaceholder : List Char → Prop
  | braced {name rest : List Char} (hne : name ≠ []) (hname : ∀ c ∈ name, c ≠ '\x7d' ∧ c ≠ '/') :
      BeginsPlaceholder ('\x7b' :: (name ++ '\x7d' :: rest))
  | colon {c : Char} {rest : List Char} (hc : isNameStart c) : BeginsPlaceholder (':' :: c :: rest)

/-- Whether a placeholder begins somewhere in a text. -/
def HasPlaceholder (cs : List Char) : Prop :=
  ∃ rest, rest <:+ cs ∧ BeginsPlaceholder rest

/-- Whether a text has a character by which placeholders begin, but no placeholder. -/
def HasStrayMark (cs : List Char) : Prop :=
  ('\x7b' ∈ cs ∨ ':' ∈ cs) ∧ ¬ HasPlaceholder cs

lemma beginsPlaceholder_of_placeholder? {piece : Piece} (h : placeholder? cs = some piece) :
    BeginsPlaceholder cs ∧ (piece.name?).isSome := by
  revert h
  fun_cases placeholder? cs with
  | case2 cs name rest hdrop hne =>
    rintro ⟨⟩
    have hread := takeWhile_append_drop (fun c => c != '\x7d' && c != '/') cs
    rw [hdrop] at hread
    have hname : ∀ c ∈ name, c ≠ '\x7d' ∧ c ≠ '/' := by
      intro c hc
      simpa using List.mem_takeWhile_imp hc
    refine ⟨?_, rfl⟩
    rw [← hread]
    exact .braced (mt List.isEmpty_iff.2 hne) hname
  | case4 c cs hstart =>
    rintro ⟨⟩
    exact ⟨.colon hstart, rfl⟩
  | case1 | case3 | case5 | case6 => rintro ⟨⟩

lemma isSome_placeholder? (h : BeginsPlaceholder cs) : (placeholder? cs).isSome := by
  cases h with
  | @braced name rest hne hname =>
    have hchars : ∀ c ∈ name, (c != '\x7d' && c != '/') = true := by
      intro c hc
      simp [hname c hc]
    have hread : (name ++ '\x7d' :: rest).takeWhile (fun c => c != '\x7d' && c != '/') = name := by
      rw [List.takeWhile_append_of_pos hchars, List.takeWhile_cons_of_neg (by decide),
        List.append_nil]
    simp [placeholder?, hread, hne]
  | colon hc => simp [placeholder?, hc]

/-! ## Having one -/

/-- A text that does not begin with a placeholder has those of its rest. -/
lemma hasPlaceholder_cons {c : Char} (h : placeholder? (c :: cs) = none) :
    HasPlaceholder (c :: cs) ↔ HasPlaceholder cs := by
  constructor
  · rintro ⟨rest, hsuffix, hbegins⟩
    rcases List.suffix_cons_iff.1 hsuffix with rfl | hsuffix
    · have hsome := isSome_placeholder? hbegins
      rw [h] at hsome
      cases hsome
    · exact ⟨rest, hsuffix, hbegins⟩
  · rintro ⟨rest, hsuffix, hbegins⟩
    exact ⟨rest, hsuffix.trans (List.suffix_cons c cs), hbegins⟩

lemma names_piecesFrom_ne_nil_iff :
    (piecesFrom 0 cs).filterMap Piece.name? ≠ [] ↔ HasPlaceholder cs := by
  induction cs with
  | nil =>
    refine iff_of_false (fun h => h rfl) ?_
    rintro ⟨rest, hsuffix, hbegins⟩
    rw [List.suffix_nil.1 hsuffix] at hbegins
    cases hbegins
  | cons c cs ih =>
    cases h : placeholder? (c :: cs) with
    | none =>
      rw [hasPlaceholder_cons h, ← ih, piecesFrom, h]
      rfl
    | some piece =>
      obtain ⟨hbegins, hname⟩ := beginsPlaceholder_of_placeholder? h
      obtain ⟨name, hname⟩ := Option.isSome_iff_exists.1 hname
      refine iff_of_true ?_ ⟨_, List.suffix_rfl, hbegins⟩
      rw [piecesFrom, h, List.filterMap_cons_some hname]
      exact List.cons_ne_nil _ _

/-- The placeholders of a path are found if one begins anywhere in it. -/
theorem placeholders_ne_nil_iff : placeholders path ≠ [] ↔ HasPlaceholder path.toList :=
  names_piecesFrom_ne_nil_iff

/-! ## The marks -/

lemma hasParameters_iff : hasParameters path ↔ '\x7b' ∈ path.toList ∨ ':' ∈ path.toList := by
  simp [hasParameters]

/-- A placeholder begins with one of the two marks. -/
lemma hasParameters_of_placeholders (h : placeholders path ≠ []) : hasParameters path := by
  obtain ⟨rest, hsuffix, hbegins⟩ := placeholders_ne_nil_iff.1 h
  rw [hasParameters_iff]
  cases hbegins with
  | braced => exact .inl (hsuffix.subset List.mem_cons_self)
  | colon => exact .inr (hsuffix.subset List.mem_cons_self)

/-- Going by the marks is right about every path but those that have stray ones only. -/
theorem hasParameters_iff_placeholders_iff :
    (hasParameters path ↔ placeholders path ≠ []) ↔ ¬ HasStrayMark path.toList := by
  have hforward : placeholders path ≠ [] → hasParameters path := hasParameters_of_placeholders
  rw [HasStrayMark, ← hasParameters_iff, ← placeholders_ne_nil_iff]
  tauto

end RestConnector.Path
