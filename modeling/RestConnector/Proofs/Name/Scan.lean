import RestConnector.Proofs.Name.LastWord
import RestConnector.Proofs.Name.Styles

/-!
# Words as matches of a pattern

The words of a name are meant as what a pattern of four alternatives matches, from left to right: capitals in
front of a capital with a small letter behind it, small letters with a capital in front or without, capitals, and
decimal digits.  The alternatives are tried in this order, and the first that matches at all takes as much as it
can; where none matches, one character is passed over.

`IsScan` says this of a text and its pieces.  Nothing in it looks like `joins`, by which a name is taken apart
without going back; but the pieces of a scan are the words of the text, and no others are
(`isScan_iff_eq_wordsOf`).  The reason is that a match grows at its front like a word does: a character that joins
what a match begins with belongs to the match (`IsMatch.cons`), and one that does not is a match of its own
(`exists_isMatch_singleton`).
-/

namespace RestConnector.Name

open RestConnector.Text

/-! ## The pattern -/

/-- The alternatives of the pattern. -/
inductive WordKind where
  | acronym
  | small
  | capitals
  | number
deriving DecidableEq, Repr

namespace WordKind

/-- The alternatives that are tried before. -/
def earlier : WordKind → List WordKind
  | .acronym => []
  | .small => [.acronym]
  | .capitals => [.acronym, .small]
  | .number => [.acronym, .small, .capitals]

/-- Whether an alternative matches a word with a text behind it.  Only acronyms look at what is behind. -/
def Fits (kind : WordKind) (word behind : List Char) : Prop :=
  match kind with
  | .acronym => word ≠ [] ∧ (∀ c ∈ word, c.isUpper) ∧
      ∃ c d rest, behind = c :: d :: rest ∧ c.isUpper ∧ d.isLower
  | .small => ∃ (capital : Option Char) (rest : List Char), word = capital.toList ++ rest ∧
      (∀ c ∈ capital, c.isUpper) ∧ rest ≠ [] ∧ ∀ c ∈ rest, c.isLower
  | .capitals => word ≠ [] ∧ ∀ c ∈ word, c.isUpper
  | .number => word ≠ [] ∧ ∀ c ∈ word, isDecimal c

/-- Whether an alternative matches at the front of a text. -/
def Begins (kind : WordKind) (text : List Char) : Prop :=
  ∃ word behind, text = word ++ behind ∧ kind.Fits word behind

end WordKind

/-- Whether the pattern matches a word at the front of a text: by the first alternative that matches there, which
takes as much as it can. -/
structure IsMatch (kind : WordKind) (text word behind : List Char) : Prop where
  text_eq : text = word ++ behind
  fits : kind.Fits word behind
  longest : ∀ other rest, text = other ++ rest → kind.Fits other rest → other.length ≤ word.length
  first : ∀ before ∈ kind.earlier, ¬ before.Begins text

/-- Whether pieces are what the pattern matches in a text, one behind the other. -/
inductive IsScan : List Char → List (List Char) → Prop
  | done : IsScan [] []
  | pass {c : Char} {cs : List Char} {pieces : List (List Char)}
      (hnone : ∀ kind : WordKind, ¬ kind.Begins (c :: cs)) (hrest : IsScan cs pieces) :
      IsScan (c :: cs) pieces
  | take {kind : WordKind} {text word behind : List Char} {pieces : List (List Char)}
      (hmatch : IsMatch kind text word behind) (hrest : IsScan behind pieces) :
      IsScan text (word :: pieces)

/-! ## Characters that join -/

section Joins

variable {c d : Char}

lemma not_isLetter_of_isDecimal (hc : isDecimal c) : ¬ IsLetter c := fun hletter => by
  rw [hletter.not_isDecimal] at hc
  cases hc

lemma joins_iff_of_isDecimal (hd : isDecimal d) (rest : List Char) :
    joins c (d :: rest) ↔ isDecimal c := by
  obtain ⟨hupper, hlower⟩ := not_or.1 (not_isLetter_of_isDecimal hd)
  simp [joins, hd, hupper, hlower]

end Joins

namespace WordKind

variable {kind : WordKind} {c : Char} {cs word behind : List Char}

/-! ## Words of a kind -/

lemma fits_small_cons_iff :
    WordKind.small.Fits (c :: word) behind ↔
      (c.isLower ∨ c.isUpper ∧ word ≠ []) ∧ ∀ d ∈ word, d.isLower := by
  constructor
  · rintro ⟨capital, rest, hword, hcapital, hne, hrest⟩
    cases capital with
    | none =>
      obtain rfl : c :: word = rest := hword
      obtain ⟨hc, hword⟩ := List.forall_mem_cons.1 hrest
      exact ⟨.inl hc, hword⟩
    | some d =>
      obtain ⟨rfl, rfl⟩ := List.cons.inj hword
      exact ⟨.inr ⟨hcapital c rfl, hne⟩, hrest⟩
  · rintro ⟨hc | ⟨hc, hne⟩, hword⟩
    · exact ⟨none, c :: word, rfl, nofun, List.cons_ne_nil _ _, List.forall_mem_cons.2 ⟨hc, hword⟩⟩
    · refine ⟨some c, word, rfl, ?_, hne, hword⟩
      rintro d ⟨⟩
      exact hc

lemma Fits.ne_nil (h : kind.Fits word behind) : word ≠ [] := by
  cases kind with
  | acronym | capitals | number => exact h.1
  | small =>
    obtain ⟨capital, rest, rfl, -, hne, -⟩ := h
    exact List.append_ne_nil_of_right_ne_nil _ hne

lemma Fits.isWordChar (h : kind.Fits (c :: word) behind) : isWordChar c := by
  rw [isWordChar_iff]
  cases kind with
  | acronym => exact .inl (.inl (h.2.1 c List.mem_cons_self))
  | small => exact .inl ((fits_small_cons_iff.1 h).1.elim .inr fun hc => .inl hc.1)
  | capitals => exact .inl (.inl (h.2 c List.mem_cons_self))
  | number => exact .inr (h.2 c List.mem_cons_self)

/-- What is left of a word without its first character is of the same kind. -/
lemma Fits.tail (h : kind.Fits (c :: word) behind) (hne : word ≠ []) : kind.Fits word behind := by
  cases kind with
  | acronym => exact ⟨hne, (List.forall_mem_cons.1 h.2.1).2, h.2.2⟩
  | small => exact ⟨none, word, rfl, nofun, hne, (fits_small_cons_iff.1 h).2⟩
  | capitals => exact ⟨hne, (List.forall_mem_cons.1 h.2).2⟩
  | number => exact ⟨hne, (List.forall_mem_cons.1 h.2).2⟩

/-- A character that joins a word makes it a longer word of the same kind. -/
lemma Fits.cons (h : kind.Fits word behind) (hj : joins c (word ++ behind)) :
    kind.Fits (c :: word) behind := by
  obtain ⟨d, word, rfl⟩ := List.exists_cons_of_ne_nil h.ne_nil
  rw [List.cons_append] at hj
  cases kind with
  | acronym =>
    obtain ⟨hc, -⟩ := (joins_iff_of_isUpper (h.2.1 d List.mem_cons_self) _).1 hj
    exact ⟨List.cons_ne_nil _ _, List.forall_mem_cons.2 ⟨hc, h.2.1⟩, h.2.2⟩
  | capitals =>
    obtain ⟨hc, -⟩ := (joins_iff_of_isUpper (h.2 d List.mem_cons_self) _).1 hj
    exact ⟨List.cons_ne_nil _ _, List.forall_mem_cons.2 ⟨hc, h.2⟩⟩
  | number =>
    have hc := (joins_iff_of_isDecimal (h.2 d List.mem_cons_self) _).1 hj
    exact ⟨List.cons_ne_nil _ _, List.forall_mem_cons.2 ⟨hc, h.2⟩⟩
  | small =>
    obtain ⟨hd | ⟨hd, hne⟩, hword⟩ := fits_small_cons_iff.1 h
    · have hc := (joins_iff_of_isLower hd _).1 hj
      exact fits_small_cons_iff.2 ⟨hc.symm.imp_right fun hc => ⟨hc, List.cons_ne_nil _ _⟩,
        List.forall_mem_cons.2 ⟨hd, hword⟩⟩
    · -- Nothing joins a capital that begins a word of its own.
      obtain ⟨e, word, rfl⟩ := List.exists_cons_of_ne_nil hne
      obtain ⟨-, hsmall⟩ := (joins_iff_of_isUpper hd _).1 hj
      have he : e.isLower := hword e List.mem_cons_self
      rw [List.cons_append, startsLower, he] at hsmall
      cases hsmall

/-- Characters of a word join, but for a capital in front of one that small letters follow. -/
lemma Fits.joins_or (h : kind.Fits (c :: word) behind) (hne : word ≠ []) :
    joins c (word ++ behind) ∨ kind = .capitals ∧ WordKind.acronym.Fits [c] (word ++ behind) := by
  obtain ⟨d, word, rfl⟩ := List.exists_cons_of_ne_nil hne
  rw [List.cons_append]
  cases kind with
  | number =>
    obtain ⟨hc, hword⟩ := List.forall_mem_cons.1 h.2
    exact .inl ((joins_iff_of_isDecimal (hword d List.mem_cons_self) _).2 hc)
  | small =>
    obtain ⟨hc, hword⟩ := fits_small_cons_iff.1 h
    exact .inl ((joins_iff_of_isLower (hword d List.mem_cons_self) _).2
      (hc.symm.imp_left fun hc => hc.1))
  | acronym =>
    obtain ⟨-, hword, e, f, rest, rfl, he, -⟩ := h
    obtain ⟨hc, hd, hword⟩ := by simpa only [List.forall_mem_cons] using hword
    refine .inl ((joins_iff_of_isUpper hd _).2 ⟨hc, ?_⟩)
    cases word with
    | nil => exact not_isLower_of_isUpper he
    | cons g word => exact not_isLower_of_isUpper (hword g List.mem_cons_self)
  | capitals =>
    obtain ⟨hc, hd, hword⟩ := by simpa only [List.forall_mem_cons] using h.2
    cases hsmall : startsLower (word ++ behind) with
    | false => exact .inl ((joins_iff_of_isUpper hd _).2 ⟨hc, hsmall⟩)
    | true =>
      obtain ⟨e, rest, hrest⟩ : ∃ e rest, word ++ behind = e :: rest := by
        cases hrest : word ++ behind with
        | nil => rw [hrest] at hsmall; cases hsmall
        | cons e rest => exact ⟨e, rest, rfl⟩
      rw [hrest] at hsmall ⊢
      exact .inr ⟨rfl, List.cons_ne_nil _ _, List.forall_mem_singleton.2 hc, d, e, rest, rfl, hd, hsmall⟩

lemma fits_small_singleton_iff : WordKind.small.Fits [c] behind ↔ c.isLower := by
  simp [fits_small_cons_iff]

lemma Begins.exists_cons (h : kind.Begins (c :: cs)) :
    ∃ word behind, cs = word ++ behind ∧ kind.Fits (c :: word) behind := by
  obtain ⟨word, behind, htext, hfits⟩ := h
  obtain ⟨d, word, rfl⟩ := List.exists_cons_of_ne_nil hfits.ne_nil
  obtain ⟨rfl, rfl⟩ := List.cons.inj htext
  exact ⟨word, behind, rfl, hfits⟩

/-- A character that joins a word is not matched by an alternative that is tried before. -/
lemma Fits.not_fits_singleton {before : WordKind} (h : kind.Fits word behind)
    (hj : joins c (word ++ behind)) (hbefore : before ∈ kind.earlier) :
    ¬ before.Fits [c] (word ++ behind) := by
  obtain ⟨d, word, rfl⟩ := List.exists_cons_of_ne_nil h.ne_nil
  have hcapital : d.isUpper → c.isLower = false := fun hd =>
    not_isLower_of_isUpper ((joins_iff_of_isUpper hd _).1 hj).1
  have hnumber : isDecimal d → ¬ IsLetter c := fun hd =>
    not_isLetter_of_isDecimal ((joins_iff_of_isDecimal hd _).1 hj)
  cases before with
  | acronym =>
    rintro ⟨-, -, d, e, rest, hcs, hd, he⟩
    rw [hcs, joins_iff_of_isUpper hd] at hj
    exact absurd he (Bool.eq_false_iff.1 hj.2)
  | small =>
    rw [fits_small_singleton_iff]
    cases kind with
    | acronym | small => simp [earlier] at hbefore
    | capitals => exact Bool.eq_false_iff.1 (hcapital (h.2 d List.mem_cons_self))
    | number => exact fun hc => hnumber (h.2 d List.mem_cons_self) (.inr hc)
  | capitals =>
    cases kind with
    | acronym | small | capitals => simp [earlier] at hbefore
    | number =>
      exact fun hc => hnumber (h.2 d List.mem_cons_self) (.inl (hc.2 c List.mem_cons_self))
  | number => cases kind <;> simp [earlier] at hbefore

/-- There is a first alternative that matches a word character alone. -/
lemma exists_first_fits (hc : isWordChar c) (behind : List Char) :
    ∃ kind : WordKind, kind.Fits [c] behind ∧ ∀ before ∈ kind.earlier, ¬ before.Fits [c] behind := by
  by_cases hacronym : WordKind.acronym.Fits [c] behind
  · exact ⟨.acronym, hacronym, nofun⟩
  rcases isWordChar_iff.1 hc with (hupper | hlower) | hdecimal
  · have hsmall : ¬ WordKind.small.Fits [c] behind := by
      rw [fits_small_singleton_iff, not_isLower_of_isUpper hupper]
      exact Bool.false_ne_true
    exact ⟨.capitals, ⟨List.cons_ne_nil _ _, List.forall_mem_singleton.2 hupper⟩,
      List.forall_mem_cons.2 ⟨hacronym, List.forall_mem_singleton.2 hsmall⟩⟩
  · exact ⟨.small, fits_small_singleton_iff.2 hlower, List.forall_mem_singleton.2 hacronym⟩
  · have hletter := not_isLetter_of_isDecimal hdecimal
    have hsmall : ¬ WordKind.small.Fits [c] behind := by
      rw [fits_small_singleton_iff]
      exact fun hlower => hletter (.inr hlower)
    have hcapitals : ¬ WordKind.capitals.Fits [c] behind :=
      fun h => hletter (.inl (h.2 c List.mem_cons_self))
    exact ⟨.number, ⟨List.cons_ne_nil _ _, List.forall_mem_singleton.2 hdecimal⟩,
      List.forall_mem_cons.2 ⟨hacronym,
        List.forall_mem_cons.2 ⟨hsmall, List.forall_mem_singleton.2 hcapitals⟩⟩⟩

end WordKind

/-! ## Matches -/

section Matches

variable {kind : WordKind} {c : Char} {cs text word behind : List Char}

/-- One step: a match grows by what joins it. -/
lemma IsMatch.cons (h : IsMatch kind cs word behind) (hj : joins c cs) :
    IsMatch kind (c :: cs) (c :: word) behind where
  text_eq := congrArg (c :: ·) h.text_eq
  fits := h.fits.cons (h.text_eq ▸ hj)
  longest := by
    intro other rest htext hfits
    obtain ⟨d, other, rfl⟩ := List.exists_cons_of_ne_nil hfits.ne_nil
    obtain ⟨rfl, hcs⟩ := List.cons.inj htext
    by_cases hne : other = []
    · simp [hne]
    · exact Nat.succ_le_succ (h.longest other rest hcs (hfits.tail hne))
  first := by
    intro before hbefore hbegins
    obtain ⟨other, rest, hcs, hfits⟩ := hbegins.exists_cons
    by_cases hne : other = []
    · subst hne
      rw [List.nil_append] at hcs
      rw [← hcs, h.text_eq] at hfits
      exact h.fits.not_fits_singleton (h.text_eq ▸ hj) hbefore hfits
    · exact h.first before hbefore ⟨other, rest, hcs, hfits.tail hne⟩

/-- A word character that joins nothing is a match of its own. -/
lemma exists_isMatch_singleton (hc : isWordChar c) (hj : ¬ joins c cs) :
    ∃ kind, IsMatch kind (c :: cs) [c] cs := by
  obtain ⟨kind, hfits, hfirst⟩ := WordKind.exists_first_fits hc cs
  -- An alternative that takes more gives up capitals for an acronym, which is tried before.
  have hnil : ∀ {other : WordKind} {word behind}, cs = word ++ behind → other.Fits (c :: word) behind →
      (other = .capitals → .acronym ∈ kind.earlier) → word = [] := by
    rintro other word behind rfl hother hcapitals
    by_contra hne
    obtain hjoins | ⟨rfl, hacronym⟩ := hother.joins_or hne
    · exact hj hjoins
    · exact hfirst _ (hcapitals rfl) hacronym
  refine ⟨kind, rfl, hfits, ?_, ?_⟩
  · intro other rest htext hother
    obtain ⟨d, other, rfl⟩ := List.exists_cons_of_ne_nil hother.ne_nil
    obtain ⟨rfl, hcs⟩ := List.cons.inj htext
    rw [hnil hcs hother (by rintro rfl; decide)]
  · intro before hbefore hbegins
    obtain ⟨other, rest, hcs, hother⟩ := hbegins.exists_cons
    have hacronym : before = .capitals → .acronym ∈ kind.earlier := by
      rintro rfl
      revert hbefore
      cases kind <;> decide
    obtain rfl := hnil hcs hother hacronym
    rw [List.nil_append] at hcs
    exact hfirst before hbefore (hcs ▸ hother)

/-- There is one match at most in front of a text. -/
lemma IsMatch.unique {other : WordKind} {word' behind' : List Char} (h : IsMatch kind text word behind)
    (h' : IsMatch other text word' behind') : word = word' ∧ behind = behind' := by
  have hbegins : kind.Begins text := ⟨word, behind, h.text_eq, h.fits⟩
  have hbegins' : other.Begins text := ⟨word', behind', h'.text_eq, h'.fits⟩
  have horder : kind = other ∨ kind ∈ other.earlier ∨ other ∈ kind.earlier := by
    cases kind <;> cases other <;> decide
  obtain rfl | hbefore | hbefore := horder
  · have hlength : word.length = word'.length :=
      Nat.le_antisymm (h'.longest word behind h.text_eq h.fits) (h.longest word' behind' h'.text_eq h'.fits)
    exact List.append_inj (h.text_eq.symm.trans h'.text_eq) hlength
  · exact absurd hbegins (h'.first kind hbefore)
  · exact absurd hbegins' (h.first other hbefore)

end Matches

/-! ## Scans -/

section Scans

variable {cs : List Char} {pieces : List (List Char)}

/-- The words of a text are a scan of it. -/
lemma isScan_wordsOf (cs : List Char) : IsScan cs (wordsOf cs) := by
  induction cs with
  | nil => exact .done
  | cons c cs ih =>
    by_cases hc : isWordChar c
    · by_cases hj : joins c cs
      · obtain ⟨d, rest, rfl, hd, -⟩ := exists_of_joins hj
        rw [wordsOf, if_pos hc, if_pos hj]
        generalize wordsOf (d :: rest) = pieces at ih ⊢
        cases ih with
        | pass hnone =>
          obtain ⟨kind, hfits⟩ := WordKind.exists_first_fits hd rest
          exact absurd ⟨[d], rest, rfl, hfits.1⟩ (hnone kind)
        | take hmatch hrest => exact .take (hmatch.cons hj) hrest
      · obtain ⟨kind, hmatch⟩ := exists_isMatch_singleton hc hj
        rw [wordsOf, if_pos hc, if_neg hj]
        exact .take hmatch ih
    · rw [wordsOf, if_neg hc]
      refine .pass (fun kind hbegins => ?_) ih
      obtain ⟨word, behind, -, hfits⟩ := hbegins.exists_cons
      exact hc hfits.isWordChar

/-- A text is scanned in one way only. -/
lemma IsScan.unique {others : List (List Char)} (h : IsScan cs pieces) (hother : IsScan cs others) :
    pieces = others := by
  induction h generalizing others with
  | done =>
    cases hother with
    | done => rfl
    | take hmatch =>
      exact absurd (List.append_eq_nil_iff.1 hmatch.text_eq.symm).1 hmatch.fits.ne_nil
  | pass hnone hrest ih =>
    cases hother with
    | pass _ hother => exact ih hother
    | take hmatch => exact absurd ⟨_, _, hmatch.text_eq, hmatch.fits⟩ (hnone _)
  | take hmatch hrest ih =>
    cases hother with
    | done => exact absurd (List.append_eq_nil_iff.1 hmatch.text_eq.symm).1 hmatch.fits.ne_nil
    | pass hnone => exact absurd ⟨_, _, hmatch.text_eq, hmatch.fits⟩ (hnone _)
    | take hmatch' hother =>
      obtain ⟨rfl, rfl⟩ := hmatch.unique hmatch'
      rw [ih hother]

/-- The words of a text are what the pattern matches in it, and nothing else is. -/
theorem isScan_iff_eq_wordsOf : IsScan cs pieces ↔ pieces = wordsOf cs := by
  constructor
  · exact fun h => h.unique (isScan_wordsOf cs)
  · rintro rfl
    exact isScan_wordsOf cs

end Scans

/-! ## Words in small letters -/

section Lower

variable {c : Char} {word : List Char}

/-- The decimal digits of all scripts have no letter case. -/
lemma lowerRuns_avoid_decimalZeros :
    ∀ start ∈ decimalZeros, ∀ run ∈ lowerRuns, run.last < start ∨ start + 10 ≤ run.first := by
  decide +kernel

lemma lowerSequences_avoid_decimalZeros :
    ∀ start ∈ decimalZeros, ∀ sequence ∈ lowerSequences,
      sequence.1 < start ∨ start + 10 ≤ sequence.1 := by
  decide +kernel

lemma mapCase_of_isDecimal (hc : isDecimal c) : mapCase lowerRuns lowerSequences c = [c] := by
  obtain ⟨start, hstart, hrange⟩ := List.any_eq_true.1 hc
  simp only [Bool.and_eq_true, decide_eq_true_eq] at hrange
  have hsequences : lowerSequences.lookup c.toNat = none := by
    rw [List.lookup_eq_none_iff]
    intro sequence hsequence
    have := lowerSequences_avoid_decimalZeros start hstart sequence hsequence
    rw [bne_iff_ne]
    omega
  have hruns : lowerRuns.find? (·.contains c.toNat) = none := by
    rw [List.find?_eq_none]
    intro run hrun hcontains
    have := lowerRuns_avoid_decimalZeros start hstart run hrun
    simp only [CaseRun.contains, Bool.and_eq_true, decide_eq_true_eq] at hcontains
    omega
  rw [mapCase, hsequences, hruns]

lemma lowerChar_of_isWordChar (hc : isWordChar c) : lowerChar c = [c.toLower] := by
  rw [lowerChar]
  split
  · rfl
  · next hrange =>
    rcases isWordChar_iff.1 hc with (hupper | hlower) | hdecimal
    · have := isUpper_iff.1 hupper
      omega
    · have := isLower_iff.1 hlower
      omega
    · rw [mapCase_of_isDecimal hdecimal, toLower_of_isDecimal hdecimal]

/-- A word is written in small letters one character after the other. -/
lemma lower_ofList (h : ∀ c ∈ word, isWordChar c) :
    lower (String.ofList word) = String.ofList (word.map Char.toLower) := by
  have hfrom : ∀ passed, lowerFrom passed word = word.map Char.toLower := by
    induction word with
    | nil => exact fun _ => rfl
    | cons c word ih =>
      obtain ⟨hc, hword⟩ := List.forall_mem_cons.1 h
      intro passed
      have hsigma : c ≠ 'Σ' := by
        rintro rfl
        revert hc
        decide
      rw [lowerFrom, if_neg hsigma, lowerChar_of_isWordChar hc, ih hword]
      rfl
  rw [lower, onChars, lowerChars, String.toList_ofList, hfrom]

end Lower

/-! ## Words -/

/-- Every piece of a scan is a number, capitals, or small letters with a capital in front or without. -/
lemma IsScan.kinds {cs : List Char} {pieces : List (List Char)} (h : IsScan cs pieces) :
    ∀ word ∈ pieces, WordKind.number.Fits word [] ∨ WordKind.capitals.Fits word [] ∨
      WordKind.small.Fits word [] := by
  induction h with
  | done => exact fun _ h => absurd h List.not_mem_nil
  | pass _ _ ih => exact ih
  | @take kind _ word _ _ hmatch _ ih =>
    refine List.forall_mem_cons.2 ⟨?_, ih⟩
    have hfits := hmatch.fits
    cases kind with
    | acronym => exact .inr (.inl ⟨hfits.1, hfits.2.1⟩)
    | small => exact .inr (.inr hfits)
    | capitals => exact .inr (.inl hfits)
    | number => exact .inl hfits

/-- The words of a name hold all its letters and decimal digits, in order, and nothing else; each is a number,
capitals, or small letters with a capital in front or without; in snake case a name has the same words in small
letters.  They are what the pattern matches in the name. -/
theorem words_of_name (name : String) :
    String.join (words name) = String.ofList (name.toList.filter isWordChar) ∧
      (∀ word ∈ words name, WordKind.number.Fits word.toList [] ∨
        WordKind.capitals.Fits word.toList [] ∨ WordKind.small.Fits word.toList []) ∧
      words (snakeCase name) = (words name).map lower ∧
      ∀ pieces, IsScan name.toList pieces ↔ pieces = (words name).map String.toList := by
  have hpieces : (words name).map String.toList = wordsOf name.toList := by
    simp [words, Function.comp_def]
  refine ⟨?_, ?_, ?_, fun pieces => ?_⟩
  · rw [← String.toList_inj, String.toList_join, List.flatMap_def, hpieces, flatten_wordsOf, String.toList_ofList]
  · intro word hword
    refine (isScan_wordsOf name.toList).kinds word.toList ?_
    rw [← hpieces]
    exact List.mem_map_of_mem hword
  · have hfolded : wordsOf (snakeCase name).toList = foldedWords name := by
      rw [toList_snakeCase, wordsOf_intercalate fun _ => isFolded_of_mem_foldedWords]
    rw [words, hfolded, words, foldedWords, List.map_map, List.map_map]
    refine List.map_congr_left fun word hword => ?_
    exact (lower_ofList fun c hc => isWordChar_of_mem_wordsOf hword hc).symm
  · rw [hpieces, isScan_iff_eq_wordsOf]

end RestConnector.Name
