import RestConnector.Proofs.Name.Words
import RestConnector.Proofs.Text.Trim

/-!
# Collapsed blanks

A text is collapsed by putting its chunks together again with single spaces.  This is the same as to write one
space for every run of blanks in it (`squeeze`) and to trim the ends (`collapse_eq_trim_squeeze`).

The chunks are found from the left, and a chunk ends where a blank stands behind it.  So the induction that
compares the two trims the end only (`trimRight_squeeze`): what begins with blanks then keeps a space in front,
provided that a chunk comes behind them (`lead`).
-/

namespace RestConnector.Text

variable {drops : Char → Bool} {c : Char} {cs : List Char}

/-! ## The end of a text -/

lemma trimRight_cons (drops : Char → Bool) (c : Char) (cs : List Char) :
    trimRight drops (c :: cs) =
      if trimRight drops cs = [] ∧ drops c then [] else c :: trimRight drops cs := by
  rw [trimRight, trimRight, List.reverse_cons, List.dropWhile_append]
  cases hrest : cs.reverse.dropWhile drops with
  | nil => by_cases hc : drops c <;> simp [hc]
  | cons d rest => simp

/-! ## Chunks -/

/-- Chunks have all the characters of a text but the blanks. -/
theorem flatten_chunks (cs : List Char) : (chunks cs).flatten = cs.filter fun c => !isBlank c := by
  induction cs with
  | nil => rfl
  | cons c cs ih =>
    by_cases hc : isBlank c
    · simp [chunks, hc, ih]
    · cases cs with
      | nil => simp [chunks, hc]
      | cons d rest => by_cases hd : isBlank d <;> simp_all [chunks]

lemma mem_collapse (h : c ∈ collapse cs) : c = ' ' ∨ c ∈ cs ∧ isBlank c = false := by
  rcases Name.mem_intercalate h with hspace | hchunk
  · exact .inl hspace
  · rw [flatten_chunks, List.mem_filter] at hchunk
    exact .inr ⟨hchunk.1, by simpa using hchunk.2⟩

/-- What is left of the blanks of a text are single spaces. -/
lemma eq_space_of_mem_collapse (h : c ∈ collapse cs) (hb : isBlank c) : c = ' ' := by
  rcases mem_collapse h with hspace | ⟨-, hblank⟩
  · exact hspace
  · rw [hb] at hblank
    cases hblank

/-- Whether a text begins with a blank. -/
def startsBlank (cs : List Char) : Bool :=
  cs.head?.any isBlank

lemma chunks_of_blank (hc : isBlank c) (cs : List Char) : chunks (c :: cs) = chunks cs := by
  simp [chunks, hc]

lemma chunks_of_startsBlank (hc : ¬ isBlank c) (h : startsBlank cs) :
    chunks (c :: cs) = [c] :: chunks cs := by
  cases cs with
  | nil => cases h
  | cons d rest =>
    have hd : isBlank d := by simpa [startsBlank] using h
    simp [chunks, hc, hd]

lemma chunks_of_not_startsBlank (hc : ¬ isBlank c) (h : startsBlank cs = false) :
    chunks (c :: cs) = attach c (chunks cs) := by
  cases cs with
  | nil => simp [chunks, hc, attach]
  | cons d rest =>
    have hd : ¬ isBlank d := by simpa [startsBlank] using h
    simp [chunks, hc, hd]

lemma intercalate_attach (separator c : Char) (pieces : List (List Char)) :
    [separator].intercalate (attach c pieces) = c :: [separator].intercalate pieces := by
  rcases pieces with _ | ⟨first, _ | ⟨second, rest⟩⟩
  · rfl
  · simp [attach]
  · simp only [attach, List.intercalate_cons_cons, List.cons_append]

/-- The space in front of the chunks of a text that begins with blanks. -/
def lead (cs : List Char) : List Char :=
  if startsBlank cs ∧ chunks cs ≠ [] then [' '] else []

lemma lead_of_not_startsBlank (h : startsBlank cs = false) : lead cs = [] := by
  simp [lead, h]

lemma collapse_of_blank (hc : isBlank c) (cs : List Char) : collapse (c :: cs) = collapse cs := by
  rw [collapse, chunks_of_blank hc, collapse]

lemma collapse_of_not_blank (hc : ¬ isBlank c) (cs : List Char) :
    collapse (c :: cs) = c :: (lead cs ++ collapse cs) := by
  by_cases hstart : startsBlank cs
  · rw [collapse, chunks_of_startsBlank hc hstart, lead, collapse]
    cases chunks cs with
    | nil => simp
    | cons chunk rest => simp [hstart, List.intercalate_cons_cons]
  · have hnot : startsBlank cs = false := Bool.eq_false_iff.2 hstart
    rw [collapse, chunks_of_not_startsBlank hc hnot, intercalate_attach, lead_of_not_startsBlank hnot,
      List.nil_append, collapse]

lemma collapse_eq_nil_iff (cs : List Char) : collapse cs = [] ↔ chunks cs = [] := by
  refine ⟨fun h => ?_, fun h => by rw [collapse, h]; rfl⟩
  induction cs with
  | nil => rfl
  | cons c cs ih =>
    by_cases hc : isBlank c
    · rw [chunks_of_blank hc]
      exact ih (by rwa [collapse_of_blank hc] at h)
    · rw [collapse_of_not_blank hc] at h
      cases h

/-! ## Runs of blanks -/

/-- A text with one space for every run of blanks. -/
def squeeze : List Char → List Char
  | [] => []
  | c :: cs =>
    if isBlank c then if startsBlank cs then squeeze cs else ' ' :: squeeze cs
    else c :: squeeze cs

/-- Trimmed at its end, a squeezed text consists of its chunks with single spaces between them. -/
lemma trimRight_squeeze (cs : List Char) : trimRight isBlank (squeeze cs) = lead cs ++ collapse cs := by
  have hspace : isBlank ' ' := by decide
  induction cs with
  | nil => rfl
  | cons c cs ih =>
    by_cases hc : isBlank c
    · have hstart : startsBlank (c :: cs) := by simpa [startsBlank] using hc
      rw [squeeze, if_pos hc, collapse_of_blank hc, lead, chunks_of_blank hc]
      by_cases hcs : startsBlank cs
      · rw [if_pos hcs, ih, lead]
        simp [hstart, hcs]
      · have hnot : startsBlank cs = false := Bool.eq_false_iff.2 hcs
        rw [if_neg hcs, trimRight_cons, ih, lead_of_not_startsBlank hnot, List.nil_append]
        by_cases hchunks : chunks cs = []
        · have hempty := (collapse_eq_nil_iff cs).2 hchunks
          simp [hempty, hspace, hchunks]
        · have hsome := (collapse_eq_nil_iff cs).not.2 hchunks
          simp [hsome, hstart, hchunks]
    · have hnot : startsBlank (c :: cs) = false := by simpa [startsBlank] using hc
      rw [squeeze, if_neg hc, trimRight_cons, if_neg fun h => hc h.2, ih, collapse_of_not_blank hc,
        lead_of_not_startsBlank hnot, List.nil_append]

lemma dropWhile_squeeze (cs : List Char) :
    (squeeze cs).dropWhile isBlank = squeeze (cs.dropWhile isBlank) := by
  have hspace : isBlank ' ' := by decide
  induction cs with
  | nil => rfl
  | cons c cs ih =>
    by_cases hc : isBlank c
    · rw [squeeze, if_pos hc, List.dropWhile_cons_of_pos hc]
      split
      · exact ih
      · rw [List.dropWhile_cons_of_pos hspace, ih]
    · rw [squeeze, if_neg hc, List.dropWhile_cons_of_neg hc, List.dropWhile_cons_of_neg hc, squeeze,
        if_neg hc]

lemma collapse_dropWhile (cs : List Char) : collapse (cs.dropWhile isBlank) = collapse cs := by
  induction cs with
  | nil => rfl
  | cons c cs ih =>
    by_cases hc : isBlank c
    · rw [List.dropWhile_cons_of_pos hc, ih, collapse_of_blank hc]
    · rw [List.dropWhile_cons_of_neg hc]

lemma startsBlank_dropWhile (cs : List Char) : startsBlank (cs.dropWhile isBlank) = false := by
  have hhead := List.head?_dropWhile_not isBlank cs
  rw [startsBlank]
  cases h : (cs.dropWhile isBlank).head? with
  | none => rfl
  | some c =>
    rw [h] at hhead
    exact hhead

/-- To collapse a text is to write one space for every run of blanks and to trim the ends. -/
theorem collapse_eq_trim_squeeze (cs : List Char) : collapse cs = trim (squeeze cs) := by
  rw [trim, trimEnds, dropWhile_squeeze, trimRight_squeeze,
    lead_of_not_startsBlank (startsBlank_dropWhile cs), List.nil_append, collapse_dropWhile]

end RestConnector.Text
