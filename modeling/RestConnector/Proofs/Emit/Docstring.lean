import RestConnector.Proofs.Emit.Lines
import RestConnector.Proofs.Literal.Reader

/-!
# What docstrings say

A text in three quotes ends at the next three quotes that no backslash takes away, and it may hold quotes and
line feeds of its own (`readTripled`).  A docstring is such a text.  Whatever is described in it, it is closed
by its last three characters and by no others, and what is read in it is the description with one space for
every run of blanks and none at its ends (`docLine_denotes`).

Each character of the description is read by itself, whatever follows (`readTripled_docChar`).  The two that
could end the text or hide its end have a backslash in front, so that no three quotes stand together and no
backslash is left over for the closing ones.  Only two other characters could not stand in the file that the
docstring is read from: a carriage return is a blank and becomes a space; a null character has to be excluded.
-/

namespace RestConnector.Literal

/-! ## The reader -/

/-- Puts a code point in front of what has been read. -/
def emitCode (n : Nat) (read : Option (List Nat × List Char)) : Option (List Nat × List Char) :=
  read.map fun (codes, rest) => (n :: codes, rest)

/-- Reads a text in three quotes behind those that open it, up to those that close it: the code points that it
denotes, and what stands behind it.  A carriage return would be read as a line feed, and a null character makes
a file unreadable, so both are refused here, as are escapes that generated literals do not use. -/
def readTripled : List Char → Option (List Nat × List Char)
  | [] => none
  | '"' :: '"' :: '"' :: rest => some ([], rest)
  | '\\' :: c :: cs =>
    match escapes.lookup c with
    | some n => emitCode n (readTripled cs)
    | none => none
  | c :: cs =>
    if c = '\\' ∨ c = '\r' ∨ c = '\x00' then none else emitCode c.toNat (readTripled cs)

/-- The code points of a literal in three quotes, which must be all of the text. -/
def tripled? (text : String) : Option (List Nat) :=
  match text.toList with
  | '"' :: '"' :: '"' :: cs =>
    match readTripled cs with
    | some (codes, []) => some codes
    | _ => none
  | _ => none

end RestConnector.Literal

namespace RestConnector.Emit

open RestConnector.Literal RestConnector.Text

/-! ## Lines -/

/-- The characters that one reader of text or another takes for the end of a line. -/
def lineEnds : List Char :=
  ['\n', '\x0b', '\x0c', '\r', '\x1c', '\x1d', '\x1e', '\u0085', '\u2028', '\u2029']

/-- Whether a text is on one line, for every reader. -/
def IsOneLine (text : String) : Prop :=
  ∀ c ∈ text.toList, c ∉ lineEnds

lemma isOneLine_append {first second : String} :
    IsOneLine (first ++ second) ↔ IsOneLine first ∧ IsOneLine second := by
  simp only [IsOneLine, String.toList_append, List.forall_mem_append]

/-- Every end of a line is a blank, and none is a space. -/
lemma isOneLine_of_isInline {text : String} (h : IsInline text) : IsOneLine text := by
  have hblank : ∀ c ∈ lineEnds, isBlank c ∧ c ≠ ' ' := by decide
  intro c hc hend
  obtain ⟨hb, hne⟩ := hblank c hend
  exact hne (h c hc hb)

/-! ## Descriptions -/

/-- A character of a description is read by itself. -/
lemma readTripled_docChar {c : Char} (hreturn : c ≠ '\r') (hnull : c ≠ '\x00') (rest : List Char) :
    readTripled (docChar c ++ rest) = emitCode c.toNat (readTripled rest) := by
  unfold docChar
  split_ifs with hbackslash hquote
  · subst hbackslash
    rfl
  · subst hquote
    rfl
  · rw [List.singleton_append, readTripled]
    · rw [if_neg (by simp [hbackslash, hreturn, hnull])]
    all_goals simp_all

lemma readTripled_flatMap_docChar {cs : List Char} (h : ∀ c ∈ cs, c ≠ '\r' ∧ c ≠ '\x00') :
    readTripled (cs.flatMap docChar ++ docQuotes.toList) = some (cs.map Char.toNat, []) := by
  induction cs with
  | nil => rfl
  | cons c cs ih =>
    obtain ⟨⟨hreturn, hnull⟩, hcs⟩ := List.forall_mem_cons.1 h
    rw [List.flatMap_cons, List.append_assoc, readTripled_docChar hreturn hnull, ih hcs]
    rfl

/-- A docstring adds no line to its indentation.  Behind that it is one text in three quotes, which is closed at
its end only and denotes the description with its runs of blanks made single spaces and its ends trimmed. -/
theorem docLine_denotes {text : String} (h : '\x00' ∉ text.toList) (indent : String) :
    docLine indent text = indent ++ docLine "" text ∧
      (IsOneLine (docLine indent text) ↔ IsOneLine indent) ∧
      IsOneLine (docLine "" text) ∧
      tripled? (docLine "" text) = some ((trim (squeeze text.toList)).map Char.toNat) := by
  have hindented : docLine indent text = indent ++ docLine "" text := by
    simp only [docLine, String.empty_append, String.append_assoc]
  have hline : IsOneLine (docLine "" text) := isOneLine_of_isInline (isInline_docLine (by decide) text)
  refine ⟨hindented, ?_, hline, ?_⟩
  · rw [hindented, isOneLine_append, and_iff_left hline]
  · have hchars : ∀ c ∈ collapse text.toList, c ≠ '\r' ∧ c ≠ '\x00' := by
      intro c hc
      rcases mem_collapse hc with rfl | ⟨hm, hblank⟩
      · decide
      · refine ⟨?_, fun hnull => h (hnull ▸ hm)⟩
        rintro rfl
        exact absurd hblank (by decide)
    have hread := readTripled_flatMap_docChar hchars
    have hlist : (docLine "" text).toList =
        '"' :: '"' :: '"' :: ((collapse text.toList).flatMap docChar ++ docQuotes.toList) := by
      simp only [docLine, String.empty_append, String.toList_append, toList_onChars, List.append_assoc]
      rfl
    rw [← collapse_eq_trim_squeeze]
    simp only [tripled?, hlist, hread]

/-- Three quotes and a backslash at the end do not close a docstring, and line feeds do not break it. -/
theorem docLine_denotes_quotes :
    '\x00' ∉ "\n\"\"\"\u2028\r\\".toList ∧
      docLine "\t" "\n\"\"\"\u2028\r\\" = "\t" ++ docLine "" "\n\"\"\"\u2028\r\\" ∧
      IsOneLine (docLine "\t" "\n\"\"\"\u2028\r\\") ∧
      tripled? (docLine "" "\n\"\"\"\u2028\r\\") = some [34, 34, 34, 32, 92] := by
  have hnull : '\x00' ∉ "\n\"\"\"\u2028\r\\".toList := by decide
  have htab : IsOneLine "\t" := by unfold IsOneLine; decide
  obtain ⟨hindented, hline, -, hread⟩ := docLine_denotes hnull "\t"
  exact ⟨hnull, hindented, hline.2 htab, hread⟩

end RestConnector.Emit
