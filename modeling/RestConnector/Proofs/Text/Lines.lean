import Mathlib.Tactic.Lemma
import RestConnector.Text.Blank

/-!
# Lines of a text

A text is taken apart into its lines at the line feeds (`linesOf`).  There are other characters that some
readers of a text take for the end of a line, but every one of them is a blank.  So a piece of text stays on
its line, for every reader, if it has no other blanks than spaces (`IsInline`); and lines that are put
together from such pieces are the lines of the text that they make up (`linesOf_unlines`), which has no other
blanks than spaces and line feeds (`isPlain_unlines`).

What a line begins with is told by the first piece of it, as soon as this is different
(`startsWith_append_of_ne`).
-/

namespace RestConnector.Text

/-! ## Beginnings -/

lemma startsWith_iff {start text : String} :
    startsWith start text ↔ start.toList <+: text.toList := by
  rw [startsWith, List.isPrefixOf_iff_prefix]

@[simp] lemma startsWith_append_append (front start text : String) :
    startsWith (front ++ start) (front ++ text) = startsWith start text := by
  rw [Bool.eq_iff_iff, startsWith_iff, startsWith_iff, String.toList_append, String.toList_append,
    List.prefix_append_right_inj]

lemma startsWith_append {start text : String} (h : startsWith start text) (more : String) :
    startsWith start (text ++ more) := by
  rw [startsWith_iff] at h ⊢
  rw [String.toList_append]
  exact h.trans (List.prefix_append _ _)

lemma startsWith_trans {first second third : String} (h : startsWith first second)
    (hs : startsWith second third) : startsWith first third :=
  startsWith_iff.2 ((startsWith_iff.1 h).trans (startsWith_iff.1 hs))

lemma startsWith_self (text : String) : startsWith text text :=
  startsWith_iff.2 List.prefix_rfl

/-- If of two texts neither is the beginning of the other, none begins with both of them. -/
lemma startsWith_append_of_ne {start text : String}
    (h : startsWith start text = false ∧ startsWith text start = false) (more : String) :
    startsWith start (text ++ more) = false := by
  rw [← Bool.not_eq_true, startsWith_iff, String.toList_append]
  intro hm
  rcases List.prefix_or_prefix_of_prefix hm (List.prefix_append text.toList more.toList) with hp | hp
  · exact absurd (startsWith_iff.2 hp) (by simp [h.1])
  · exact absurd (startsWith_iff.2 hp) (by simp [h.2])

/-! ## Pieces of a line -/

/-- What is said of all characters of a text is decided on these alone. -/
instance decidableForallMem (cs : List Char) (p : Char → Prop) [DecidablePred p] :
    Decidable (∀ c ∈ cs, p c) :=
  -- It stands in front of the instance that runs over all characters that there are.
  List.decidableBAll p cs

/-- Whether a text has no other blanks than spaces. -/
def IsInline (text : String) : Prop :=
  ∀ c ∈ text.toList, isBlank c → c = ' '

instance (text : String) : Decidable (IsInline text) :=
  inferInstanceAs (Decidable (∀ c ∈ text.toList, isBlank c → c = ' '))

@[simp] lemma isInline_append {first second : String} :
    IsInline (first ++ second) ↔ IsInline first ∧ IsInline second := by
  simp only [IsInline, String.toList_append, List.forall_mem_append]

lemma IsInline.no_lineFeed {text : String} (h : IsInline text) : '\n' ∉ text.toList :=
  fun hm => absurd (h '\n' hm (by decide)) (by decide)

lemma isInline_commaList {names : List String} (h : ∀ name ∈ names, IsInline name) :
    IsInline (commaList names) := by
  unfold commaList
  induction names with
  | nil => decide
  | cons name rest ih =>
    obtain ⟨hname, hrest⟩ := List.forall_mem_cons.1 h
    cases rest with
    | nil => simpa using hname
    | cons next rest =>
      rw [String.intercalate_cons_cons, isInline_append, isInline_append]
      exact ⟨⟨hname, by decide⟩, ih hrest⟩

lemma toNat_le_of_le {c d : Char} (h : c ≤ d) : c.toNat ≤ d.toNat :=
  UInt32.le_iff_toNat_le.1 (Char.le_def.1 h)

/-- Whether all characters are printable ones of ASCII. -/
def IsPrintable (cs : List Char) : Prop :=
  ∀ c ∈ cs, ' ' ≤ c ∧ c ≤ '~'

instance (cs : List Char) : Decidable (IsPrintable cs) :=
  inferInstanceAs (Decidable (∀ c ∈ cs, ' ' ≤ c ∧ c ≤ '~'))

/-- Among the printable characters of ASCII, the space is the only blank. -/
lemma IsPrintable.isInline {text : String} (h : IsPrintable text.toList) : IsInline text := by
  intro c hc hblank
  have hlow : ' '.toNat ≤ c.toNat := toNat_le_of_le (h c hc).1
  have hhigh : c.toNat ≤ '~'.toNat := toNat_le_of_le (h c hc).2
  have hspace : ' '.toNat = 0x20 := rfl
  have htilde : '~'.toNat = 0x7E := rfl
  have hcode : c.toNat = ' '.toNat := by
    simp only [isBlank, Bool.or_eq_true, Bool.and_eq_true, decide_eq_true_eq, beq_iff_eq] at hblank
    omega
  rw [← Char.ofNat_toNat c, hcode]
  rfl

/-- Whether all characters of a text are in ASCII. -/
def IsAsciiText (text : String) : Prop :=
  ∀ c ∈ text.toList, c.toNat < 0x80

instance (text : String) : Decidable (IsAsciiText text) :=
  inferInstanceAs (Decidable (∀ c ∈ text.toList, c.toNat < 0x80))

@[simp] lemma isAsciiText_append {first second : String} :
    IsAsciiText (first ++ second) ↔ IsAsciiText first ∧ IsAsciiText second := by
  simp only [IsAsciiText, String.toList_append, List.forall_mem_append]

lemma IsPrintable.isAsciiText {text : String} (h : IsPrintable text.toList) : IsAsciiText text := by
  intro c hc
  have hhigh : c.toNat ≤ '~'.toNat := toNat_le_of_le (h c hc).2
  exact Nat.lt_of_le_of_lt hhigh (by decide)

/-! ## Lines -/

/-- The lines of a text. A line feed ends a line, and what stands behind the last one is a line unless it is
empty. -/
def linesOf (text : String) : List String :=
  let pieces := text.toList.splitOn '\n'
  (if pieces.getLast? = some [] then pieces.dropLast else pieces).map String.ofList

/-- Whether a text has no other blanks than spaces and line feeds. -/
def IsPlain (text : String) : Prop :=
  ∀ c ∈ text.toList, isBlank c → c = ' ' ∨ c = '\n'

/-- A line feed behind the last line is one in front of an empty piece. -/
lemma toList_unlines {lines : List String} (h : lines ≠ []) :
    (unlines lines).toList = ['\n'].intercalate (lines.map String.toList ++ [[]]) := by
  rw [unlines, String.toList_append, String.toList_intercalate]
  induction lines with
  | nil => exact absurd rfl h
  | cons line rest ih =>
    cases rest with
    | nil => simp [List.intercalate_cons_cons]
    | cons next rest =>
      have hrest := ih (List.cons_ne_nil _ _)
      simp only [List.map_cons, List.cons_append, List.intercalate_cons_cons, List.append_assoc]
        at hrest ⊢
      rw [hrest]
      rfl

/-- Lines are told apart again. -/
theorem linesOf_unlines {lines : List String} (hne : lines ≠ []) (h : ∀ line ∈ lines, IsInline line) :
    linesOf (unlines lines) = lines := by
  have hpieces : (unlines lines).toList.splitOn '\n' = lines.map String.toList ++ [[]] := by
    rw [toList_unlines hne]
    refine List.splitOn_intercalate '\n' ?_ (by simp)
    simp only [List.forall_mem_append, List.forall_mem_map, List.forall_mem_singleton]
    exact ⟨fun line hline => (h line hline).no_lineFeed, List.not_mem_nil⟩
  simp [linesOf, hpieces, Function.comp_def]

lemma isPlain_append {first second : String} :
    IsPlain (first ++ second) ↔ IsPlain first ∧ IsPlain second := by
  simp only [IsPlain, String.toList_append, List.forall_mem_append]

lemma isPlain_unlines {lines : List String} (h : ∀ line ∈ lines, IsInline line) :
    IsPlain (unlines lines) := by
  have hfeed : IsPlain "\n" := fun c hc _ => .inr (by simpa using hc)
  refine isPlain_append.2 ⟨?_, hfeed⟩
  induction lines with
  | nil => exact fun c hc => absurd hc (by simp)
  | cons line rest ih =>
    obtain ⟨hline, hrest⟩ := List.forall_mem_cons.1 h
    have hplain : IsPlain line := fun c hc hb => .inl (hline c hc hb)
    cases rest with
    | nil => simpa using hplain
    | cons next rest =>
      rw [String.intercalate_cons_cons, isPlain_append, isPlain_append]
      exact ⟨⟨hplain, hfeed⟩, ih hrest⟩

end RestConnector.Text
