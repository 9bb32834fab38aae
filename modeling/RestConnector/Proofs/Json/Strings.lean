import Mathlib.Tactic.SplitIfs
import RestConnector.Json.Printer
import RestConnector.Json.Reader
import RestConnector.Proofs.Text.Lines

/-!
# Quoted strings

A string in quotes has printable characters of ASCII only (`isPrintable_quoteChars`), and what is read behind
its opening quote is the string (`readString_flatMap_quoteChar`).

Every character is read from its own escape (`readString_quoteChar`).  A character outside the basic plane has
two escapes, which the reader takes together.  It takes no others together, although it looks at the escape
behind each one: only the first half of a surrogate pair begins a pair, and no character is one.
-/

namespace RestConnector.Json

open RestConnector.Text

/-! ## The characters of a quoted string -/

lemma forall_mem_hexOfWidth {p : Char → Prop} (hdigit : ∀ d < 16, p (hexDigit d)) (width n : Nat) :
    ∀ c ∈ hexOfWidth width n, p c := by
  induction width generalizing n with
  | zero => exact List.forall_mem_nil _
  | succ width ih =>
    refine List.forall_mem_append.2 ⟨ih _, List.forall_mem_singleton.2 ?_⟩
    exact hdigit _ (Nat.mod_lt _ (by decide))

lemma isPrintable_unitEscape (unit : Nat) : IsPrintable (unitEscape unit) := by
  have hstart : IsPrintable ['\\', 'u'] := by decide
  exact List.forall_mem_append.2 ⟨hstart, forall_mem_hexOfWidth (by decide) 4 unit⟩

lemma isPrintable_quoteChar (c : Char) : IsPrintable (quoteChar c) := by
  unfold quoteChar
  split_ifs with h1 h2 h3 h4 h5 h6 h7 hprintable
  iterate 7
    · decide
  · exact List.forall_mem_singleton.2 hprintable
  · unfold charEscape
    split
    · exact isPrintable_unitEscape _
    · exact List.forall_mem_append.2 ⟨isPrintable_unitEscape _, isPrintable_unitEscape _⟩

/-- Whatever a string is, it is quoted in printable characters of ASCII. -/
theorem isPrintable_quoteChars (cs : List Char) : IsPrintable (quoteChars cs) := by
  have hquotes : IsPrintable ['"'] := by decide
  have hchars : IsPrintable (cs.flatMap quoteChar) :=
    List.forall_mem_flatMap.2 fun c _ => isPrintable_quoteChar c
  have hall : IsPrintable (['"'] ++ cs.flatMap quoteChar ++ ['"']) :=
    List.forall_mem_append.2 ⟨List.forall_mem_append.2 ⟨hquotes, hchars⟩, hquotes⟩
  exact hall

/-! ## Code units -/

lemma hexValue?_hexDigit : ∀ d < 16, hexValue? (hexDigit d) = some d := by decide

lemma hexQuad?_hexDigit {unit : Nat} (h : unit < 0x10000) :
    hexQuad? (hexDigit (unit / 16 / 16 / 16 % 16)) (hexDigit (unit / 16 / 16 % 16))
      (hexDigit (unit / 16 % 16)) (hexDigit (unit % 16)) = some unit := by
  simp only [hexQuad?, hexValue?_hexDigit _ (Nat.mod_lt _ (by decide : 0 < 16)),
    Option.bind_eq_bind, Option.bind_some, Option.some.injEq]
  omega

lemma unitEscape_append (unit : Nat) (rest : List Char) :
    unitEscape unit ++ rest =
      '\\' :: 'u' :: hexDigit (unit / 16 / 16 / 16 % 16) :: hexDigit (unit / 16 / 16 % 16) ::
        hexDigit (unit / 16 % 16) :: hexDigit (unit % 16) :: rest :=
  rfl

lemma toNat_lt (c : Char) : c.toNat < 0x110000 := by
  have hvalid := c.valid
  simp only [UInt32.isValidChar, Nat.isValidChar] at hvalid
  simp only [Char.toNat]
  omega

lemma not_isSurrogate (c : Char) :
    isHighSurrogate c.toNat = false ∧ isLowSurrogate c.toNat = false := by
  have hvalid := c.valid
  simp only [UInt32.isValidChar, Nat.isValidChar] at hvalid
  simp only [isHighSurrogate, isLowSurrogate, Char.toNat, Bool.and_eq_false_iff,
    decide_eq_false_iff_not]
  omega

lemma ofUnit_toNat (c : Char) : ofUnit c.toNat = c := by
  simp [ofUnit, not_isSurrogate c]

lemma ofSurrogates_of_le {c : Char} (h : 0x10000 ≤ c.toNat) :
    ofSurrogates (0xD800 + (c.toNat - 0x10000) / 0x400) (0xDC00 + (c.toNat - 0x10000) % 0x400) =
      c := by
  have hcode : 0x10000 + (0xD800 + (c.toNat - 0x10000) / 0x400 - 0xD800) * 0x400 +
      (0xDC00 + (c.toNat - 0x10000) % 0x400 - 0xDC00) = c.toNat := by omega
  rw [ofSurrogates, hcode, Char.ofNat_toNat]

/-! ## Reading -/

/-- A code unit that begins no pair is read by itself, also if another one follows. -/
lemma readString_unitEscape {unit : Nat} (h : unit < 0x10000) (hhigh : isHighSurrogate unit = false)
    (rest : List Char) :
    readString (unitEscape unit ++ rest) = pushChar (ofUnit unit) (readString rest) := by
  rw [unitEscape_append, readString, hexQuad?_hexDigit h]
  dsimp only
  split
  · rw [hhigh]
  · rfl

lemma readString_surrogates {high low : Nat} (hhigh : isHighSurrogate high) (hlow : isLowSurrogate low)
    (rest : List Char) :
    readString (unitEscape high ++ (unitEscape low ++ rest)) =
      pushChar (ofSurrogates high low) (readString rest) := by
  have hunits : high < 0x10000 ∧ low < 0x10000 := by
    simp only [isHighSurrogate, isLowSurrogate, Bool.and_eq_true, decide_eq_true_eq] at hhigh hlow
    omega
  rw [unitEscape_append, unitEscape_append, readString, hexQuad?_hexDigit hunits.1]
  simp only [hexQuad?_hexDigit hunits.2, hhigh, hlow, if_true]

lemma readString_charEscape (c : Char) (rest : List Char) :
    readString (charEscape c ++ rest) = pushChar c (readString rest) := by
  unfold charEscape
  split
  · next h => rw [readString_unitEscape h (not_isSurrogate c).1, ofUnit_toNat]
  · next h =>
    have hlt := toNat_lt c
    have hpair : isHighSurrogate (0xD800 + (c.toNat - 0x10000) / 0x400) ∧
        isLowSurrogate (0xDC00 + (c.toNat - 0x10000) % 0x400) := by
      simp only [isHighSurrogate, isLowSurrogate, Bool.and_eq_true, decide_eq_true_eq]
      omega
    rw [List.append_assoc, readString_surrogates hpair.1 hpair.2, ofSurrogates_of_le (by omega)]

lemma readString_letterEscape {letter plain : Char} (h : unescape? letter = some plain)
    (rest : List Char) :
    readString ('\\' :: letter :: rest) = pushChar plain (readString rest) := by
  have hu : letter ≠ 'u' := by
    rintro rfl
    have hnone : unescape? 'u' = none := by decide
    simp [hnone] at h
  rw [readString, h]
  intro a b c d behind hletter
  exact absurd hletter hu

lemma readString_plain {c : Char} (hc : ' ' ≤ c) (hquote : c ≠ '"') (hslash : c ≠ '\\')
    (rest : List Char) : readString (c :: rest) = pushChar c (readString rest) := by
  have hlow : ¬ c.toNat < 0x20 := Nat.not_lt.2 (toNat_le_of_le hc)
  rw [readString]
  · rw [if_neg hlow]
  all_goals simp_all

/-- A character is read back from what it is quoted as, whatever follows. -/
theorem readString_quoteChar (c : Char) (rest : List Char) :
    readString (quoteChar c ++ rest) = pushChar c (readString rest) := by
  unfold quoteChar
  split_ifs with h1 h2 h3 h4 h5 h6 h7 hprintable
  iterate 7
    · subst c
      exact readString_letterEscape rfl rest
  · exact readString_plain hprintable.1 h1 h2 rest
  · exact readString_charEscape c rest

/-- A string is read back from behind its opening quote. -/
theorem readString_flatMap_quoteChar (cs rest : List Char) :
    readString (cs.flatMap quoteChar ++ '"' :: rest) = some (cs, rest) := by
  induction cs with
  | nil => exact readString_quote rest
  | cons c cs ih =>
    rw [List.flatMap_cons, List.append_assoc, readString_quoteChar, ih]
    rfl

end RestConnector.Json
