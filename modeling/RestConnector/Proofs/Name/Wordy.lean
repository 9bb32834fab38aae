import RestConnector.Name.Fresh
import RestConnector.Proofs.Name.Pascal
import RestConnector.Proofs.Text.Lines
import RestConnector.Proofs.Text.Trim

/-!
# Characters of generated names

Names of every style, and the numbers behind them, are made of the characters of words and of underscores
(`IsWordy`).  None of these is a blank (`not_isBlank_of_isWordChar`), so that a name stays on its line
wherever it is written; and none of them is a bracket, a comma or a colon, so that what is written around a
name shows where it ends.
-/

namespace RestConnector.Name

open RestConnector.Text

/-- Whether a text has only characters of words and underscores. -/
def IsWordy (text : String) : Prop :=
  ∀ c ∈ text.toList, c = '_' ∨ isWordChar c

instance (text : String) : Decidable (IsWordy text) :=
  List.decidableBAll (fun c => c = '_' ∨ isWordChar c) text.toList

lemma isWordy_append {first second : String} :
    IsWordy (first ++ second) ↔ IsWordy first ∧ IsWordy second := by
  simp only [IsWordy, String.toList_append, List.forall_mem_append]

/-! ## Blanks -/

/-- The code points of the blanks. -/
def blankCodes : List Nat :=
  [0x09, 0x0A, 0x0B, 0x0C, 0x0D, 0x1C, 0x1D, 0x1E, 0x1F, 0x20, 0x85, 0xA0, 0x1680, 0x2000, 0x2001,
    0x2002, 0x2003, 0x2004, 0x2005, 0x2006, 0x2007, 0x2008, 0x2009, 0x200A, 0x2028, 0x2029, 0x202F,
    0x205F, 0x3000]

lemma toNat_mem_blankCodes {c : Char} (h : isBlank c) : c.toNat ∈ blankCodes := by
  simp only [isBlank, Bool.or_eq_true, Bool.and_eq_true, decide_eq_true_eq, beq_iff_eq] at h
  simp only [blankCodes, List.mem_cons, List.not_mem_nil, or_false]
  omega

lemma not_isBlank_of_isWordChar {c : Char} (h : isWordChar c) : isBlank c = false := by
  have hcodes : ∀ n ∈ blankCodes, isWordChar (Char.ofNat n) = false := by decide
  rw [Bool.eq_false_iff]
  intro hblank
  have hc := hcodes c.toNat (toNat_mem_blankCodes hblank)
  rw [Char.ofNat_toNat, h] at hc
  cases hc

lemma IsWordy.not_mem {text : String} (h : IsWordy text) {c : Char} (hc : c ≠ '_')
    (hw : isWordChar c = false) : c ∉ text.toList := by
  intro hm
  rcases h c hm with he | hword
  · exact hc he
  · rw [hw] at hword
    cases hword

lemma IsWordy.trim_eq {text : String} (h : IsWordy text) : trim text.toList = text.toList := by
  refine trimEnds_eq_self fun c hc => ?_
  rcases h c hc with rfl | hword
  · decide
  · exact not_isBlank_of_isWordChar hword

lemma IsWordy.isInline {text : String} (h : IsWordy text) : IsInline text := by
  intro c hc hblank
  rcases h c hc with rfl | hword
  · exact absurd hblank (by decide)
  · rw [not_isBlank_of_isWordChar hword] at hblank
    cases hblank

/-! ## Styles -/

lemma isWordy_snakeCase (name : String) : IsWordy (snakeCase name) := by
  intro c hc
  obtain h | ⟨d, -, hd, rfl⟩ := mem_snakeCase hc
  · exact .inl h
  · exact .inr (isWordChar_toLower hd)

lemma isWordy_pascalCase (name : String) : IsWordy (pascalCase name) := by
  intro c hc
  rw [toList_pascalCase] at hc
  exact .inr ((isPascal_pascalChars name.toList).isWordChar c hc)

lemma IsWordy.avoidKeyword {name : String} (h : IsWordy name) : IsWordy (avoidKeyword name) := by
  intro c hc
  rcases mem_avoidKeyword_iff.1 hc with hc | ⟨-, hc⟩
  · exact h c hc
  · exact .inl hc

lemma isWordy_typeName (name : String) {fallback : String} (h : IsWordy fallback) :
    IsWordy (typeName name fallback) := by
  have hpascal := isWordy_pascalCase name
  simp only [typeName]
  split
  · exact h
  · refine IsWordy.avoidKeyword ?_
    split
    · exact isWordy_append.2 ⟨h, hpascal⟩
    · exact hpascal

/-! ## Numbers -/

lemma isDecimal_of_isDigit {c : Char} (h : c.isDigit) : isDecimal c := by
  have hrange := isAsciiDigit_iff.1 h
  have hzero : 0x30 ∈ decimalZeros := by decide
  refine List.any_eq_true.2 ⟨0x30, hzero, ?_⟩
  simp only [Bool.and_eq_true, decide_eq_true_eq]
  omega

lemma isWordy_numbered {name : String} (h : IsWordy name) (k : Nat) : IsWordy (numbered name k) := by
  have hdigits : IsWordy (toString k) := by
    intro c hc
    have hdigit : c.isDigit := by
      rw [Nat.toString_eq_repr, Nat.toList_repr] at hc
      exact Nat.isDigit_of_mem_toDigits (by decide) (by decide) hc
    exact .inr (isWordChar_iff.2 (.inr (isDecimal_of_isDigit hdigit)))
  exact isWordy_append.2 ⟨isWordy_append.2 ⟨h, by decide⟩, hdigits⟩

lemma isWordy_freshName {name : String} (h : IsWordy name) (taken : List String) :
    IsWordy (freshName taken name) := by
  unfold freshName
  split
  · exact isWordy_numbered h _
  · exact h

end RestConnector.Name
