import Mathlib.Tactic.Lemma
import Mathlib.Tactic.SplitIfs
import RestConnector.Json.Reader

/-!
# Printed integers

An integer is printed without superfluous zeros, so all of its digits are read, and read as one number, as
long as something that cannot belong to a number stands behind them (`EndsValue`).  The reader refuses an
integer of more than `decimalLimit` digits; up to there, it reads the number that was printed
(`readNumber_toString`).
-/

namespace RestConnector.Json

open RestConnector.Text

/-- What may stand behind a value in a printed document: nothing, the comma in front of the next value, or the
end of the line. -/
def EndsValue (rest : List Char) : Prop :=
  ∀ c ∈ rest.head?, c = ',' ∨ c = '\n'

lemma endsValue_nil : EndsValue [] := nofun

lemma endsValue_comma (rest : List Char) : EndsValue (',' :: rest) := by
  rintro c ⟨⟩
  exact .inl rfl

lemma endsValue_lineFeed (rest : List Char) : EndsValue ('\n' :: rest) := by
  rintro c ⟨⟩
  exact .inr rfl

/-- Whether an integer has no more digits than are read in one number. -/
def IsShort (n : Int) : Prop := (Nat.toDigits 10 n.natAbs).length ≤ decimalLimit

instance (n : Int) : Decidable (IsShort n) := inferInstanceAs (Decidable (_ ≤ _))

/-! ## Digits -/

lemma toList_toString (n : Int) :
    (toString n).toList = (if n < 0 then ['-'] else []) ++ Nat.toDigits 10 n.natAbs := by
  cases n with
  | ofNat m =>
    have hpos : ¬ Int.ofNat m < 0 := Int.not_lt.2 (Int.natCast_nonneg m)
    rw [if_neg hpos, List.nil_append]
    exact Nat.toList_repr
  | negSucc m =>
    rw [if_pos (Int.negSucc_lt_zero m), Int.toString_eq_repr, Int.repr, String.toList_append,
      Nat.toList_repr]
    rfl

/-- The first digit of a number is zero only if the number is. -/
lemma exists_cons_toDigits (n : Nat) :
    ∃ d ds, Nat.toDigits 10 n = d :: ds ∧ d.isDigit ∧ (d = '0' → n = 0) := by
  induction n using Nat.strongRecOn with
  | ind n ih =>
    rw [Nat.toDigits_eq_if (by decide)]
    split
    · next hlt =>
      have hdigit : ∀ d < 10, d.digitChar.isDigit ∧ (d.digitChar = '0' → d = 0) := by decide
      exact ⟨n.digitChar, [], rfl, hdigit n hlt⟩
    · next hge =>
      obtain ⟨d, ds, htens, hd, hzero⟩ := ih (n / 10) (by omega)
      refine ⟨d, ds ++ [(n % 10).digitChar], by rw [htens, List.cons_append], hd, fun h => ?_⟩
      have htenth := hzero h
      omega

lemma valueOfDigits_toDigits (n : Nat) : valueOfDigits (Nat.toDigits 10 n) = n := by
  have hfold : valueOfDigits (Nat.toDigits 10 n) = Nat.ofDigitChars 10 (Nat.toDigits 10 n) 0 := by
    simp only [valueOfDigits, ofDigits, Nat.ofDigitChars, List.foldl_map, Nat.mul_comm 10]
    rfl
  rw [hfold, Nat.ofDigitChars_toDigits (by decide) (by decide)]

lemma isDigit_toDigits (n : Nat) : ∀ c ∈ Nat.toDigits 10 n, c.isDigit := fun _ hc =>
  Nat.isDigit_of_mem_toDigits (by decide) (by decide) hc

/-! ## Reading -/

lemma spanDigits_append {digits rest : List Char} (hdigits : ∀ c ∈ digits, c.isDigit)
    (hrest : EndsValue rest) : spanDigits (digits ++ rest) = (digits, rest) := by
  have hbehind : rest.takeWhile Char.isDigit = [] ∧ rest.dropWhile Char.isDigit = rest := by
    cases rest with
    | nil => exact ⟨rfl, rfl⟩
    | cons c rest =>
      have hc : ¬ c.isDigit := by rcases hrest c rfl with rfl | rfl <;> decide
      simp [hc]
  rw [spanDigits, List.takeWhile_append_of_pos hdigits, List.dropWhile_append_of_pos hdigits,
    hbehind.1, hbehind.2, List.append_nil]

lemma readWhole_toDigits (n : Nat) {rest : List Char} (hrest : EndsValue rest) :
    readWhole (Nat.toDigits 10 n ++ rest) = some (Nat.toDigits 10 n, rest) := by
  have hspan := spanDigits_append (isDigit_toDigits n) hrest
  obtain ⟨d, ds, hdigits, -, hzero⟩ := exists_cons_toDigits n
  by_cases hd : d = '0'
  · obtain rfl := hzero hd
    rfl
  · rw [hdigits, List.cons_append] at hspan ⊢
    rw [readWhole, hspan]
    exact fun more h => hd (List.cons.inj h).1

lemma readFraction_of_endsValue {rest : List Char} (hrest : EndsValue rest) :
    readFraction rest = ([], rest) := by
  cases rest with
  | nil => rfl
  | cons c rest => rcases hrest c rfl with rfl | rfl <;> rfl

lemma readExponent_of_endsValue {rest : List Char} (hrest : EndsValue rest) :
    readExponent rest = ([], rest) := by
  cases rest with
  | nil => rfl
  | cons c rest => rcases hrest c rfl with rfl | rfl <;> rfl

lemma readUnsigned_toDigits (negative : Bool) {n : Nat}
    (hn : (Nat.toDigits 10 n).length ≤ decimalLimit) {rest : List Char} (hrest : EndsValue rest) :
    readUnsigned negative (Nat.toDigits 10 n ++ rest) =
      some (.integer (if negative then -(n : Int) else n), rest) := by
  simp only [readUnsigned, readWhole_toDigits n hrest, readFraction_of_endsValue hrest,
    readExponent_of_endsValue hrest, Option.bind_eq_bind, Option.bind_some, List.isEmpty_nil,
    Bool.and_self, if_true, if_neg (Nat.not_lt.2 hn), valueOfDigits_toDigits]

lemma readNumber_of_isDigit {c : Char} (hc : c.isDigit) (cs : List Char) :
    readNumber (c :: cs) = readUnsigned false (c :: cs) := by
  rw [readNumber]
  rintro cs' ⟨⟩
  exact absurd hc (by decide)

/-- A printed integer is read back. -/
theorem readNumber_toString {n : Int} (hn : IsShort n) {rest : List Char} (hrest : EndsValue rest) :
    readNumber ((toString n).toList ++ rest) = some (.integer n, rest) := by
  rw [toList_toString]
  split
  · next hneg =>
    have hvalue : -(n.natAbs : Int) = n := by omega
    rw [List.append_assoc, List.singleton_append, readNumber, readUnsigned_toDigits true hn hrest,
      if_pos rfl, hvalue]
  · next hpos =>
    have hvalue : (n.natAbs : Int) = n := by omega
    obtain ⟨d, ds, hdigits, hd, -⟩ := exists_cons_toDigits n.natAbs
    have hread := readUnsigned_toDigits false hn hrest
    rw [hdigits, List.cons_append] at hread
    rw [List.nil_append, hdigits, List.cons_append, readNumber_of_isDigit hd, hread, if_neg nofun,
      hvalue]

/-- A printed integer begins with a digit or with a sign. -/
lemma exists_cons_toString (n : Int) :
    ∃ c cs, (toString n).toList = c :: cs ∧ (c.isDigit ∨ c = '-') := by
  rw [toList_toString]
  split
  · exact ⟨'-', _, rfl, .inr rfl⟩
  · obtain ⟨d, ds, hdigits, hd, -⟩ := exists_cons_toDigits n.natAbs
    exact ⟨d, ds, hdigits, .inl hd⟩

/-! ## Words -/

/-- No word begins with a digit, nor with a sign and a digit. -/
lemma readWord_of_isDigit {c : Char} (hc : c.isDigit) (cs : List Char) :
    readWord (c :: cs) = none ∧ readWord ('-' :: c :: cs) = none := by
  have hne : ∀ d : Char, d.isDigit = false → (d == c) = false := by
    rintro d hd
    exact beq_false_of_ne fun h => by simp [h, hc] at hd
  constructor <;> simp [readWord, words, List.isPrefixOf, hne]

lemma readWord_toString (n : Int) (rest : List Char) :
    readWord ((toString n).toList ++ rest) = none := by
  rw [toList_toString]
  obtain ⟨d, ds, hdigits, hd, -⟩ := exists_cons_toDigits n.natAbs
  rw [hdigits]
  split
  · exact (readWord_of_isDigit hd (ds ++ rest)).2
  · exact (readWord_of_isDigit hd (ds ++ rest)).1

end RestConnector.Json
