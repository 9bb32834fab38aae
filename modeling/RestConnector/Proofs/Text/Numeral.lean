import RestConnector.Proofs.Name.Wordy
import RestConnector.Text.Integer

/-!
# Numerals

An integer in base 16 is read from more texts than hexadecimal digits: its digits may be of any script and
have single underscores between them (`DigitRun`), and in front of them there may be blanks, a sign and a
mark, behind them blanks again (`IsNumeral`).  These texts, and no others, are read
(`exists_readInteger_iff`).

Nothing that may stand around the digits can be taken for one of them, so that the parts of a numeral are
found where they are.
-/

namespace RestConnector.Text

open RestConnector.Name

variable {radix : Radix} {c : Char} {cs run rest : List Char}

/-! ## Digits -/

lemma isWordChar_of_hexValue? (h : (hexValue? c).isSome) : isWordChar c := by
  unfold hexValue? at h
  split_ifs at h with hdigit hsmall hcapital
  · have hascii : c.isDigit :=
      isAsciiDigit_iff.2 ⟨toNat_le_of_le hdigit.1, toNat_le_of_le hdigit.2⟩
    exact isWordChar_iff.2 (.inr (isDecimal_of_isDigit hascii))
  · have hlower : c.isLower :=
      isLower_iff.2 ⟨toNat_le_of_le hsmall.1, (toNat_le_of_le hsmall.2).trans (by decide)⟩
    exact isWordChar_iff.2 (.inl (.inr hlower))
  · have hupper : c.isUpper :=
      isUpper_iff.2 ⟨toNat_le_of_le hcapital.1, (toNat_le_of_le hcapital.2).trans (by decide)⟩
    exact isWordChar_iff.2 (.inl (.inl hupper))
  · cases h

lemma isWordChar_of_decimalValue? (h : (decimalValue? c).isSome) : isWordChar c := by
  rw [decimalValue?, Option.isSome_map, List.isSome_find?] at h
  exact isWordChar_iff.2 (.inr h)

/-- Digits are characters of words. -/
lemma isWordChar_of_digit? (h : (radix.digit? c).isSome) : isWordChar c := by
  cases radix with
  | decimal => exact isWordChar_of_decimalValue? h
  | hexadecimal =>
    rw [Radix.digit?, Option.isSome_or, Bool.or_eq_true] at h
    exact h.elim isWordChar_of_decimalValue? isWordChar_of_hexValue?

lemma not_isNumberBlank_of_isWordChar (h : isWordChar c) : ¬ isNumberBlank c := by
  rw [isNumberBlank, not_isBlank_of_isWordChar h, Bool.false_and]
  exact Bool.false_ne_true

lemma ne_of_digit? (h : (radix.digit? c).isSome) {d : Char} (hd : isWordChar d = false) : c ≠ d := by
  rintro rfl
  rw [isWordChar_of_digit? h] at hd
  cases hd

/-- Digits of a base, with single underscores between some of them. -/
inductive DigitRun (radix : Radix) : List Char → Prop
  | one {c : Char} (h : (radix.digit? c).isSome) : DigitRun radix [c]
  | next {c : Char} {run : List Char} (h : (radix.digit? c).isSome) (hrun : DigitRun radix run) :
      DigitRun radix (c :: run)
  | grouped {c : Char} {run : List Char} (h : (radix.digit? c).isSome) (hrun : DigitRun radix run) :
      DigitRun radix (c :: '_' :: run)

lemma DigitRun.exists_cons (h : DigitRun radix run) :
    ∃ c tail, run = c :: tail ∧ (radix.digit? c).isSome := by
  cases h with
  | one h => exact ⟨_, _, rfl, h⟩
  | next h => exact ⟨_, _, rfl, h⟩
  | grouped h => exact ⟨_, _, rfl, h⟩

lemma DigitRun.mem (h : DigitRun radix run) : ∀ c ∈ run, c = '_' ∨ (radix.digit? c).isSome := by
  induction h with
  | one h => simpa using .inr h
  | next h _ ih => exact List.forall_mem_cons.2 ⟨.inr h, ih⟩
  | grouped h _ ih => exact List.forall_mem_cons.2 ⟨.inr h, List.forall_mem_cons.2 ⟨.inl rfl, ih⟩⟩

lemma digitRun_of_forall (hne : run ≠ []) (h : ∀ c ∈ run, (radix.digit? c).isSome) :
    DigitRun radix run := by
  induction run with
  | nil => exact absurd rfl hne
  | cons c run ih =>
    rw [List.forall_mem_cons] at h
    rcases eq_or_ne run [] with rfl | hrun
    · exact .one h.1
    · exact .next h.1 (ih hrun h.2)

/-- What is found in front is digits, and all the rest follows them. -/
lemma leadingDigits?_sound {digits : List Nat} (h : leadingDigits? radix cs = some (digits, rest)) :
    ∃ run, cs = run ++ rest ∧ DigitRun radix run := by
  fun_induction leadingDigits? radix cs generalizing digits with
  | case1 => cases h
  | case2 c =>
    obtain ⟨d, hd, heq⟩ := Option.map_eq_some_iff.1 h
    cases heq
    exact ⟨[c], rfl, .one (Option.isSome_iff_exists.2 ⟨d, hd⟩)⟩
  | case3 c cs ih =>
    simp only [Option.bind_eq_bind, Option.bind_eq_some_iff, Prod.exists] at h
    obtain ⟨d, hd, ds, left, hrest, heq⟩ := h
    cases heq
    obtain ⟨run, rfl, hrun⟩ := ih hrest
    exact ⟨c :: '_' :: run, rfl, .grouped (Option.isSome_iff_exists.2 ⟨d, hd⟩) hrun⟩
  | case4 c next cs _ ih =>
    simp only [Option.bind_eq_bind, Option.bind_eq_some_iff] at h
    obtain ⟨d, hd, h⟩ := h
    have hdigit : (radix.digit? c).isSome := Option.isSome_iff_exists.2 ⟨d, hd⟩
    split at h
    case isTrue =>
      simp only [Option.bind_eq_some_iff, Prod.exists] at h
      obtain ⟨ds, left, hrest, heq⟩ := h
      cases heq
      obtain ⟨run, hsplit, hrun⟩ := ih hrest
      exact ⟨c :: run, by rw [hsplit, List.cons_append], .next hdigit hrun⟩
    case isFalse =>
      cases h
      exact ⟨[c], rfl, .one hdigit⟩

/-- Digits are found if neither a digit nor an underscore follows them. -/
lemma leadingDigits?_complete (h : DigitRun radix run)
    (hrest : ∀ c, rest.head? = some c → c ≠ '_' ∧ radix.digit? c = none) :
    ∃ digits, leadingDigits? radix (run ++ rest) = some (digits, rest) := by
  induction h with
  | @one c h =>
    obtain ⟨d, hd⟩ := Option.isSome_iff_exists.1 h
    cases rest with
    | nil => exact ⟨[d], by rw [List.append_nil, leadingDigits?, hd, Option.map_some]⟩
    | cons next rest =>
      obtain ⟨hmark, hnone⟩ := hrest next rfl
      refine ⟨[d], ?_⟩
      rw [List.singleton_append, leadingDigits?.eq_4 _ _ _ _ hmark]
      simp [hd, hnone]
  | @next c run h hrun ih =>
    obtain ⟨d, hd⟩ := Option.isSome_iff_exists.1 h
    obtain ⟨ds, hds⟩ := ih
    obtain ⟨e, tail, rfl, he⟩ := hrun.exists_cons
    rw [List.cons_append] at hds
    refine ⟨d :: ds, ?_⟩
    rw [List.cons_append, List.cons_append, leadingDigits?.eq_4 _ _ _ _ (ne_of_digit? he (by decide))]
    simp [hd, he, hds]
  | @grouped c run h hrun ih =>
    obtain ⟨d, hd⟩ := Option.isSome_iff_exists.1 h
    obtain ⟨ds, hds⟩ := ih
    refine ⟨d :: ds, ?_⟩
    rw [List.cons_append, List.cons_append, leadingDigits?]
    simp [hd, hds]

/-! ## Marks -/

/-- What may introduce the digits of base 16: nothing, or a zero and an `x`, behind which there may be an
underscore. -/
inductive IsMark : List Char → Prop
  | none : IsMark []
  | zero {z x : Char} (hz : decimalValue? z = some 0) (hx : x = 'x' ∨ x = 'X') : IsMark [z, x]
  | underscored {z x : Char} (hz : decimalValue? z = some 0) (hx : x = 'x' ∨ x = 'X') :
      IsMark [z, x, '_']

lemma isSome_digit?_of_decimalValue? {n : Nat} (h : decimalValue? c = some n) :
    (Radix.hexadecimal.digit? c).isSome := by
  rw [Radix.digit?, h, Option.some_or, Option.isSome_some]

lemma IsMark.mem {mark : List Char} (h : IsMark mark) : ∀ c ∈ mark, c = '_' ∨ isWordChar c := by
  have hzero : ∀ {z : Char}, decimalValue? z = some 0 → isWordChar z := fun hz =>
    isWordChar_of_digit? (isSome_digit?_of_decimalValue? hz)
  have hletter : ∀ {x : Char}, x = 'x' ∨ x = 'X' → isWordChar x := by
    rintro x (rfl | rfl)
    · decide
    · decide
  cases h with
  | none => simp
  | zero hz hx => simp [hzero hz, hletter hx]
  | underscored hz hx => simp [hzero hz, hletter hx]

lemma exists_dropMark (cs : List Char) :
    ∃ mark, cs = mark ++ Radix.hexadecimal.dropMark cs ∧ IsMark mark := by
  match cs with
  | [] => exact ⟨[], rfl, .none⟩
  | [_] => exact ⟨[], rfl, .none⟩
  | z :: x :: rest =>
    unfold Radix.dropMark
    dsimp only
    split
    case isTrue hmark =>
      split
      case h_1 => exact ⟨[z, x, '_'], rfl, .underscored hmark.1 hmark.2⟩
      case h_2 => exact ⟨[z, x], rfl, .zero hmark.1 hmark.2⟩
    case isFalse => exact ⟨[], rfl, .none⟩

/-- A mark is passed over if what is behind it does not begin with an underscore and has no mark. -/
lemma dropMark_append {mark : List Char} (h : IsMark mark) (hhead : cs.head? ≠ some '_')
    (hsmall : 'x' ∉ cs) (hcapital : 'X' ∉ cs) : Radix.hexadecimal.dropMark (mark ++ cs) = cs := by
  cases h with
  | none =>
    rw [List.nil_append]
    match cs with
    | [] => rfl
    | [_] => rfl
    | z :: x :: rest =>
      have hne : x ≠ 'x' ∧ x ≠ 'X' := by
        constructor
        · rintro rfl
          exact hsmall (by simp)
        · rintro rfl
          exact hcapital (by simp)
      simp [Radix.dropMark, hne]
  | @zero z x hz hmark =>
    simp only [Radix.dropMark, List.cons_append, List.nil_append, hz, hmark, and_self, if_true]
    split
    case h_1 => exact absurd rfl hhead
    case h_2 => rfl
  | @underscored z x hz hmark =>
    simp only [Radix.dropMark, List.cons_append, List.nil_append, hz, hmark, and_self, if_true]

/-! ## Signs -/

lemma exists_splitSign (cs : List Char) :
    ∃ sign ∈ [[], ['+'], ['-']], cs = sign ++ (splitSign cs).2 := by
  unfold splitSign
  split
  case h_1 => exact ⟨['-'], by decide, rfl⟩
  case h_2 => exact ⟨['+'], by decide, rfl⟩
  case h_3 => exact ⟨[], by decide, rfl⟩

lemma splitSign_append {sign : List Char} (h : sign ∈ [[], ['+'], ['-']])
    (hhead : ∀ c, cs.head? = some c → c ≠ '+' ∧ c ≠ '-') : (splitSign (sign ++ cs)).2 = cs := by
  simp only [List.mem_cons, List.not_mem_nil, or_false] at h
  rcases h with rfl | rfl | rfl
  · rw [List.nil_append]
    unfold splitSign
    split
    case h_1 => exact absurd rfl (hhead '-' rfl).2
    case h_2 => exact absurd rfl (hhead '+' rfl).1
    case h_3 => rfl
  · rfl
  · rfl

/-! ## Integers -/

/-- A text that is read as an integer in base 16. -/
inductive IsNumeral : List Char → Prop
  | intro {front sign mark run back : List Char} (hfront : ∀ c ∈ front, isNumberBlank c)
      (hsign : sign ∈ [[], ['+'], ['-']]) (hmark : IsMark mark) (hrun : DigitRun .hexadecimal run)
      (hback : ∀ c ∈ back, isNumberBlank c) : IsNumeral (front ++ (sign ++ (mark ++ (run ++ back))))

lemma isNumeral_of_readInteger {n : Int} (h : readInteger .hexadecimal cs = .ok n) :
    IsNumeral cs := by
  obtain ⟨sign, hsign, hbody⟩ := exists_splitSign (cs.dropWhile isNumberBlank)
  obtain ⟨mark, hdigits, hmark⟩ := exists_dropMark (splitSign (cs.dropWhile isNumberBlank)).2
  unfold readInteger at h
  dsimp only at h
  split at h
  case h_1 => cases h
  case h_2 digits back hleading =>
    obtain ⟨run, hsplit, hrun⟩ := leadingDigits?_sound hleading
    split at h
    case isTrue hlong => exact absurd hlong.1 (by decide)
    case isFalse =>
      split at h
      case isFalse => cases h
      case isTrue hback =>
        rw [← List.takeWhile_append_dropWhile (p := isNumberBlank) (l := cs), hbody, hdigits, hsplit]
        exact .intro (List.all_eq_true.1 List.all_takeWhile) hsign hmark hrun
          (List.all_eq_true.1 hback)

/-- Behind the sign of a numeral comes a digit: one of the run, or the zero of the mark. -/
lemma exists_digit_of_mark {mark : List Char} (hmark : IsMark mark)
    (hrun : DigitRun .hexadecimal run) (rest : List Char) :
    ∃ c tail, mark ++ (run ++ rest) = c :: tail ∧ (Radix.hexadecimal.digit? c).isSome := by
  cases hmark with
  | none =>
    obtain ⟨c, tail, rfl, hc⟩ := hrun.exists_cons
    exact ⟨c, tail ++ rest, rfl, hc⟩
  | zero hz => exact ⟨_, _, rfl, isSome_digit?_of_decimalValue? hz⟩
  | underscored hz => exact ⟨_, _, rfl, isSome_digit?_of_decimalValue? hz⟩

lemma dropWhile_number {front sign : List Char} (hfront : ∀ c ∈ front, isNumberBlank c)
    (hsign : sign ∈ [[], ['+'], ['-']]) (hc : (radix.digit? c).isSome) (tail : List Char) :
    (front ++ (sign ++ c :: tail)).dropWhile isNumberBlank = sign ++ c :: tail := by
  rw [List.dropWhile_append_of_pos hfront]
  simp only [List.mem_cons, List.not_mem_nil, or_false] at hsign
  rcases hsign with rfl | rfl | rfl
  · exact List.dropWhile_cons_of_neg (not_isNumberBlank_of_isWordChar (isWordChar_of_digit? hc))
  · rfl
  · rfl

/-- No other letter than a digit stands behind the mark of a numeral. -/
lemma notMem_run_append {back : List Char} (hrun : DigitRun radix run)
    (hback : ∀ c ∈ back, isNumberBlank c) (hword : isWordChar c) (hdigit : radix.digit? c = none) :
    c ∉ run ++ back := by
  rw [List.mem_append, not_or]
  constructor
  · intro hc
    rcases hrun.mem c hc with rfl | hsome
    · exact absurd hword (by decide)
    · rw [hdigit] at hsome
      cases hsome
  · exact fun hc => not_isNumberBlank_of_isWordChar hword (hback c hc)

lemma leadingDigits?_number {back : List Char} (hrun : DigitRun radix run)
    (hback : ∀ c ∈ back, isNumberBlank c) :
    ∃ digits, leadingDigits? radix (run ++ back) = some (digits, back) := by
  refine leadingDigits?_complete hrun fun c hc => ?_
  have hblank := hback c (List.mem_of_head? hc)
  constructor
  · rintro rfl
    exact absurd hblank (by decide)
  · rw [← Option.not_isSome_iff_eq_none]
    exact fun hsome => not_isNumberBlank_of_isWordChar (isWordChar_of_digit? hsome) hblank

lemma IsNumeral.exists_readInteger (h : IsNumeral cs) :
    ∃ n, readInteger .hexadecimal cs = .ok n := by
  obtain @⟨front, sign, mark, run, back, hfront, hsign, hmark, hrun, hback⟩ := h
  obtain ⟨first, tail, hbody, hfirst⟩ := exists_digit_of_mark hmark hrun back
  have htrimmed : (front ++ (sign ++ (mark ++ (run ++ back)))).dropWhile isNumberBlank =
      sign ++ (mark ++ (run ++ back)) := by
    rw [hbody, dropWhile_number hfront hsign hfirst]
  have hunsigned : (splitSign (sign ++ (mark ++ (run ++ back)))).2 = mark ++ (run ++ back) := by
    refine splitSign_append hsign fun c hc => ?_
    rw [hbody, List.head?_cons, Option.some.injEq] at hc
    subst hc
    exact ⟨ne_of_digit? hfirst (by decide), ne_of_digit? hfirst (by decide)⟩
  have hunmarked : Radix.hexadecimal.dropMark (mark ++ (run ++ back)) = run ++ back := by
    refine dropMark_append hmark ?_ (notMem_run_append hrun hback (by decide) (by decide))
      (notMem_run_append hrun hback (by decide) (by decide))
    obtain ⟨c, tail, rfl, hc⟩ := hrun.exists_cons
    simpa using ne_of_digit? hc (by decide)
  obtain ⟨digits, hdigits⟩ := leadingDigits?_number hrun hback
  unfold readInteger
  dsimp only
  rw [htrimmed, hunsigned, hunmarked, hdigits]
  dsimp only
  rw [if_neg (by simp), if_pos (List.all_eq_true.2 hback)]
  exact ⟨_, rfl⟩

/-- Nothing else stands in a numeral than blanks, signs, underscores, and letters and digits. -/
lemma IsNumeral.mem (h : IsNumeral cs) :
    ∀ c ∈ cs, isNumberBlank c ∨ c ∈ ['+', '-', '_'] ∨ isWordChar c := by
  obtain @⟨front, sign, mark, run, back, hfront, hsign, hmark, hrun, hback⟩ := h
  have hsignChars : ∀ c ∈ sign, c ∈ ['+', '-', '_'] := by
    revert sign
    decide
  simp only [List.mem_append]
  rintro c (hc | hc | hc | hc | hc)
  · exact .inl (hfront c hc)
  · exact .inr (.inl (hsignChars c hc))
  · rcases hmark.mem c hc with rfl | hword
    · exact .inr (.inl (by decide))
    · exact .inr (.inr hword)
  · rcases hrun.mem c hc with rfl | hdigit
    · exact .inr (.inl (by decide))
    · exact .inr (.inr (isWordChar_of_digit? hdigit))
  · exact .inl (hback c hc)

/-- In base 16, exactly the numerals are read. -/
theorem exists_readInteger_iff (cs : List Char) :
    (∃ n, readInteger .hexadecimal cs = .ok n) ↔ IsNumeral cs :=
  ⟨fun ⟨_, h⟩ => isNumeral_of_readInteger h, IsNumeral.exists_readInteger⟩

end RestConnector.Text
