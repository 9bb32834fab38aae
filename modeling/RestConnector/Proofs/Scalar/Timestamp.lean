import Mathlib.Data.List.TakeWhile
import Mathlib.Tactic.Lemma
import Mathlib.Tactic.Ring
import RestConnector.Proofs.Scalar.Calendar
import RestConnector.Text.Digit

/-!
# Which texts are timestamps

The reader of a timestamp takes a text apart from the left: a mark is tried before what may stand in its
place, and a fraction takes as many digits as it can.  Here the written forms are said without a reader.
`numeral` writes a number with a fixed number of digits, and a form (`OffsetForm`, `FractionForm`,
`SecondForm`, `ClockForm`, `TimeForm`, `TimestampForm`) puts such pieces side by side, one constructor for
each way of writing a part down.

Every reader answers exactly for the texts of its form (`readOffset_eq_some_iff` up to
`ofChars?_eq_some_iff`), and with the ranges of `Proofs.Scalar.Calendar` these are the timestamps
(`isTimestamp_iff`).  Reading the second is the one step that depends on what comes behind it: a colon, a
point and another digit would still be taken for a part of it.  No offset begins with one of these
(`OffsetForm.endsSecond`), so the parts come apart where they were put together.
-/

namespace RestConnector.Scalar

open RestConnector.Text

variable {cs rest : List Char}

/-! ## Numbers of a fixed width -/

/-- A number written with `width` decimal digits, zeros in front included. -/
def numeral : Nat → Nat → List Char
  | 0, _ => []
  | width + 1, n => Nat.digitChar (n / 10 ^ width) :: numeral width (n % 10 ^ width)

lemma digitChar_of_lt : ∀ n < 10, (Nat.digitChar n).isDigit ∧ (Nat.digitChar n).toNat - 48 = n := by
  decide

lemma digitChar_of_isDigit {c : Char} (h : c.isDigit) :
    c.toNat - 48 < 10 ∧ Nat.digitChar (c.toNat - 48) = c := by
  have hrange := isAsciiDigit_iff.1 h
  refine ⟨by omega, Char.toNat_inj.1 ?_⟩
  rw [Nat.toNat_digitChar_of_lt_ten (by omega)]
  omega

lemma lt_pow_succ_iff {width n : Nat} :
    n < 10 ^ (width + 1) ↔ ∃ first < 10, ∃ m < 10 ^ width, n = first * 10 ^ width + m := by
  constructor
  · intro h
    exact ⟨n / 10 ^ width, Nat.div_lt_of_lt_mul (by rwa [← Nat.pow_succ]), n % 10 ^ width,
      Nat.mod_lt _ (Nat.pow_pos (by decide)), (Nat.div_add_mod' n _).symm⟩
  · rintro ⟨first, hfirst, m, hm, rfl⟩
    calc first * 10 ^ width + m < (first + 1) * 10 ^ width := by rw [Nat.add_mul]; omega
      _ ≤ 10 * 10 ^ width := Nat.mul_le_mul_right _ hfirst
      _ = 10 ^ (width + 1) := by ring

/-- The first digit of a numeral and what is left behind it. -/
lemma numeral_mul_add {width n : Nat} (first : Nat) (h : n < 10 ^ width) :
    numeral (width + 1) (first * 10 ^ width + n) = Nat.digitChar first :: numeral width n := by
  rw [numeral, Nat.add_comm, Nat.add_mul_div_right _ _ (Nat.pow_pos (by decide)), Nat.div_eq_of_lt h,
    Nat.add_mul_mod_self_right, Nat.mod_eq_of_lt h, Nat.zero_add]

@[simp] lemma length_numeral {width n : Nat} : (numeral width n).length = width := by
  induction width generalizing n with
  | zero => rfl
  | succ width ih => rw [numeral, List.length_cons, ih]

lemma isDigit_of_mem_numeral {width n : Nat} (h : n < 10 ^ width) :
    ∀ c ∈ numeral width n, c.isDigit := by
  induction width generalizing n with
  | zero => simp [numeral]
  | succ width ih =>
    obtain ⟨first, hfirst, m, hm, rfl⟩ := lt_pow_succ_iff.1 h
    rw [numeral_mul_add first hm, List.forall_mem_cons]
    exact ⟨(digitChar_of_lt first hfirst).1, ih hm⟩

/-- The digits that are read are the numeral of what they add to the value. -/
lemma readDigits_eq_some_iff {count value n : Nat} :
    readDigits count value cs = some (n, rest) ↔
      ∃ m < 10 ^ count, cs = numeral count m ++ rest ∧ n = value * 10 ^ count + m := by
  induction count generalizing value cs with
  | zero => simp [readDigits, numeral, and_comm, eq_comm]
  | succ count ih =>
    constructor
    · intro h
      cases cs with
      | nil => cases h
      | cons c cs =>
        rw [readDigits] at h
        split at h
        case isTrue hdigit =>
          obtain ⟨hlt, hchar⟩ := digitChar_of_isDigit hdigit
          obtain ⟨m, hm, rfl, rfl⟩ := ih.1 h
          refine ⟨(c.toNat - 48) * 10 ^ count + m, lt_pow_succ_iff.2 ⟨_, hlt, m, hm, rfl⟩, ?_, by ring⟩
          rw [numeral_mul_add _ hm, hchar, List.cons_append]
        case isFalse => cases h
    · rintro ⟨m, hlt, rfl, rfl⟩
      obtain ⟨first, hfirst, m, hm, rfl⟩ := lt_pow_succ_iff.1 hlt
      obtain ⟨hdigit, hvalue⟩ := digitChar_of_lt first hfirst
      rw [numeral_mul_add first hm, List.cons_append, readDigits, if_pos hdigit, hvalue]
      exact ih.2 ⟨m, hm, rfl, by ring⟩

lemma readDigits_numeral {width n : Nat} (h : n < 10 ^ width) :
    readDigits width 0 (numeral width n ++ rest) = some (n, rest) :=
  readDigits_eq_some_iff.2 ⟨n, h, rfl, by rw [Nat.zero_mul, Nat.zero_add]⟩

lemma eq_numeral_of_readDigits {count n : Nat} (h : readDigits count 0 cs = some (n, rest)) :
    n < 10 ^ count ∧ cs = numeral count n ++ rest := by
  obtain ⟨m, hm, hcs, rfl⟩ := readDigits_eq_some_iff.1 h
  rw [Nat.zero_mul, Nat.zero_add]
  exact ⟨hm, hcs⟩

lemma readMark_eq_some_iff {mark : Char} : readMark mark cs = some rest ↔ cs = mark :: rest := by
  cases cs with
  | nil => simp [readMark]
  | cons c cs =>
    rw [readMark, List.cons.injEq]
    split
    case isTrue h => simp [h]
    case isFalse h => simp [h]

@[simp] lemma readMark_cons {mark : Char} : readMark mark (mark :: cs) = some cs :=
  readMark_eq_some_iff.2 rfl

/-! ## Offsets -/

/-- How an offset of so many minutes is written: not at all, as a Z, or with a sign in front of the
hours and the minutes, between which there may be a colon. -/
inductive OffsetForm : Nat → List Char → Prop
  | missing : OffsetForm 0 []
  | universal : OffsetForm 0 ['Z']
  | signed {sign : Char} {hours minutes : Nat} {colon : List Char} (hsign : sign = '+' ∨ sign = '-')
      (hhours : hours < 10 ^ 2) (hminutes : minutes < 10 ^ 2) (hcolon : colon = [] ∨ colon = [':']) :
      OffsetForm (hours * 60 + minutes) (sign :: (numeral 2 hours ++ (colon ++ numeral 2 minutes)))

/-- Behind a sign there are the hours, an optional colon and the minutes. -/
lemma readOffset_of_sign {sign : Char} (h : sign = '+' ∨ sign = '-') :
    readOffset (sign :: cs) =
      (readDigits 2 0 cs).bind fun (hours, rest) =>
        (readDigits 2 0 ((readMark ':' rest).getD rest)).bind fun (minutes, rest) =>
          if rest.isEmpty then some (hours * 60 + minutes) else none := by
  rcases h with rfl | rfl <;> rfl

/-- A colon is passed over if there is one. -/
lemma exists_colon (cs : List Char) :
    ∃ colon : List Char, (colon = [] ∨ colon = [':']) ∧ cs = colon ++ (readMark ':' cs).getD cs := by
  cases h : readMark ':' cs with
  | none => exact ⟨[], .inl rfl, rfl⟩
  | some rest => exact ⟨[':'], .inr rfl, readMark_eq_some_iff.1 h⟩

/-- A colon cannot be taken from a number. -/
lemma getD_readMark_numeral {minutes : Nat} {colon : List Char} (hminutes : minutes < 10 ^ 2)
    (hcolon : colon = [] ∨ colon = [':']) :
    (readMark ':' (colon ++ numeral 2 minutes)).getD (colon ++ numeral 2 minutes) =
      numeral 2 minutes := by
  rcases hcolon with rfl | rfl
  · cases h : readMark ':' (numeral 2 minutes) with
    | none => rw [List.nil_append, h, Option.getD_none]
    | some rest =>
      have hdigits := isDigit_of_mem_numeral hminutes
      rw [readMark_eq_some_iff.1 h] at hdigits
      exact absurd (hdigits ':' List.mem_cons_self) (by decide)
  · rw [List.singleton_append, readMark_cons, Option.getD_some]

lemma readOffset_eq_some_iff {offset : Nat} : readOffset cs = some offset ↔ OffsetForm offset cs := by
  constructor
  · fun_cases readOffset cs with
    | case1 =>
      rintro ⟨⟩
      exact .missing
    | case2 =>
      rintro ⟨⟩
      exact .universal
    | case3 sign cs _ hsign =>
      intro h
      obtain ⟨⟨hours, behindHours⟩, hreadHours, h⟩ := Option.bind_eq_some_iff.1 h
      obtain ⟨⟨minutes, behindMinutes⟩, hreadMinutes, h⟩ := Option.bind_eq_some_iff.1 h
      obtain ⟨hempty, hoffset⟩ := Option.ite_none_right_eq_some.1 h
      obtain ⟨hhours, rfl⟩ := eq_numeral_of_readDigits hreadHours
      obtain ⟨hminutes, hbehind⟩ := eq_numeral_of_readDigits hreadMinutes
      obtain ⟨colon, hcolon, hsplit⟩ := exists_colon behindHours
      cases hoffset
      rw [hsplit, hbehind, List.isEmpty_iff.1 hempty, List.append_nil]
      exact .signed hsign hhours hminutes hcolon
    | case4 => rintro ⟨⟩
  · intro h
    cases h with
    | missing => rfl
    | universal => rfl
    | @signed sign hours minutes colon hsign hhours hminutes hcolon =>
      have hreadMinutes : readDigits 2 0 (numeral 2 minutes ++ []) = some (minutes, []) :=
        readDigits_numeral hminutes
      rw [List.append_nil] at hreadMinutes
      rw [readOffset_of_sign hsign, readDigits_numeral hhours, Option.bind_some]
      dsimp only
      rw [getD_readMark_numeral hminutes hcolon, hreadMinutes]
      rfl

/-! ## Seconds -/

/-- How a fraction is written: not at all, or as a point with one to six digits. -/
inductive FractionForm : List Char → Prop
  | missing : FractionForm []
  | written {digits : List Char} (hdigits : ∀ c ∈ digits, c.isDigit) (hone : 1 ≤ digits.length)
      (hsix : digits.length ≤ 6) : FractionForm ('.' :: digits)

/-- How a second is written: not at all, or behind a colon and with a fraction. -/
inductive SecondForm : Nat → List Char → Prop
  | missing : SecondForm 0 []
  | written {second : Nat} {fraction : List Char} (hsecond : second < 10 ^ 2)
      (hfraction : FractionForm fraction) :
      SecondForm second (':' :: (numeral 2 second ++ fraction))

/-- Whether no part of a text is taken for a part of the second in front of it. -/
def EndsSecond (rest : List Char) : Prop :=
  ∀ c ∈ rest.head?, c ≠ ':' ∧ c ≠ '.' ∧ ¬ c.isDigit

lemma OffsetForm.endsSecond {offset : Nat} (h : OffsetForm offset rest) : EndsSecond rest := by
  rcases h with _ | _ | ⟨rfl | rfl, -, -, -⟩ <;> simp [EndsSecond]

lemma EndsSecond.takeWhile_take (h : EndsSecond rest) (count : Nat) :
    (rest.take count).takeWhile Char.isDigit = [] := by
  cases rest with
  | nil => rw [List.take_nil, List.takeWhile_nil]
  | cons c rest =>
    cases count with
    | zero => rw [List.take_zero, List.takeWhile_nil]
    | succ count => rw [List.take_succ_cons, List.takeWhile_cons_of_neg (h c rfl).2.2]

lemma fractionForm_of_readFraction (h : readFraction cs = some rest) :
    ∃ fraction, FractionForm fraction ∧ cs = fraction ++ rest := by
  revert h
  fun_cases readFraction cs with
  | case1 cs digits hempty => rintro ⟨⟩
  | case2 cs digits hempty =>
    rintro ⟨⟩
    have hsix : digits.length ≤ 6 :=
      (List.takeWhile_prefix _).length_le.trans (List.length_take_le 6 cs)
    have hprefix : digits <+: cs := (List.takeWhile_prefix _).trans (List.take_prefix 6 cs)
    refine ⟨'.' :: digits, .written (fun c hc => List.mem_takeWhile_imp hc) ?_ hsix, ?_⟩
    · exact List.length_pos_iff.2 fun hnil => hempty (List.isEmpty_iff.2 hnil)
    · rw [List.cons_append, List.prefix_iff_eq_append.1 hprefix]
  | case3 cs =>
    rintro ⟨⟩
    exact ⟨[], .missing, rfl⟩

lemma readFraction_append {fraction : List Char} (h : FractionForm fraction) (hrest : EndsSecond rest) :
    readFraction (fraction ++ rest) = some rest := by
  cases h with
  | missing =>
    cases rest with
    | nil => rfl
    | cons c rest => simp [readFraction, (hrest c rfl).2.1]
  | @written digits hdigits hone hsix =>
    have htaken : ((digits ++ rest).take 6).takeWhile Char.isDigit = digits := by
      rw [List.take_append, List.take_of_length_le hsix, List.takeWhile_append_of_pos hdigits,
        hrest.takeWhile_take, List.append_nil]
    have hne : digits ≠ [] := List.length_pos_iff.1 hone
    simp [readFraction, htaken, hne]

lemma secondForm_of_readSecond {second : Nat} (h : readSecond cs = some (second, rest)) :
    ∃ written, SecondForm second written ∧ cs = written ++ rest := by
  revert h
  fun_cases readSecond cs with
  | case1 cs =>
    intro h
    simp only [Option.bind_eq_bind, Option.bind_eq_some_iff] at h
    obtain ⟨⟨read, behindDigits⟩, hread, behindFraction, hbehind, hresult⟩ := h
    cases hresult
    obtain ⟨hsecond, rfl⟩ := eq_numeral_of_readDigits hread
    obtain ⟨fraction, hfraction, rfl⟩ := fractionForm_of_readFraction hbehind
    exact ⟨_, .written hsecond hfraction, by simp⟩
  | case2 cs =>
    rintro ⟨⟩
    exact ⟨[], .missing, rfl⟩

lemma readSecond_append {second : Nat} {written : List Char} (h : SecondForm second written)
    (hrest : EndsSecond rest) : readSecond (written ++ rest) = some (second, rest) := by
  cases h with
  | missing =>
    cases rest with
    | nil => rfl
    | cons c rest => simp [readSecond, (hrest c rfl).1]
  | written hsecond hfraction =>
    simp [readSecond, readDigits_numeral hsecond, readFraction_append hfraction hrest]

/-! ## Times of day -/

/-- How a time of day is written: hours and minutes, then the second and the offset. -/
inductive ClockForm : Clock → List Char → Prop
  | written {hour minute second offset : Nat} {seconds zone : List Char} (hhour : hour < 10 ^ 2)
      (hminute : minute < 10 ^ 2) (hsecond : SecondForm second seconds) (hoffset : OffsetForm offset zone) :
      ClockForm { hour, minute, second, offset }
        (numeral 2 hour ++ ':' :: (numeral 2 minute ++ (seconds ++ zone)))

lemma readClock_eq_some_iff {clock : Clock} : readClock cs = some clock ↔ ClockForm clock cs := by
  constructor
  · intro h
    simp only [readClock, Option.bind_eq_bind, Option.bind_eq_some_iff] at h
    obtain ⟨⟨hour, behindHour⟩, hreadHour, behindMark, hmark, ⟨minute, behindMinute⟩, hreadMinute,
      ⟨second, behindSecond⟩, hreadSecond, offset, hoffset, hclock⟩ := h
    cases hclock
    obtain ⟨hhour, rfl⟩ := eq_numeral_of_readDigits hreadHour
    obtain rfl := readMark_eq_some_iff.1 hmark
    obtain ⟨hminute, rfl⟩ := eq_numeral_of_readDigits hreadMinute
    obtain ⟨seconds, hsecond, rfl⟩ := secondForm_of_readSecond hreadSecond
    exact .written hhour hminute hsecond (readOffset_eq_some_iff.1 hoffset)
  · rintro ⟨hhour, hminute, hsecond, hoffset⟩
    simp [readClock, readDigits_numeral hhour, readDigits_numeral hminute,
      readSecond_append hsecond hoffset.endsSecond, readOffset_eq_some_iff.2 hoffset]

/-- What may be written behind a date: nothing, or a T or a space and a time of day. -/
inductive TimeForm : Option Clock → List Char → Prop
  | missing : TimeForm none []
  | written {mark : Char} {clock : Clock} {cs : List Char} (hmark : mark = 'T' ∨ mark = ' ')
      (hclock : ClockForm clock cs) : TimeForm (some clock) (mark :: cs)

lemma readClock?_eq_some_iff {clock : Option Clock} : readClock? cs = some clock ↔ TimeForm clock cs := by
  constructor
  · fun_cases readClock? cs with
    | case1 =>
      rintro ⟨⟩
      exact .missing
    | case2 mark cs hmark =>
      intro h
      obtain ⟨clock, hread, rfl⟩ := Option.map_eq_some_iff.1 h
      exact .written hmark (readClock_eq_some_iff.1 hread)
    | case3 => rintro ⟨⟩
  · rintro (_ | ⟨hmark, hclock⟩)
    · rfl
    · rw [readClock?, if_pos hmark, readClock_eq_some_iff.2 hclock, Option.map_some]

/-! ## Timestamps -/

/-- How a timestamp is written: year, month and day, and perhaps a time of day. -/
inductive TimestampForm : Timestamp → List Char → Prop
  | written {year month day : Nat} {clock : Option Clock} {time : List Char} (hyear : year < 10 ^ 4)
      (hmonth : month < 10 ^ 2) (hday : day < 10 ^ 2) (htime : TimeForm clock time) :
      TimestampForm { year, month, day, clock }
        (numeral 4 year ++ '-' :: (numeral 2 month ++ '-' :: (numeral 2 day ++ time)))

lemma ofChars?_eq_some_iff {stamp : Timestamp} :
    Timestamp.ofChars? cs = some stamp ↔ TimestampForm stamp cs := by
  constructor
  · intro h
    simp only [Timestamp.ofChars?, Option.bind_eq_bind, Option.bind_eq_some_iff] at h
    obtain ⟨⟨year, behindYear⟩, hreadYear, behindMark, hmark, ⟨month, behindMonth⟩, hreadMonth,
      behindMarks, hmarks, ⟨day, behindDay⟩, hreadDay, clock, hclock, hstamp⟩ := h
    cases hstamp
    obtain ⟨hyear, rfl⟩ := eq_numeral_of_readDigits hreadYear
    obtain rfl := readMark_eq_some_iff.1 hmark
    obtain ⟨hmonth, rfl⟩ := eq_numeral_of_readDigits hreadMonth
    obtain rfl := readMark_eq_some_iff.1 hmarks
    obtain ⟨hday, rfl⟩ := eq_numeral_of_readDigits hreadDay
    exact .written hyear hmonth hday (readClock?_eq_some_iff.1 hclock)
  · rintro ⟨hyear, hmonth, hday, htime⟩
    simp [Timestamp.ofChars?, readDigits_numeral hyear, readDigits_numeral hmonth,
      readDigits_numeral hday, readClock?_eq_some_iff.2 htime]

lemma TimestampForm.year_le {stamp : Timestamp} (h : TimestampForm stamp cs) : stamp.year ≤ 9999 := by
  obtain ⟨hyear, -, -, -⟩ := h
  exact Nat.le_of_lt_succ hyear

/-! ## The language -/

lemma isAscii_of_isDigit {c : Char} (h : c.isDigit) : c.toNat < 128 :=
  (isAsciiDigit_iff.1 h).2.trans_lt (by decide)

lemma isAscii_numeral {width n : Nat} (h : n < 10 ^ width) : ∀ c ∈ numeral width n, c.toNat < 128 :=
  fun c hc => isAscii_of_isDigit (isDigit_of_mem_numeral h c hc)

lemma OffsetForm.isAscii {offset : Nat} (h : OffsetForm offset cs) : ∀ c ∈ cs, c.toNat < 128 := by
  cases h with
  | missing => exact List.forall_mem_nil _
  | universal => exact List.forall_mem_singleton.2 (by decide)
  | @signed sign hours minutes colon hsign hhours hminutes hcolon =>
    have hsign : sign.toNat < 128 := by rcases hsign with rfl | rfl <;> decide
    have hcolon : ∀ c ∈ colon, c.toNat < 128 := by rcases hcolon with rfl | rfl <;> decide
    simp only [List.forall_mem_cons, List.forall_mem_append]
    exact ⟨hsign, isAscii_numeral hhours, hcolon, isAscii_numeral hminutes⟩

lemma FractionForm.isAscii (h : FractionForm cs) : ∀ c ∈ cs, c.toNat < 128 := by
  cases h with
  | missing => exact List.forall_mem_nil _
  | written hdigits =>
    exact List.forall_mem_cons.2 ⟨by decide, fun c hc => isAscii_of_isDigit (hdigits c hc)⟩

lemma SecondForm.isAscii {second : Nat} (h : SecondForm second cs) : ∀ c ∈ cs, c.toNat < 128 := by
  cases h with
  | missing => exact List.forall_mem_nil _
  | written hsecond hfraction =>
    simp only [List.forall_mem_cons, List.forall_mem_append]
    exact ⟨by decide, isAscii_numeral hsecond, hfraction.isAscii⟩

lemma ClockForm.isAscii {clock : Clock} (h : ClockForm clock cs) : ∀ c ∈ cs, c.toNat < 128 := by
  obtain ⟨hhour, hminute, hsecond, hoffset⟩ := h
  simp only [List.forall_mem_append, List.forall_mem_cons]
  exact ⟨isAscii_numeral hhour, by decide, isAscii_numeral hminute, hsecond.isAscii, hoffset.isAscii⟩

lemma TimeForm.isAscii {clock : Option Clock} (h : TimeForm clock cs) : ∀ c ∈ cs, c.toNat < 128 := by
  cases h with
  | missing => exact List.forall_mem_nil _
  | written hmark hclock =>
    refine List.forall_mem_cons.2 ⟨?_, hclock.isAscii⟩
    rcases hmark with rfl | rfl <;> decide

lemma TimestampForm.isAscii {stamp : Timestamp} (h : TimestampForm stamp cs) :
    ∀ c ∈ cs, c.toNat < 128 := by
  obtain ⟨hyear, hmonth, hday, htime⟩ := h
  simp only [List.forall_mem_append, List.forall_mem_cons]
  exact ⟨isAscii_numeral hyear, by decide, isAscii_numeral hmonth, by decide, isAscii_numeral hday,
    htime.isAscii⟩

/-- A date by itself is written with ten characters, and a time of day behind it takes more. -/
lemma TimestampForm.clock_eq_none {stamp : Timestamp} (h : TimestampForm stamp cs) :
    stamp.clock = none ↔ cs.length = 10 := by
  obtain ⟨-, -, -, htime⟩ := h
  cases htime with
  | missing => simp
  | written =>
    simp only [List.length_append, List.length_cons, length_numeral, reduceCtorEq, false_iff]
    omega

/-- What the timestamp of a text is. -/
theorem timestamp?_eq_some_iff {text : String} {stamp : Timestamp} :
    timestamp? text = some stamp ↔ TimestampForm stamp (trim text.toList) ∧ stamp.InRange := by
  rw [timestamp?, Option.filter_eq_some_iff, ofChars?_eq_some_iff]
  exact and_congr_right fun hform => Timestamp.isValid_iff hform.year_le

example : isTimestamp " 2000-02-29 23:59:59.25-0099 " ∧ ¬ isTimestamp "1900-02-29" := by decide

/-- A timestamp has no time of day exactly when it is written with ten characters. -/
theorem clock_eq_none_iff {text : String} {stamp : Timestamp} (h : timestamp? text = some stamp) :
    stamp.clock = none ↔ (trim text.toList).length = 10 :=
  (timestamp?_eq_some_iff.1 h).1.clock_eq_none

end RestConnector.Scalar
