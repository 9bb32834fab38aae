import Mathlib.Tactic.IntervalCases
import Mathlib.Tactic.Lemma
import RestConnector.Scalar.Timestamp

/-!
# Which numbers are a date and a time of day

The Gregorian calendar is a table of twelve month lengths in which February alone depends on the year
(`monthLengths`).  A day of it is one that its month has (`IsGregorian`), and `daysIn`, which knows the
months by their kind, gives the same days (`isGregorian_iff`).  The clock runs over its usual numbers, but
an offset is bounded as a whole: the minutes of it may be more than 59 (`Clock.InRange`).
-/

namespace RestConnector.Scalar

variable {year month day : Nat}

/-- The lengths of the months of a year of the Gregorian calendar, January first. -/
def monthLengths (year : Nat) : List Nat :=
  let february := if 4 ∣ year ∧ (100 ∣ year → 400 ∣ year) then 29 else 28
  [31, february, 31, 30, 31, 30, 31, 31, 30, 31, 30, 31]

/-- Whether there is such a day in the Gregorian calendar, months and days counted from one. -/
def IsGregorian (year month day : Nat) : Prop :=
  1 ≤ month ∧ 1 ≤ day ∧ ∃ length ∈ (monthLengths year)[month - 1]?, day ≤ length

/-- A time of day, less than a day away from universal time. -/
structure Clock.InRange (clock : Clock) : Prop where
  hour : clock.hour ≤ 23
  minute : clock.minute ≤ 59
  second : clock.second ≤ 59
  offset : clock.offset < 24 * 60

/-- A day of the years 1 to 9999, with a time of day if there is one. -/
structure Timestamp.InRange (stamp : Timestamp) : Prop where
  year : 1 ≤ stamp.year ∧ stamp.year ≤ 9999
  date : IsGregorian stamp.year stamp.month stamp.day
  clock : ∀ clock ∈ stamp.clock, clock.InRange

lemma isLeapYear_iff : isLeapYear year ↔ 4 ∣ year ∧ (100 ∣ year → 400 ∣ year) := by
  simp only [isLeapYear, Bool.and_eq_true, Bool.or_eq_true, beq_iff_eq, bne_iff_ne,
    Nat.dvd_iff_mod_eq_zero, Decidable.imp_iff_not_or]

/-- The table has the months that `daysIn` knows, with their lengths. -/
lemma getElem?_monthLengths (hone : 1 ≤ month) (htwelve : month ≤ 12) :
    (monthLengths year)[month - 1]? = some (daysIn year month) := by
  interval_cases month <;> simp [monthLengths, daysIn, isLeapYear_iff]

lemma daysIn_eq_zero (h : ¬ (1 ≤ month ∧ month ≤ 12)) : daysIn year month = 0 := by
  rw [daysIn, if_neg (by omega), if_neg (by simp; omega), if_neg h]

lemma isGregorian_iff : IsGregorian year month day ↔ 1 ≤ day ∧ day ≤ daysIn year month := by
  by_cases h : 1 ≤ month ∧ month ≤ 12
  · simp [IsGregorian, getElem?_monthLengths h.1 h.2, h.1]
  · rw [daysIn_eq_zero h]
    constructor
    · rintro ⟨hmonth, -, length, hlength, -⟩
      have hlt : month - 1 < 12 := (List.getElem?_eq_some_iff.1 hlength).1
      omega
    · omega

lemma Clock.isValid_iff {clock : Clock} : clock.isValid ↔ clock.InRange := by
  simp only [Clock.isValid, Bool.and_eq_true, decide_eq_true_eq]
  constructor
  · rintro ⟨⟨⟨hhour, hminute⟩, hsecond⟩, hoffset⟩
    exact ⟨hhour, hminute, hsecond, hoffset⟩
  · intro h
    exact ⟨⟨⟨h.hour, h.minute⟩, h.second⟩, h.offset⟩

lemma Timestamp.isValid_iff {stamp : Timestamp} (h : stamp.year ≤ 9999) :
    stamp.isValid ↔ stamp.InRange := by
  simp only [Timestamp.isValid, Bool.and_eq_true, decide_eq_true_eq, Option.all_eq_true, Clock.isValid_iff]
  constructor
  · rintro ⟨⟨⟨hyear, hday⟩, hlength⟩, hclock⟩
    exact ⟨⟨hyear, h⟩, isGregorian_iff.2 ⟨hday, hlength⟩, hclock⟩
  · intro h
    obtain ⟨hday, hlength⟩ := isGregorian_iff.1 h.date
    exact ⟨⟨⟨h.year.1, hday⟩, hlength⟩, h.clock⟩

end RestConnector.Scalar
