import RestConnector.Text.Blank

/-!
# Timestamps

A timestamp is a calendar date, or a date and a time of day with an optional offset from universal
time. `Timestamp.ofChars?` reads the written form, digit by digit; `Timestamp.isValid` says whether the
numbers it has read are a date of the Gregorian calendar, a time of day and an offset of less than a
day. A text is a timestamp (`isTimestamp`) when what is left of it without the blanks around it can be
read and is valid.
-/

namespace RestConnector.Scalar

open RestConnector.Text

/-- A time of day; a missing second is zero. -/
structure Clock where
  hour : Nat
  minute : Nat
  second : Nat
  /-- How far the clock is from universal time in minutes, apart from the direction. -/
  offset : Nat
deriving DecidableEq, Repr

/-- A date with an optional time of day. -/
structure Timestamp where
  year : Nat
  month : Nat
  day : Nat
  clock : Option Clock
deriving DecidableEq, Repr

/-! ## Reading -/

/-- Reads a number of exactly `count` ASCII digits, to be appended to `value`. -/
def readDigits : Nat → Nat → List Char → Option (Nat × List Char)
  | 0, value, cs => some (value, cs)
  | count + 1, value, c :: cs =>
    if c.isDigit then readDigits count (value * 10 + (c.toNat - 48)) cs else none
  | _ + 1, _, [] => none

/-- Reads a given character. -/
def readMark (mark : Char) : List Char → Option (List Char)
  | [] => none
  | c :: cs => if c = mark then some cs else none

/-- Reads what may stand behind the time of day: nothing, a Z, or a sign with hours and minutes. -/
def readOffset : List Char → Option Nat
  | [] => some 0
  | ['Z'] => some 0
  | c :: cs =>
    if c = '+' ∨ c = '-' then do
      let (hours, rest) ← readDigits 2 0 cs
      let (minutes, rest) ← readDigits 2 0 ((readMark ':' rest).getD rest)
      if rest.isEmpty then some (hours * 60 + minutes) else none
    else none

/-- Passes over a point with one to six digits behind it, if there is a point. -/
def readFraction : List Char → Option (List Char)
  | '.' :: cs =>
    let digits := (cs.take 6).takeWhile Char.isDigit
    if digits.isEmpty then none else some (cs.drop digits.length)
  | cs => some cs

/-- Reads the seconds, which may be missing, with their fraction. -/
def readSecond : List Char → Option (Nat × List Char)
  | ':' :: cs => do
    let (second, rest) ← readDigits 2 0 cs
    let rest ← readFraction rest
    some (second, rest)
  | cs => some (0, cs)

/-- Reads a time of day with its offset. -/
def readClock (cs : List Char) : Option Clock := do
  let (hour, rest) ← readDigits 2 0 cs
  let rest ← readMark ':' rest
  let (minute, rest) ← readDigits 2 0 rest
  let (second, rest) ← readSecond rest
  let offset ← readOffset rest
  some { hour, minute, second, offset }

/-- Reads what may stand behind a date: nothing, or a T or a space and a time of day. -/
def readClock? : List Char → Option (Option Clock)
  | [] => some none
  | c :: cs => if c = 'T' ∨ c = ' ' then (readClock cs).map some else none

/-- Reads a timestamp. -/
def Timestamp.ofChars? (cs : List Char) : Option Timestamp := do
  let (year, rest) ← readDigits 4 0 cs
  let rest ← readMark '-' rest
  let (month, rest) ← readDigits 2 0 rest
  let rest ← readMark '-' rest
  let (day, rest) ← readDigits 2 0 rest
  let clock ← readClock? rest
  some { year, month, day, clock }

/-! ## Validity -/

/-- Whether a year of the Gregorian calendar is a leap year. -/
def isLeapYear (year : Nat) : Bool :=
  year % 4 == 0 && (year % 100 != 0 || year % 400 == 0)

/-- The number of days in a month, or none if there is no such month. -/
def daysIn (year month : Nat) : Nat :=
  if month = 2 then (if isLeapYear year then 29 else 28)
  else if month ∈ [4, 6, 9, 11] then 30
  else if 1 ≤ month ∧ month ≤ 12 then 31
  else 0

/-- Whether the numbers of a clock are in range. -/
def Clock.isValid (clock : Clock) : Bool :=
  clock.hour ≤ 23 && clock.minute ≤ 59 && clock.second ≤ 59 && clock.offset < 24 * 60

/-- Whether the numbers of a timestamp are a date and a time of day. -/
def Timestamp.isValid (stamp : Timestamp) : Bool :=
  1 ≤ stamp.year && 1 ≤ stamp.day && stamp.day ≤ daysIn stamp.year stamp.month &&
    stamp.clock.all Clock.isValid

/-- The timestamp that a text is, blanks around it apart. -/
def timestamp? (text : String) : Option Timestamp :=
  (Timestamp.ofChars? (trim text.toList)).filter Timestamp.isValid

/-- Whether a text is a timestamp. -/
def isTimestamp (text : String) : Bool :=
  (timestamp? text).isSome

end RestConnector.Scalar
