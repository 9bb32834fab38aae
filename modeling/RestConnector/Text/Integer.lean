import RestConnector.Text.Blank
import RestConnector.Text.Digit
import RestConnector.Text.Hex

/-!
# Integers written by hand

An integer that a person has typed is read generously: blanks may stand around it, it may have a sign,
its digits may come from any script, and single underscores may group them. In base 16 the digits may
be introduced by `0x`, which may be followed by one underscore.

`readInteger` says why a text is refused: it is no integer at all, or it has more decimal digits than
`decimalLimit`. There is no such limit in base 16. A text whose first digits are too many is refused for
that reason, whatever follows them.
-/

namespace RestConnector.Text

/-- Why a text is not read as an integer. -/
inductive IntegerFault where
  /-- The text is not an integer in the base. -/
  | malformed
  /-- The text has more digits than are read in one number. -/
  | tooLong (digits : Nat)
deriving DecidableEq, Repr

/-- The bases in which integers are read. -/
inductive Radix where
  | decimal
  | hexadecimal
deriving DecidableEq, Repr

/-- The greatest number of decimal digits of an integer that is read. -/
def decimalLimit : Nat := 4300

/-- A blank that may stand around a number: an ASCII space, or a blank outside ASCII. -/
def isNumberBlank (c : Char) : Bool :=
  isBlank c && !(0x1C ≤ c.toNat && c.toNat ≤ 0x1F)

/-- The value of a digit in a base: a decimal digit of any script, or an ASCII letter. -/
def Radix.digit? (radix : Radix) (c : Char) : Option Nat :=
  match radix with
  | .decimal => decimalValue? c
  | .hexadecimal => (decimalValue? c).or (hexValue? c)

/-- The number of which a base's digits count powers. -/
def Radix.base : Radix → Nat
  | .decimal => 10
  | .hexadecimal => 16

/-- The digits at the front of a text, the highest first, and what follows them. Single underscores may
stand between digits; an underscore without a digit on both sides spoils the number. -/
def leadingDigits? (radix : Radix) : List Char → Option (List Nat × List Char)
  | [] => none
  | [c] => (radix.digit? c).map fun d => ([d], [])
  | c :: '_' :: cs => do
    let d ← radix.digit? c
    let (ds, rest) ← leadingDigits? radix cs
    some (d :: ds, rest)
  | c :: next :: cs => do
    let d ← radix.digit? c
    if (radix.digit? next).isSome then
      let (ds, rest) ← leadingDigits? radix (next :: cs)
      some (d :: ds, rest)
    else some ([d], next :: cs)

/-- Passes over the mark that may introduce the digits of a base. -/
def Radix.dropMark (radix : Radix) (cs : List Char) : List Char :=
  match radix, cs with
  | .hexadecimal, z :: x :: rest =>
    if decimalValue? z = some 0 ∧ (x = 'x' ∨ x = 'X') then
      match rest with
      | '_' :: rest => rest
      | rest => rest
    else cs
  | _, cs => cs

/-- The value of digits, the highest first. -/
def ofDigits (base : Nat) (digits : List Nat) : Nat :=
  digits.foldl (fun value digit => value * base + digit) 0

/-- Splits a sign off a number. -/
def splitSign : List Char → Bool × List Char
  | '-' :: cs => (true, cs)
  | '+' :: cs => (false, cs)
  | cs => (false, cs)

/-- Reads an integer as a person writes it. The digits are counted before it is asked what follows
them. -/
def readInteger (radix : Radix) (cs : List Char) : Except IntegerFault Int :=
  let (negative, body) := splitSign (cs.dropWhile isNumberBlank)
  match leadingDigits? radix (radix.dropMark body) with
  | none => .error .malformed
  | some (digits, rest) =>
    if radix = .decimal ∧ decimalLimit < digits.length then .error (.tooLong digits.length)
    else if rest.all isNumberBlank then
      let size : Int := ofDigits radix.base digits
      .ok (if negative then -size else size)
    else .error .malformed

end RestConnector.Text
