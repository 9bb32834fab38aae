import RestConnector.Text.Basic

/-!
# Blanks

A *blank* is a character that separates words of running text: the ASCII spaces and separators, the
next-line character, and the Unicode space and line separators. Three things are done with blanks: a
text is trimmed of them at its ends (`trim`), it is cut into the chunks between them (`chunks`), and
every run of them is collapsed into one space (`collapse`).
-/

namespace RestConnector.Text

/-- The characters that separate words. -/
def isBlank (c : Char) : Bool :=
  let n := c.toNat
  (0x09 ≤ n && n ≤ 0x0D) || (0x1C ≤ n && n ≤ 0x20) || n == 0x85 || n == 0xA0 || n == 0x1680 ||
  (0x2000 ≤ n && n ≤ 0x200A) || n == 0x2028 || n == 0x2029 || n == 0x202F || n == 0x205F ||
  n == 0x3000

/-- Every character that core counts as white space is a blank. -/
theorem isBlank_of_isWhitespace {c : Char} (h : c.isWhitespace) : isBlank c := by
  simp only [Char.isWhitespace, Bool.or_eq_true, decide_eq_true_eq] at h
  rcases h with ((rfl | rfl) | rfl) | rfl <;> decide

/-- Removes the blanks at both ends. -/
def trim (cs : List Char) : List Char :=
  trimEnds isBlank cs

/-- Whether a text has no character other than blanks. -/
def isAllBlank (text : String) : Bool :=
  text.toList.all isBlank

/-- The maximal runs of characters that are not blanks. -/
def chunks : List Char → List (List Char)
  | [] => []
  | c :: cs =>
    if isBlank c then chunks cs
    else match cs with
      | [] => [[c]]
      | d :: _ => if isBlank d then [c] :: chunks cs else attach c (chunks cs)

/-- Trims a text and makes every run of blanks one space. -/
def collapse (cs : List Char) : List Char :=
  [' '].intercalate (chunks cs)

end RestConnector.Text
