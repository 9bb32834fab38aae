import RestConnector.Text.Basic
import RestConnector.Text.Digit

/-!
# The words of a name

Names arrive in every style (`first-name`, `userId`, `HTTPResponse`, `item2`), and all of them are
taken apart into the same words. A *word* is a run of digits, a run of capitals, or small letters with
at most one capital in front of them. Every other character only separates.

Whether two neighbouring characters belong to one word is decided by looking at most two characters
ahead (`joins`): small letters join small letters and digits join digits, a capital joins the small
letters behind it, and a capital joins another capital unless that one begins a capitalised word of
its own, as the `R` of `HTTPResponse` does. A name is split by attaching each character to the word
behind it where the two join, so the words of a name, put end to end, are its word characters.

`lastWord?` finds the last word in its surroundings, for the rules that change only that word.
-/

namespace RestConnector.Name

open RestConnector.Text

/-- Whether a character can stand in a word: an ASCII letter or a decimal digit. -/
def isWordChar (c : Char) : Bool :=
  c.isUpper || c.isLower || isDecimal c

/-- Whether the first character of a text is a small letter. -/
def startsLower : List Char → Bool
  | d :: _ => d.isLower
  | [] => false

/-- Whether `c` belongs to the same word as the first of the characters behind it. -/
def joins (c : Char) : List Char → Bool
  | [] => false
  | d :: rest =>
    (c.isLower && d.isLower) ||
    (c.isUpper && d.isLower) ||
    (c.isUpper && d.isUpper && !startsLower rest) ||
    (isDecimal c && isDecimal d)

/-- The words of a list of characters. -/
def wordsOf : List Char → List (List Char)
  | [] => []
  | c :: cs =>
    if isWordChar c then
      if joins c cs then attach c (wordsOf cs) else [c] :: wordsOf cs
    else wordsOf cs

/-- The words of a name. -/
def words (name : String) : List String :=
  (wordsOf name.toList).map String.ofList

/-- A word with the text before it and the text behind it. -/
structure Located where
  before : List Char
  word : List Char
  behind : List Char
deriving DecidableEq, Repr

/-- The text that a located word was found in. -/
def Located.text (found : Located) : List Char :=
  found.before ++ found.word ++ found.behind

/-- The last word of a text, and where it stands. -/
def lastWord? : List Char → Option Located
  | [] => none
  | c :: cs =>
    match lastWord? cs with
    | some found =>
      if found.before.isEmpty && isWordChar c && joins c cs then
        some { found with word := c :: found.word }
      else some { found with before := c :: found.before }
    | none => if isWordChar c then some ⟨[], [c], cs⟩ else none

/-- Nothing is lost: the parts that `lastWord?` tells apart make up the text. -/
theorem text_of_lastWord? {cs : List Char} {found : Located} (h : lastWord? cs = some found) :
    found.text = cs := by
  induction cs generalizing found with
  | nil => simp [lastWord?] at h
  | cons c cs ih =>
    cases hl : lastWord? cs with
    | none =>
      simp only [lastWord?, hl, Option.ite_none_right_eq_some, Option.some.injEq] at h
      obtain ⟨-, rfl⟩ := h
      simp [Located.text]
    | some inner =>
      have hi := ih hl
      simp only [lastWord?, hl] at h
      split at h
      · next hj =>
        simp only [Bool.and_eq_true, List.isEmpty_iff] at hj
        obtain rfl := Option.some.inj h
        simpa [Located.text, hj.1.1] using hi
      · obtain rfl := Option.some.inj h
        simpa [Located.text] using hi

/-! ## Styles -/

/-- A word with a capital first letter. -/
def capitalize : List Char → List Char
  | [] => []
  | c :: cs => c.toUpper :: cs

/-- The words of a name run together, each with a capital first letter: `user_name` is `UserName`. -/
def pascalCase (name : String) : String :=
  String.ofList ((wordsOf name.toList).flatMap capitalize)

/-- The words of a name in small letters with underscores between them: `userName` is `user_name`. -/
def snakeCase (name : String) : String :=
  String.ofList (['_'].intercalate ((wordsOf name.toList).map (·.map Char.toLower)))

end RestConnector.Name
