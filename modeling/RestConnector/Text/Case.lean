import RestConnector.Text.CaseTable
import RestConnector.Text.Basic

/-!
# Letter case

`upper` and `lower` write a text in one case, by the tables of `CaseTable`. A character of ASCII is
mapped by rule and needs no table. Upper-casing looks at one character at a time. So does
lower-casing, with one exception: the Greek capital sigma has a form of its own at the end of a word.
Where a word ends is judged by the nearest characters on both sides that are not passed over
(`isIgnorable`): the sigma is final when a cased letter stands before it and none stands after it.
-/

namespace RestConnector.Text

/-- Whether `n` lies inside a stretch, given the points at which stretches begin and end. -/
def insideFlips : List Nat → Nat → Bool
  | [], _ => false
  | edge :: edges, n => if n < edge then false else !insideFlips edges n

/-- Whether a code point belongs to a run. -/
def CaseRun.contains (run : CaseRun) (n : Nat) : Bool :=
  run.first ≤ n && n ≤ run.last && (n - run.first) % run.step == 0

/-- The other-case form of one character: its sequence, its place in a run, or itself. -/
def mapCase (runs : List CaseRun) (sequences : List (Nat × List Nat)) (c : Char) : List Char :=
  match sequences.lookup c.toNat with
  | some codes => codes.map Char.ofNat
  | none =>
    match runs.find? (·.contains c.toNat) with
    | some run => [Char.ofNat (c.toNat + run.shift).toNat]
    | none => [c]

/-- The upper-case form of one character. -/
def upperChar (c : Char) : List Char :=
  if c.toNat < 0x80 then [c.toUpper] else mapCase upperRuns upperSequences c

/-- The lower-case form of one character, apart from its surroundings. -/
def lowerChar (c : Char) : List Char :=
  if c.toNat < 0x80 then [c.toLower] else mapCase lowerRuns lowerSequences c

/-- Characters that do not count when the neighbour of a letter is looked for. -/
def isIgnorable (c : Char) : Bool :=
  insideFlips ignorableFlips c.toNat

/-- Letters that have a case, among the characters that count. -/
def isCased (c : Char) : Bool :=
  insideFlips casedFlips c.toNat

/-- Whether the nearest character that counts is a cased letter. -/
def meetsCased (cs : List Char) : Bool :=
  (cs.dropWhile isIgnorable).head?.any isCased

/-- Lower-cases the characters behind `passed`, which holds those before them in reverse. -/
def lowerFrom (passed : List Char) : List Char → List Char
  | [] => []
  | c :: cs =>
    let form :=
      if c = 'Σ' then [if meetsCased passed && !meetsCased cs then 'ς' else 'σ'] else lowerChar c
    form ++ lowerFrom (c :: passed) cs

/-- The lower-case form of a list of characters. -/
def lowerChars (cs : List Char) : List Char :=
  lowerFrom [] cs

/-- The upper-case form of a list of characters. -/
def upperChars (cs : List Char) : List Char :=
  cs.flatMap upperChar

/-- The lower-case form of a text. -/
def lower (text : String) : String :=
  onChars lowerChars text

/-- The upper-case form of a text. -/
def upper (text : String) : String :=
  onChars upperChars text

end RestConnector.Text
