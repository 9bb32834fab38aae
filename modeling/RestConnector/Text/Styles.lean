import RestConnector.Text.Basic

/-!
# Texts without styles

A terminal takes an escape character, an opening bracket, parameters and a letter as an instruction to
change colour or style. `withoutStyles` removes such instructions from a text. An escape character that
begins no complete instruction stays.
-/

namespace RestConnector.Text

/-- The characters of which the parameters of an instruction consist. -/
def isStyleParameter (c : Char) : Bool :=
  c = ';' || c = '?' || ('0' ≤ c && c ≤ '9')

/-- The letters of either case that end an instruction. -/
def isStyleLetter (c : Char) : Bool :=
  ('a' ≤ c && c ≤ 'z') || ('A' ≤ c && c ≤ 'Z')

/-- The length of the parameters and the letter at the front of a text. -/
def styleTail? : List Char → Option Nat
  | [] => none
  | c :: cs =>
    if isStyleLetter c then some 1
    else if isStyleParameter c then (styleTail? cs).map (· + 1)
    else none

/-- The length of the instruction at the front of a text. -/
def style? : List Char → Option Nat
  | '\x1B' :: '[' :: cs => (styleTail? cs).map (· + 2)
  | _ => none

/-- Removes the instructions of a text, after passing over `skip` characters of one. -/
def dropStyles : Nat → List Char → List Char
  | _, [] => []
  | skip + 1, _ :: cs => dropStyles skip cs
  | 0, c :: cs =>
    match style? (c :: cs) with
    | some length => dropStyles (length - 1) cs
    | none => c :: dropStyles 0 cs

/-- A text without the instructions in it. -/
def withoutStyles (text : String) : String :=
  onChars (dropStyles 0) text

end RestConnector.Text
