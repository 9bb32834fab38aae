/-!
# Text as a list of characters

A rule about text in this library is a recursion over the characters of the text, so it is written
over `List Char`; records hold `String`, and `Text.onChars` carries a rule from one to the other. This
module has the operations every other rule is built from: removing characters at the ends, cutting a
text at a separator, and replacing one text by another.

Each operation runs once over the characters from the left. `replace` leaves what it has written
alone: it goes on behind a replaced occurrence, never inside it.
-/

namespace RestConnector.Text

/-- Carries a rule on lists of characters over to strings. -/
def onChars (rule : List Char → List Char) (text : String) : String :=
  String.ofList (rule text.toList)

@[simp] theorem toList_onChars (rule : List Char → List Char) (text : String) :
    (onChars rule text).toList = rule text.toList := by
  simp [onChars]

/-! ## Ends -/

/-- Removes the characters that `drops` accepts from the end. -/
def trimRight (drops : Char → Bool) (cs : List Char) : List Char :=
  (cs.reverse.dropWhile drops).reverse

/-- Removes the characters that `drops` accepts from both ends. -/
def trimEnds (drops : Char → Bool) (cs : List Char) : List Char :=
  trimRight drops (cs.dropWhile drops)

/-- All but the last `n` characters. -/
def dropEnd (n : Nat) (cs : List Char) : List Char :=
  cs.take (cs.length - n)

/-- Whether a string begins with another. -/
def startsWith (start text : String) : Bool :=
  start.toList.isPrefixOf text.toList

/-- Whether a string ends with another. -/
def endsWith (ending text : String) : Bool :=
  ending.toList.isSuffixOf text.toList

/-! ## Separators -/

/-- Puts a character at the front of the first piece, or makes it a piece of its own. -/
def attach (c : Char) : List (List Char) → List (List Char)
  | [] => [[c]]
  | piece :: pieces => (c :: piece) :: pieces

/-- Cuts a text at every `separator`. There is one piece more than there are separators. -/
def cutAt (separator : Char) : List Char → List (List Char)
  | [] => [[]]
  | c :: cs => if c = separator then [] :: cutAt separator cs else attach c (cutAt separator cs)

/-- The part of a text before the first `separator`, or all of it. -/
def before (separator : Char) (cs : List Char) : List Char :=
  cs.takeWhile (· != separator)

/-- The part of a text behind the first `separator`, if it has one. -/
def behind? (separator : Char) : List Char → Option (List Char)
  | [] => none
  | c :: cs => if c = separator then some cs else behind? separator cs

/-! ## Replacement -/

/-- Replaces occurrences of `old`, after passing over `skip` characters that were replaced. -/
def replaceFrom (old new : List Char) : Nat → List Char → List Char
  | _, [] => []
  | skip + 1, _ :: cs => replaceFrom old new skip cs
  | 0, c :: cs =>
    if old.isPrefixOf (c :: cs) then new ++ replaceFrom old new (old.length - 1) cs
    else c :: replaceFrom old new 0 cs

/-- Replaces every occurrence of a non-empty text, from the left and without overlap. -/
def replace (old new : String) (cs : List Char) : List Char :=
  replaceFrom old.toList new.toList 0 cs

/-! ## Lines -/

/-- The lines of a source file, each closed by a line feed. -/
def unlines (lines : List String) : String :=
  String.intercalate "\n" lines ++ "\n"

/-- Quotation of several names in one list: the names with a comma and a space between them. -/
def commaList (names : List String) : String :=
  String.intercalate ", " names

end RestConnector.Text
