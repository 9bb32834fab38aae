import RestConnector.Text.PrintTable
import RestConnector.Text.Case
import RestConnector.Text.Hex

/-!
# Quoted text in messages

A message that names a text shows it in quotes (`quoted`), so that a reader can tell where the text
begins and ends and what is in it. Single quotes are used unless the text has a single quote and no
double one. The quote in use and the backslash are escaped; so is everything that would not show: the
usual control characters by letter, any other unprintable character by its code point, with the fewest
of two, four or eight digits that hold it.
-/

namespace RestConnector.Text

/-- Whether a character shows when it is printed. -/
def isPrintable (c : Char) : Bool :=
  !insideFlips unprintableFlips c.toNat

/-- The code point of a character behind a backslash, in two, four or eight digits. -/
def codeEscape (c : Char) : List Char :=
  if c.toNat ≤ 0xFF then '\\' :: 'x' :: hexOfWidth 2 c.toNat
  else if c.toNat ≤ 0xFFFF then '\\' :: 'u' :: hexOfWidth 4 c.toNat
  else '\\' :: 'U' :: hexOfWidth 8 c.toNat

/-- One character of a quoted text. -/
def quotedChar (quote c : Char) : List Char :=
  if c = quote ∨ c = '\\' then ['\\', c]
  else if c = '\t' then ['\\', 't']
  else if c = '\n' then ['\\', 'n']
  else if c = '\r' then ['\\', 'r']
  else if isPrintable c then [c]
  else codeEscape c

/-- The quote that a text is written in. -/
def quoteFor (cs : List Char) : Char :=
  if cs.contains '\'' && !cs.contains '"' then '"' else '\''

/-- The text of a string as a message shows it. -/
def quoted (text : String) : String :=
  let quote := quoteFor text.toList
  String.ofList (quote :: text.toList.flatMap (quotedChar quote) ++ [quote])

end RestConnector.Text
