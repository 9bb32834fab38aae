import RestConnector.Json.Printer
import RestConnector.Text.Blank

/-!
# Text in generated code

A text reaches generated Python code in one of two forms. A *string literal* denotes the text exactly
and is written like a JSON string, whose escapes the two languages share. A *docstring* is for readers:
its runs of blanks are collapsed, so that it stays on one line, and its backslashes and quotes are
escaped, so that no text can end it early.
-/

namespace RestConnector.Emit

open RestConnector.Text

/-- A string literal that denotes a text. -/
def stringLiteral (text : String) : String :=
  Json.quote text

/-- A character inside a docstring. -/
def docChar (c : Char) : List Char :=
  if c = '\\' then ['\\', '\\'] else if c = '"' then ['\\', '"'] else [c]

/-- The three quotes that open and close a docstring. -/
def docQuotes : String := "\"\"\""

/-- A docstring on one line. -/
def docLine (indent text : String) : String :=
  indent ++ docQuotes ++ onChars (fun cs => (collapse cs).flatMap docChar) text ++ docQuotes

end RestConnector.Emit
