import RestConnector.Json.Value
import RestConnector.Text.Hex

/-!
# Writing JSON

`quote` writes a string in ASCII: the quote and the backslash are escaped, five control characters
have a letter of their own, and every other character outside the printable ASCII range is written by
its UTF-16 code units. `pretty` writes a document over several lines, two spaces deeper at each level;
an empty array or object stays on one line.
-/

namespace RestConnector.Json

open RestConnector.Text

/-- A code unit of UTF-16 behind a backslash. -/
def unitEscape (unit : Nat) : List Char :=
  '\\' :: 'u' :: hexOfWidth 4 unit

/-- A character by its code units, of which it has one or two. -/
def charEscape (c : Char) : List Char :=
  if c.toNat < 0x10000 then unitEscape c.toNat
  else
    unitEscape (0xD800 + (c.toNat - 0x10000) / 0x400) ++
    unitEscape (0xDC00 + (c.toNat - 0x10000) % 0x400)

/-- One character of a quoted string. -/
def quoteChar (c : Char) : List Char :=
  if c = '"' then ['\\', '"']
  else if c = '\\' then ['\\', '\\']
  else if c = '\n' then ['\\', 'n']
  else if c = '\r' then ['\\', 'r']
  else if c = '\t' then ['\\', 't']
  else if c = '\x08' then ['\\', 'b']
  else if c = '\x0C' then ['\\', 'f']
  else if ' ' ≤ c ∧ c ≤ '~' then [c]
  else charEscape c

/-- A string in quotes. -/
def quoteChars (cs : List Char) : List Char :=
  '"' :: cs.flatMap quoteChar ++ ['"']

/-- A string in quotes, in ASCII and on one line. -/
def quote (text : String) : String :=
  String.ofList (quoteChars text.toList)

/-- A line feed and the spaces in front of the next line. -/
def newLine (depth : Nat) : String :=
  String.ofList ('\n' :: List.replicate (2 * depth) ' ')

mutual

/-- A value over several lines, the first of which begins at `depth` levels. -/
def prettyAt (depth : Nat) : Value → String
  | .null => "null"
  | .bool b => if b then "true" else "false"
  | .integer n => toString n
  | .decimal literal => literal
  | .string s => quote s
  | .array [] => "[]"
  | .array (item :: items) =>
    "[" ++ newLine (depth + 1) ++ prettyAt (depth + 1) item ++ prettyItems (depth + 1) items ++
      newLine depth ++ "]"
  | .object [] => "\x7b\x7d"
  | .object ((key, value) :: members) =>
    "\x7b" ++ newLine (depth + 1) ++ quote key ++ ": " ++ prettyAt (depth + 1) value ++
      prettyMembers (depth + 1) members ++ newLine depth ++ "\x7d"

/-- The further items of an array, each behind a comma and on a line of its own. -/
def prettyItems (depth : Nat) : List Value → String
  | [] => ""
  | item :: items => "," ++ newLine depth ++ prettyAt depth item ++ prettyItems depth items

/-- The further members of an object, each behind a comma and on a line of its own. -/
def prettyMembers (depth : Nat) : List (String × Value) → String
  | [] => ""
  | (key, value) :: members =>
    "," ++ newLine depth ++ quote key ++ ": " ++ prettyAt depth value ++ prettyMembers depth members

end

theorem prettyAt_string (depth : Nat) (text : String) : prettyAt depth (.string text) = quote text := by
  rw [prettyAt]

/-- A document over several lines. -/
def pretty (value : Value) : String :=
  prettyAt 0 value

end RestConnector.Json
