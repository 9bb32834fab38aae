import RestConnector.Json.Value
import RestConnector.Text.Hex
import RestConnector.Text.Integer

/-!
# Reading JSON

`Json.read?` decodes a document, or says that it is none. It follows the grammar of JSON, with four
decisions of its own: the words `NaN`, `Infinity` and `-Infinity` are numbers; an integer of more
digits than `Text.decimalLimit` makes the whole document unreadable; of a key that comes twice the
last value counts; a surrogate that stands alone is read as the replacement character.

The readers of values, items and members call one another. Each call spends one unit of fuel, and
each consumes a character, so the length of the document is fuel enough.
-/

namespace RestConnector.Json

open RestConnector.Text

/-- The blanks of JSON. -/
def isJsonBlank (c : Char) : Bool :=
  c = ' ' || c = '\t' || c = '\n' || c = '\r'

/-- Passes over blanks. -/
def skipBlanks (cs : List Char) : List Char :=
  cs.dropWhile isJsonBlank

/-! ## Strings -/

/-- The value of four hexadecimal digits. -/
def hexQuad? (a b c d : Char) : Option Nat := do
  let a ← hexValue? a
  let b ← hexValue? b
  let c ← hexValue? c
  let d ← hexValue? d
  some (((a * 16 + b) * 16 + c) * 16 + d)

/-- Whether a number is the first half of a surrogate pair. -/
def isHighSurrogate (n : Nat) : Bool := 0xD800 ≤ n && n ≤ 0xDBFF

/-- Whether a number is the second half of a surrogate pair. -/
def isLowSurrogate (n : Nat) : Bool := 0xDC00 ≤ n && n ≤ 0xDFFF

/-- The character that a surrogate pair stands for. -/
def ofSurrogates (high low : Nat) : Char :=
  Char.ofNat (0x10000 + (high - 0xD800) * 0x400 + (low - 0xDC00))

/-- The character of a code unit on its own. -/
def ofUnit (n : Nat) : Char :=
  if isHighSurrogate n || isLowSurrogate n then '\uFFFD' else Char.ofNat n

/-- The character that a letter behind a backslash stands for. -/
def unescape? (c : Char) : Option Char :=
  match c with
  | '"' => some '"'
  | '\\' => some '\\'
  | '/' => some '/'
  | 'b' => some '\x08'
  | 'f' => some '\x0C'
  | 'n' => some '\n'
  | 'r' => some '\r'
  | 't' => some '\t'
  | _ => none

/-- Puts a character in front of what has been read. -/
def pushChar (c : Char) (read : Option (List Char × List Char)) :
    Option (List Char × List Char) :=
  read.map fun (text, rest) => (c :: text, rest)

/-- Reads a string behind its opening quote. -/
def readString : List Char → Option (List Char × List Char)
  | [] => none
  | '"' :: rest => some ([], rest)
  | '\\' :: 'u' :: a :: b :: c :: d :: rest =>
    match hexQuad? a b c d with
    | none => none
    | some unit =>
      match rest with
      | '\\' :: 'u' :: e :: f :: g :: h :: behind =>
        match isHighSurrogate unit, hexQuad? e f g h with
        | true, some low =>
          if isLowSurrogate low then pushChar (ofSurrogates unit low) (readString behind)
          else pushChar (ofUnit unit) (readString ('\\' :: 'u' :: e :: f :: g :: h :: behind))
        | _, _ => pushChar (ofUnit unit) (readString ('\\' :: 'u' :: e :: f :: g :: h :: behind))
      | rest => pushChar (ofUnit unit) (readString rest)
  | '\\' :: c :: rest =>
    match unescape? c with
    | some plain => pushChar plain (readString rest)
    | none => none
  | c :: rest => if c.toNat < 0x20 then none else pushChar c (readString rest)

/-- A string ends at the first quote that is not escaped. -/
theorem readString_quote (rest : List Char) : readString ('"' :: rest) = some ([], rest) := by
  rw [readString]

/-! ## Numbers -/

/-- Splits the leading ASCII digits off a text. -/
def spanDigits (cs : List Char) : List Char × List Char :=
  (cs.takeWhile Char.isDigit, cs.dropWhile Char.isDigit)

/-- Reads the digits of an integer: a zero alone, or digits that do not begin with zero. -/
def readWhole : List Char → Option (List Char × List Char)
  | '0' :: rest => some (['0'], rest)
  | cs =>
    match spanDigits cs with
    | ([], _) => none
    | split => some split

/-- Reads a point with the digits behind it, if both are there. -/
def readFraction : List Char → List Char × List Char
  | '.' :: cs =>
    match spanDigits cs with
    | ([], _) => ([], '.' :: cs)
    | (digits, rest) => ('.' :: digits, rest)
  | cs => ([], cs)

/-- Splits the sign of an exponent off. -/
def spanSign : List Char → List Char × List Char
  | '+' :: cs => (['+'], cs)
  | '-' :: cs => (['-'], cs)
  | cs => ([], cs)

/-- Reads an exponent, if its letter is followed by digits. -/
def readExponent : List Char → List Char × List Char
  | [] => ([], [])
  | c :: cs =>
    if c = 'e' ∨ c = 'E' then
      let (sign, body) := spanSign cs
      match spanDigits body with
      | ([], _) => ([], c :: cs)
      | (digits, rest) => (c :: sign ++ digits, rest)
    else ([], c :: cs)

/-- The value of ASCII digits. -/
def valueOfDigits (digits : List Char) : Nat :=
  ofDigits 10 (digits.map fun c => c.toNat - 48)

/-- Reads a number without its sign. -/
def readUnsigned (negative : Bool) (cs : List Char) : Option (Value × List Char) := do
  let (whole, rest) ← readWhole cs
  let (fraction, rest) := readFraction rest
  let (exponent, rest) := readExponent rest
  let sign := if negative then ['-'] else []
  if fraction.isEmpty && exponent.isEmpty then
    if decimalLimit < whole.length then none
    else
      let size : Int := valueOfDigits whole
      some (.integer (if negative then -size else size), rest)
  else some (.decimal (String.ofList (sign ++ whole ++ fraction ++ exponent)), rest)

/-- Reads a number. -/
def readNumber : List Char → Option (Value × List Char)
  | '-' :: cs => readUnsigned true cs
  | cs => readUnsigned false cs

/-! ## Words -/

/-- The words that stand for a value by themselves. -/
def words : List (String × Value) :=
  [("null", .null), ("true", .bool true), ("false", .bool false),
    ("NaN", .decimal "NaN"), ("Infinity", .decimal "Infinity"),
    ("-Infinity", .decimal "-Infinity")]

/-- Reads one of the words. -/
def readWord (cs : List Char) : Option (Value × List Char) :=
  (words.find? fun word => word.1.toList.isPrefixOf cs).map fun word =>
    (word.2, cs.drop word.1.length)

/-! ## Values -/

mutual

/-- Reads a value at the front of a text. -/
def readValue : Nat → List Char → Option (Value × List Char)
  | 0, _ => none
  | fuel + 1, cs =>
    match cs with
    | '"' :: rest => (readString rest).map fun (text, rest) => (.string (String.ofList text), rest)
    | '[' :: rest =>
      match skipBlanks rest with
      | ']' :: rest => some (.array [], rest)
      | rest => (readItems fuel rest).map fun (items, rest) => (.array items, rest)
    | '{' :: rest =>
      match skipBlanks rest with
      | '}' :: rest => some (.object [], rest)
      | rest =>
        (readMembers fuel rest).map fun (members, rest) => (.object (Members.ofList members), rest)
    | cs => (readWord cs).or (readNumber cs)

/-- Reads the items of an array up to its closing bracket. -/
def readItems : Nat → List Char → Option (List Value × List Char)
  | 0, _ => none
  | fuel + 1, cs =>
    match readValue fuel cs with
    | none => none
    | some (item, rest) =>
      match skipBlanks rest with
      | ',' :: rest => (readItems fuel (skipBlanks rest)).map fun (items, rest) => (item :: items, rest)
      | ']' :: rest => some ([item], rest)
      | _ => none

/-- Reads the members of an object up to its closing brace. -/
def readMembers : Nat → List Char → Option (List (String × Value) × List Char)
  | 0, _ => none
  | fuel + 1, cs =>
    match cs with
    | '"' :: rest =>
      match readString rest with
      | none => none
      | some (key, rest) =>
        match skipBlanks rest with
        | ':' :: rest =>
          match readValue fuel (skipBlanks rest) with
          | none => none
          | some (value, rest) =>
            match skipBlanks rest with
            | ',' :: rest =>
              (readMembers fuel (skipBlanks rest)).map fun (members, rest) =>
                ((String.ofList key, value) :: members, rest)
            | '}' :: rest => some ([(String.ofList key, value)], rest)
            | _ => none
        | _ => none
    | _ => none

end

/-- Decodes a whole document, blanks around it included. -/
def readChars? (cs : List Char) : Option Value :=
  match readValue (cs.length + 1) (skipBlanks cs) with
  | some (value, rest) => if (skipBlanks rest).isEmpty then some value else none
  | none => none

/-- Decodes a JSON document. -/
def read? (text : String) : Option Value :=
  readChars? text.toList

end RestConnector.Json
