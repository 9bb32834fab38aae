import RestConnector.Json.Value
import RestConnector.Scalar.Timestamp
import RestConnector.Scalar.Uuid
import RestConnector.Url.Parts

/-!
# The types of scalars

A sampled JSON value is given the narrowest type that the generated code can declare for it. A string
is tried as a timestamp, as a UUID and as an absolute URI, in this order, and is a plain string if it
is none of them. A number is an integer of 32 or of 64 bits if it is written as one, and a decimal
otherwise.
-/

namespace RestConnector

open RestConnector.Text

namespace Scalar

/-- The kinds of values that the properties of a model can have. -/
inductive PropertyKind where
  | string | integer | number | boolean | timestamp | uuid | uri | null | array | object | unknown
deriving DecidableEq, Repr

/-- The word for a kind in reports. -/
def PropertyKind.label : PropertyKind → String
  | .string => "string"
  | .integer => "integer"
  | .number => "number"
  | .boolean => "boolean"
  | .timestamp => "date-time"
  | .uuid => "uuid"
  | .uri => "uri"
  | .null => "null"
  | .array => "array"
  | .object => "object"
  | .unknown => "unknown"

end Scalar

/-- What is inferred about a scalar: its kind, a finer format, and the type that declares it. -/
structure Scalar where
  kind : Scalar.PropertyKind
  format : Option String
  typeText : String
deriving DecidableEq, Repr

namespace Scalar

/-- The type of a string. -/
def ofString (text : String) : Scalar :=
  if isTimestamp text then
    if (trim text.toList).length = 10 then ⟨.timestamp, some "date", "date"⟩
    else ⟨.timestamp, some "date-time", "datetime"⟩
  else if isUuid text then ⟨.uuid, some "uuid", "UUID"⟩
  else if Url.isAbsolute text then ⟨.uri, some "uri", "AnyUrl"⟩
  else ⟨.string, none, "str"⟩

/-- Numbers that are not integers of at most 64 bits. -/
def decimal : Scalar := ⟨.number, some "decimal", "Decimal"⟩

/-- The type of an integer. -/
def ofInteger (n : Int) : Scalar :=
  if -2147483648 ≤ n ∧ n ≤ 2147483647 then ⟨.integer, some "int32", "int"⟩
  else if -9223372036854775808 ≤ n ∧ n ≤ 9223372036854775807 then ⟨.integer, some "int64", "int"⟩
  else decimal

/-- The type of a truth value. -/
def boolean : Scalar := ⟨.boolean, none, "bool"⟩

/-- The type of a JSON value that is a scalar. -/
def ofValue? : Json.Value → Option Scalar
  | .string text => some (ofString text)
  | .integer n => some (ofInteger n)
  | .decimal _ => some decimal
  | .bool _ => some boolean
  | .null | .array _ | .object _ => none

end Scalar

end RestConnector
