import RestConnector.Name.Words

/-!
# Identifiers of the generated language

A name that is to stand in generated Python code must not begin with a digit, must not be a keyword,
and must not be empty. `safeIdentifier` mends a member name, `typeName` builds the name of a type and
`fieldName` that of a record field, which must also stay clear of the names that every generated record
class already has.
-/

namespace RestConnector.Name

open RestConnector.Text

/-- The reserved words of Python. -/
def keywords : List String := [
  "False", "None", "True", "and", "as", "assert", "async", "await", "break", "class", "continue",
  "def", "del", "elif", "else", "except", "finally", "for", "from", "global", "if", "import", "in",
  "is", "lambda", "nonlocal", "not", "or", "pass", "raise", "return", "try", "while", "with", "yield"]

/-- The names that a record class has of its own, and the types that its module may import. -/
def reservedFields : List String := [
  "construct", "copy", "dict", "fields", "from_orm", "json", "model_config", "model_fields",
  "parse_obj", "parse_file", "parse_raw", "schema", "schema_json", "update_forward_refs", "validate",
  "date", "datetime"]

/-- Whether a name begins with a digit of any kind. -/
def startsWithDigit (name : String) : Bool :=
  name.toList.head?.any isDigit

/-- A keyword gets an underscore behind it. -/
def avoidKeyword (name : String) : String :=
  if name ∈ keywords then name ++ "_" else name

/-- Makes a name usable as an identifier. An empty name is replaced by `fallback`. -/
def safeIdentifier (name fallback : String) : String :=
  if name.isEmpty then fallback
  else avoidKeyword (if startsWithDigit name then "_" ++ name else name)

/-- The name of a type: Pascal case, with `fallback` before a digit or in place of nothing. -/
def typeName (name fallback : String) : String :=
  let pascal := pascalCase name
  if pascal.isEmpty then fallback
  else avoidKeyword (if startsWithDigit pascal then fallback ++ pascal else pascal)

/-- The name of the record field that holds the value of a key. -/
def fieldName (key : String) : String :=
  let snake := snakeCase key
  if snake.isEmpty then "field"
  else
    let led := if startsWithDigit snake then "field_" ++ snake else snake
    let free := if led ∈ reservedFields then led ++ "_" else led
    safeIdentifier free "value"

end RestConnector.Name
