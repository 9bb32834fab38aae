/-!
# JSON values

A decoded JSON document. Integers keep their value; a number with a fraction or an exponent, and the
three number words that JSON proper lacks, keep the text they were written as, because nothing is ever
computed from them. An object is a list of members in the order of the document.

`Members.put` is how an object is built: a key that comes again gives its earlier member a new value
and leaves it where it stands.
-/

namespace RestConnector.Json

/-- A JSON value. -/
inductive Value where
  | null
  | bool (b : Bool)
  | integer (n : Int)
  /-- A number that is not written as an integer. -/
  | decimal (literal : String)
  | string (s : String)
  | array (items : List Value)
  | object (members : List (String × Value))
deriving Repr, BEq, Inhabited

/-- The closed set of kinds a value can have. -/
inductive Kind where
  | string | number | boolean | array | object | null
deriving DecidableEq, Repr

/-- The kind of a value. -/
def Value.kind : Value → Kind
  | .null => .null
  | .bool _ => .boolean
  | .integer _ | .decimal _ => .number
  | .string _ => .string
  | .array _ => .array
  | .object _ => .object

/-- Gives a key a value: in its place if it is there, at the end if it is new. -/
def Members.put {κ α : Type} [DecidableEq κ] (key : κ) (value : α) : List (κ × α) → List (κ × α)
  | [] => [(key, value)]
  | (k, v) :: rest => if k = key then (k, value) :: rest else (k, v) :: Members.put key value rest

/-- The members of an object whose keys may repeat: the last value of a key, at its first place. -/
def Members.ofList {κ α : Type} [DecidableEq κ] (pairs : List (κ × α)) : List (κ × α) :=
  pairs.foldl (fun members pair => Members.put pair.1 pair.2 members) []

/-- The member of an object with a given key. -/
def Value.member? (key : String) : Value → Option Value
  | .object members => members.lookup key
  | _ => none

end RestConnector.Json
