import RestConnector.Text.Integer

/-!
# UUIDs

A UUID is a number of 128 bits. Its written form is read generously: the texts `urn:` and `uuid:` are
dropped wherever they stand, then braces at the ends, then hyphens. What is left must be 32 characters
long and be a number in base 16.
-/

namespace RestConnector.Scalar

open RestConnector.Text

/-- What is left of the written form of a UUID when its decoration is dropped. -/
def bareUuid (cs : List Char) : List Char :=
  (trimEnds (fun c => c = '{' || c = '}') (replace "uuid:" "" (replace "urn:" "" cs))).filter
    (· != '-')

/-- Whether a text is a UUID, blanks around it apart. -/
def isUuid (text : String) : Bool :=
  let digits := bareUuid (trim text.toList)
  digits.length == 32 &&
    match readInteger .hexadecimal digits with
    | .ok _ => true
    | .error _ => false

end RestConnector.Scalar
