import RestConnector.Path
import RestConnector.Text.Sorted

/-!
# Imports of generated code

The imports of a generated module are computed from the types that it mentions. `referencedNames`
collects the identifiers in a list of types, and `importsFor` gives, for each module that provides some
of them, the names to import from it. The modules of the standard library come first, in alphabetical
order, and then the one of the model library.
-/

namespace RestConnector.Emit

open RestConnector.Text RestConnector.Path

/-- The identifiers of a text, after passing over `skip` characters of one already found. -/
def identifiersFrom : Nat → List Char → List (List Char)
  | _, [] => []
  | skip + 1, _ :: cs => identifiersFrom skip cs
  | 0, c :: cs =>
    if isNameStart c then
      let rest := cs.takeWhile isNameChar
      (c :: rest) :: identifiersFrom rest.length cs
    else identifiersFrom 0 cs

/-- The identifiers that a type mentions. -/
def identifiers (typeText : String) : List String :=
  (identifiersFrom 0 typeText.toList).map String.ofList

/-- The identifiers that appear in a list of types. -/
def referencedNames (types : List String) : List String :=
  types.flatMap identifiers

/-- The module that provides the base class and the field types of models. -/
def modelLibrary : String := "pydantic"

/-- The names that a generated type may use, under the modules that provide them. -/
def importable : List (String × List String) := [
  ("datetime", ["date", "datetime"]),
  ("decimal", ["Decimal"]),
  ("typing", ["Any", "Dict", "List", "Optional", "Protocol"]),
  ("uuid", ["UUID"]),
  (modelLibrary, ["AnyUrl"])]

/-- What has to be imported for a list of types and some further names. -/
def importsFor (types extra : List String) : List (String × List String) :=
  let names := referencedNames types ++ extra
  (importable.map fun entry => (entry.1, entry.2.filter (· ∈ names))).filter fun entry =>
    !entry.2.isEmpty

end RestConnector.Emit
