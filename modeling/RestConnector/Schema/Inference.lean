import RestConnector.Json.Reader
import RestConnector.Name.Fresh
import RestConnector.Name.Inflection
import RestConnector.Path
import RestConnector.Schema.Model

/-!
# Inference of models

A model is inferred from one sampled response. An object gives the model of its members, in order and
one property for each; an array gives a collection, described by its first element, provided that this
is an object. Nested objects, and the first elements of nested arrays, are inferred in the same way.

Different keys may normalise to one field name; the later ones are then numbered (`Name.freshName`), so
that no property is lost. `infer?` starts from the text of a response and the path it was fetched from,
which names the model.
-/

namespace RestConnector.Schema

open RestConnector.Json RestConnector.Name RestConnector.Scalar

/-- The kind and type of an array's element. Objects inside nested arrays stay untyped. -/
def elementType : Value → PropertyKind × String
  | .null => (.null, "Any")
  | .array [] => (.array, listOf "Any")
  | .array (first :: _) => (.array, listOf (elementType first).2)
  | .object _ => (.object, "Dict[str, Any]")
  | .string text => let scalar := ofString text; (scalar.kind, scalar.typeText)
  | .integer n => let scalar := ofInteger n; (scalar.kind, scalar.typeText)
  | .decimal _ => (decimal.kind, decimal.typeText)
  | .bool _ => (boolean.kind, boolean.typeText)

/-- The property of a key whose value is a scalar. -/
def scalarProperty (key : String) (scalar : Scalar) : Property :=
  { name := fieldName key, key
    kind := scalar.kind, typeText := scalar.typeText, format := scalar.format }

/-- The model that is asked for under a name and has the given properties. -/
def withProperties (name : String) (properties : List (String × Property)) : Model :=
  { name := typeName name "Item", givenName := name, properties }

mutual

/-- The properties of an object's members, under names that differ from those already taken. -/
def propertiesOf (taken : List String) : List (String × Value) → List (String × Property)
  | [] => []
  | (key, value) :: rest =>
    let name := freshName taken (fieldName key)
    (name, { propertyOf key value with name }) :: propertiesOf (name :: taken) rest

/-- The property of a key and its value, under the field name of the key. -/
def propertyOf (key : String) : Value → Property
  | .string text => scalarProperty key (ofString text)
  | .integer n => scalarProperty key (ofInteger n)
  | .decimal _ => scalarProperty key decimal
  | .bool _ => scalarProperty key boolean
  | .null =>
    { name := fieldName key, key, kind := .null, typeText := "Any"
      isNullable := true }
  | .array [] =>
    { name := fieldName key, key, kind := .array, typeText := listOf "Any"
      isCollection := true, itemKind := some .unknown }
  | .array (.object members :: _) =>
    let model := withProperties (singularize (typeName key "Item")) (propertiesOf [] members)
    { name := fieldName key, key, kind := .array, typeText := listOf model.name
      isCollection := true, itemKind := some .object, nested := some model }
  | .array (first :: _) =>
    let (itemKind, typeText) := elementType first
    { name := fieldName key, key, kind := .array, typeText := listOf typeText
      isCollection := true, itemKind := some itemKind }
  | .object members =>
    let model := withProperties (typeName key "Item") (propertiesOf [] members)
    { name := fieldName key, key, kind := .object, typeText := model.name
      nested := some model }

end

/-- The model of an object with the given members. -/
def modelOf (name : String) (members : List (String × Value)) : Model :=
  withProperties name (propertiesOf [] members)

/-- Whether a text, blanks around it apart, is wrapped in braces or in square brackets. -/
def looksLikeJson (content : String) : Bool :=
  let cs := Text.trim content.toList
  (cs.head? = some '{' && cs.getLast? = some '}') || (cs.head? = some '[' && cs.getLast? = some ']')

/-- The model of a collection whose elements are described by `element`. -/
def collectionOf (name : String) (element : Model) : Model :=
  { name := pluralize name, givenName := name, properties := element.properties
    isCollection := true, description := some ("Collection of " ++ element.name ++ " items")
    elementName := some element.name }

/-- The model of a decoded response that is to be called `name`. -/
def ofDocument? (name : String) : Value → Option Model
  | .object members => some (modelOf name members)
  | .array (.object members :: _) => some (collectionOf name (modelOf (singularize name) members))
  | _ => none

/-- The model of a response with the given text from the given path. -/
def infer? (content path : String) : Option Model :=
  if looksLikeJson content then (read? content).bind (ofDocument? (Path.modelName path)) else none

/-! ## Look-up -/

/-- The schema that serves a resource: the first whose name is, letter case apart, that of the
resource, of its singular or of its plural. -/
def find? (resource : String) (schemas : List (String × Model)) : Option Model :=
  if resource.isEmpty then none
  else
    let candidates := [Text.lower resource, Text.lower (singularize resource),
      Text.lower (pluralize resource)]
    (schemas.find? fun schema => Text.lower schema.2.name ∈ candidates).map (·.2)

end RestConnector.Schema
