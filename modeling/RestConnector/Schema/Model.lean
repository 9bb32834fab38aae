import RestConnector.Json.Value
import RestConnector.Scalar.Classify

/-!
# Models

A *model* describes the JSON objects of one kind: its properties in order, each under the name that
the generated record gives it, with the key it has in the document. A property that holds an object, or
an array of objects, has a model of its own. A *collection* is the model of an array of records; its
properties are those of the element, whose type is named apart.

`Model.toJson` is the description of a model in the discovery report.
-/

namespace RestConnector.Schema

open RestConnector.Json RestConnector.Scalar

mutual

/-- One property of a model. -/
structure Property where
  /-- The name of the record field. -/
  name : String
  /-- The key in the document. -/
  key : String
  kind : PropertyKind
  /-- The type that declares the field. -/
  typeText : String
  isNullable : Bool := false
  isCollection : Bool := false
  format : Option String := none
  /-- The kind of the elements of an array. -/
  itemKind : Option PropertyKind := none
  /-- The model of the object, or of the array's elements. -/
  nested : Option Model := none

/-- The description of a kind of JSON object. -/
structure Model where
  name : String
  /-- The name that the model was asked for, before it was made the name of a type. -/
  givenName : String
  properties : List (String × Property) := []
  isCollection : Bool := false
  description : Option String := none
  /-- The record type of a collection's elements. -/
  elementName : Option String := none

end

instance : Inhabited Model := ⟨{ name := "", givenName := "" }⟩

instance : Inhabited Property := ⟨{ name := "", key := "", kind := .unknown, typeText := "Any" }⟩

/-- The record type that is generated for a model. -/
def Model.recordName (model : Model) : String :=
  match model.elementName with
  | some element => if element.isEmpty then model.name else element
  | none => model.name

/-- The properties of a model, without the names they stand under. -/
def Model.fields (model : Model) : List Property :=
  model.properties.map (·.2)

/-- The models of a model's own properties, in order. -/
def Model.nestedModels (model : Model) : List Model :=
  model.fields.filterMap (·.nested)

theorem mem_nestedModels {model nested : Model} :
    nested ∈ model.nestedModels ↔ ∃ entry ∈ model.properties, entry.2.nested = some nested := by
  simp [Model.nestedModels, Model.fields]

/-- The type of a list of things of a type. -/
def listOf (typeText : String) : String :=
  "List[" ++ typeText ++ "]"

/-! ## Description -/

/-- A text, or null for none. -/
def textOrNull : Option String → Value
  | some text => .string text
  | none => .null

mutual

/-- The description of a model. -/
def Model.toJson : Model → Value
  | { name, givenName, properties, isCollection, description, elementName } =>
    .object [
      ("name", .string name),
      ("original_name", .string givenName),
      ("is_collection", .bool isCollection),
      ("element_name", textOrNull elementName),
      ("description", textOrNull description),
      ("properties", .object (propertiesToJson properties))]

/-- The descriptions of properties, under their names. -/
def propertiesToJson : List (String × Property) → List (String × Value)
  | [] => []
  | (key, property) :: rest => (key, property.toJson) :: propertiesToJson rest

/-- The description of a property. -/
def Property.toJson : Property → Value
  | { name, key, kind, typeText, isNullable, isCollection, format, itemKind, nested } =>
    .object [
      ("name", .string name),
      ("original_name", .string key),
      ("kind", .string kind.label),
      ("python_type", .string typeText),
      ("is_nullable", .bool isNullable),
      ("is_collection", .bool isCollection),
      ("format", textOrNull format),
      ("item_kind", textOrNull (itemKind.map PropertyKind.label)),
      ("nested_model", nestedToJson nested)]

/-- The description of a nested model, or null for none. -/
def nestedToJson : Option Model → Value
  | none => .null
  | some model => model.toJson

end

end RestConnector.Schema
