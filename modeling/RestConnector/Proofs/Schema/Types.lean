import RestConnector.Proofs.Schema.Inference
import RestConnector.Proofs.Schema.Members

/-!
# The types of inferred properties

Inference gives a property one of two kinds of types (`Property.IsTyped`).  Without a model of its own, the
property has a type that is put together from the names of scalar types and of containers, none of which
depends on what has been sampled (`IsPlainType`).  With one, its type is the record type of that model, or a
list of it; and then it holds no null.  This is so for all properties of a model that is inferred
(`IsInferred.isTyped`), those of the items of a collection included.
-/

namespace RestConnector.Schema

open RestConnector.Json RestConnector.Name RestConnector.Scalar

/-- The types of scalars, and of what nothing is known about. -/
def scalarTypes : List String :=
  ["Any", "AnyUrl", "Decimal", "UUID", "bool", "date", "datetime", "int", "str"]

/-- A type that mentions no record. -/
inductive IsPlainType : String → Prop where
  | scalar {type : String} : type ∈ scalarTypes → IsPlainType type
  | untyped : IsPlainType "Dict[str, Any]"
  | list {type : String} : IsPlainType type → IsPlainType (listOf type)

/-- The two kinds of types that a property can have. -/
inductive Property.IsTyped (property : Property) : Prop where
  | plain (nested : property.nested = none) (type : IsPlainType property.typeText)
    (null : property.isNullable → property.typeText = "Any") : property.IsTyped
  | record {model : Model} (nested : property.nested = some model)
    (type : property.typeText = model.recordName ∨ property.typeText = listOf model.recordName)
    (null : property.isNullable = false) : property.IsTyped

/-! ## Values -/

lemma any_mem_scalarTypes : "Any" ∈ scalarTypes := by decide

lemma typeText_decimal_mem : decimal.typeText ∈ scalarTypes := by decide

lemma typeText_boolean_mem : boolean.typeText ∈ scalarTypes := by decide

lemma typeText_ofString_mem (text : String) : (ofString text).typeText ∈ scalarTypes := by
  unfold ofString
  split_ifs <;> decide

lemma typeText_ofInteger_mem (n : Int) : (ofInteger n).typeText ∈ scalarTypes := by
  unfold ofInteger
  split_ifs <;> decide

/-- The items of an array have a plain type, objects and arrays included. -/
lemma isPlainType_elementType : (value : Value) → IsPlainType (elementType value).2
  | .null => .scalar any_mem_scalarTypes
  | .array [] => .list (.scalar any_mem_scalarTypes)
  | .array (first :: _) => by
    rw [elementType]
    exact .list (isPlainType_elementType first)
  | .object _ => by
    rw [elementType]
    exact .untyped
  | .string text => by
    rw [elementType]
    exact .scalar (typeText_ofString_mem text)
  | .integer n => by
    rw [elementType]
    exact .scalar (typeText_ofInteger_mem n)
  | .decimal _ => .scalar typeText_decimal_mem
  | .bool _ => .scalar typeText_boolean_mem

lemma isTyped_scalarProperty (key : String) {scalar : Scalar} (h : scalar.typeText ∈ scalarTypes) :
    (scalarProperty key scalar).IsTyped :=
  .plain rfl (.scalar h) fun h => (Bool.false_ne_true h).elim

lemma recordName_withProperties (name : String) (properties : List (String × Property)) :
    (withProperties name properties).recordName = (withProperties name properties).name :=
  rfl

theorem isTyped_propertyOf (key : String) (value : Value) : (propertyOf key value).IsTyped := by
  fun_cases propertyOf key value
  case case1 text => exact isTyped_scalarProperty key (typeText_ofString_mem text)
  case case2 n => exact isTyped_scalarProperty key (typeText_ofInteger_mem n)
  case case3 => exact isTyped_scalarProperty key typeText_decimal_mem
  case case4 => exact isTyped_scalarProperty key typeText_boolean_mem
  case case5 => exact .plain rfl (.scalar any_mem_scalarTypes) fun _ => rfl
  case case6 => exact .plain rfl (.list (.scalar any_mem_scalarTypes)) fun h => (Bool.false_ne_true h).elim
  case case7 members _ model =>
    have htype : model.recordName = model.name := recordName_withProperties _ _
    clear_value model
    exact .record rfl (.inr (congrArg listOf htype.symm)) rfl
  case case8 first _ _ itemKind typeText h =>
    have htype := isPlainType_elementType first
    rw [h] at htype
    exact .plain rfl (.list htype) fun h => (Bool.false_ne_true h).elim
  case case9 members model =>
    have htype : model.recordName = model.name := recordName_withProperties _ _
    clear_value model
    exact .record rfl (.inl htype.symm) rfl

/-! ## Models -/

lemma isTyped_of_mem_propertiesOf {taken : List String} {members : List (String × Value)} :
    ∀ entry ∈ propertiesOf taken members, entry.2.IsTyped := by
  induction members generalizing taken with
  | nil => simp [propertiesOf]
  | cons member rest ih =>
    rw [propertiesOf, List.forall_mem_cons]
    refine ⟨?_, ih⟩
    -- The number behind a name makes no difference to the type.
    cases isTyped_propertyOf member.1 member.2 with
    | plain nested type null => exact .plain nested type null
    | record nested type null => exact .record nested type null

/-- All properties of an inferred model have one of the two kinds of types. -/
theorem IsInferred.isTyped {model : Model} (h : IsInferred model) :
    ∀ property ∈ model.fields, property.IsTyped := by
  cases h with
  | object name members => exact List.forall_mem_map.2 isTyped_of_mem_propertiesOf
  | collection name members => exact List.forall_mem_map.2 isTyped_of_mem_propertiesOf

end RestConnector.Schema
