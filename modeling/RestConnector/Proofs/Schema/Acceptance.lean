import Mathlib.Data.List.Forall2
import Mathlib.Logic.Function.Iterate
import RestConnector.Proofs.Scalar.Classify
import RestConnector.Proofs.Schema.Members

/-!
# What models accept

A model accepts an object if it has a property for every member, in order and under its key, and every
property accepts the value of its member (`Model.Accepts`).  What a property accepts is a matter of its kind,
its format, the kind of its items and the model nested in it; and its type must be that of the value
(`HasTypeOf`), which is the type of what stands inside all arrays, wrapped in one list for each of them.

Of an array only the first item is looked at.  So the model of an object need not accept the object, but it
accepts what is left of it when every array is cut to its first item, at any depth (`accepts_cut`).

Members and their values are gone through together (`accepts_propertyOf`, `acceptValues_propertiesOf`).
Arrays in arrays are gone through apart, for their type alone (`hasItemType_elementType`): the objects in them
have no model, so nothing is asked of their members.
-/

namespace RestConnector.Schema

open RestConnector.Json RestConnector.Name RestConnector.Scalar

/-! ## First items -/

mutual

/-- A value in which every array is cut to its first item. -/
def cut : Value → Value
  | .array [] => .array []
  | .array (first :: _) => .array [cut first]
  | .object members => .object (cutMembers members)
  | .null => .null
  | .bool b => .bool b
  | .integer n => .integer n
  | .decimal literal => .decimal literal
  | .string text => .string text

/-- The members of an object with their values cut. -/
def cutMembers : List (String × Value) → List (String × Value)
  | [] => []
  | (key, value) :: rest => (key, cut value) :: cutMembers rest

end

/-- How many arrays a value begins with, each in the one before. -/
def depth : Value → Nat
  | .array [] => 1
  | .array (first :: _) => depth first + 1
  | _ => 0

/-- What stands inside these arrays, unless the last one is empty. -/
def innermost? : Value → Option Value
  | .array [] => none
  | .array (first :: _) => innermost? first
  | value => some value

/-! ## Types -/

/-- Whether something that stands inside some arrays has a type.  An object has that of its model, but there is
none for objects in arrays of arrays. -/
inductive HasItemType (nested : Option Model) (arrays : Nat) : Option Value → String → Prop where
  | nothing : HasItemType nested arrays none "Any"
  | null : HasItemType nested arrays (some .null) "Any"
  | scalar {scalar : Scalar} {value : Value} (described : scalar.Describes value) :
    HasItemType nested arrays (some value) scalar.typeText
  | record {model : Model} {members : List (String × Value)} (outer : arrays ≤ 1)
    (model_eq : nested = some model) : HasItemType nested arrays (some (.object members)) model.name
  | untyped {members : List (String × Value)} (inner : 1 < arrays) :
    HasItemType nested arrays (some (.object members)) "Dict[str, Any]"

/-- Whether a property has the type of a value: that of what stands inside its arrays, wrapped in a list for
each array. -/
def Property.HasTypeOf (property : Property) (value : Value) : Prop :=
  ∃ item, HasItemType property.nested (depth value) (innermost? value) item ∧
    property.typeText = listOf^[depth value] item

/-! ## Acceptance -/

mutual

/-- Whether a model accepts a value: an object with the keys of its properties, in order, of which every value
is accepted by its property. -/
inductive Model.Accepts : Model → Value → Prop where
  | object {model : Model} {members : List (String × Value)}
    (keys : model.fields.map (·.key) = members.map (·.1))
    (values : List.Forall₂ (fun property member => Property.Accepts property member.2)
      model.fields members) : Model.Accepts model (.object members)

/-- Whether a property accepts a value, and has its type. -/
inductive Property.Accepts : Property → Value → Prop where
  | scalar {property : Property} {scalar : Scalar} {value : Value} (described : scalar.Describes value)
    (kind : property.kind = scalar.kind) (format : property.format = scalar.format)
    (type : property.HasTypeOf value) : Property.Accepts property value
  | null {property : Property} (kind : property.kind = .null) (type : property.HasTypeOf .null) :
    Property.Accepts property .null
  | object {property : Property} {model : Model} {value : Value} (kind : property.kind = .object)
    (nested : property.nested = some model) (accepted : Model.Accepts model value)
    (type : property.HasTypeOf value) : Property.Accepts property value
  | empty {property : Property} (kind : property.kind = .array)
    (items : property.itemKind = some .unknown) (type : property.HasTypeOf (.array [])) :
    Property.Accepts property (.array [])
  | array {property : Property} {itemKind : PropertyKind} {item : Value}
    (kind : property.kind = .array) (items : property.itemKind = some itemKind)
    (accepted : AcceptsItem itemKind property.nested item) (type : property.HasTypeOf (.array [item])) :
    Property.Accepts property (.array [item])

/-- Whether the item of an array is accepted by the kind and the model of the items. -/
inductive AcceptsItem : PropertyKind → Option Model → Value → Prop where
  | scalar {nested : Option Model} {scalar : Scalar} {item : Value} (described : scalar.Describes item) :
    AcceptsItem scalar.kind nested item
  | null {nested : Option Model} : AcceptsItem .null nested .null
  | object {model : Model} {item : Value} (accepted : Model.Accepts model item) :
    AcceptsItem .object (some model) item
  | array {nested : Option Model} (items : List Value) : AcceptsItem .array nested (.array items)

end

/-- Whether properties accept the values of members, one by one. -/
def AcceptValues (properties : List Property) (members : List (String × Value)) : Prop :=
  List.Forall₂ (fun property member => property.Accepts member.2) properties members

/-! ## Scalars -/

lemma depth_of_describes {scalar : Scalar} {value : Value} (h : scalar.Describes value) :
    depth value = 0 ∧ innermost? value = some value := by
  cases h <;> exact ⟨rfl, rfl⟩

lemma accepts_scalarProperty (key : String) {scalar : Scalar} {value : Value}
    (h : scalar.Describes value) : (scalarProperty key scalar).Accepts value := by
  obtain ⟨hdepth, hinner⟩ := depth_of_describes h
  have htype : (scalarProperty key scalar).HasTypeOf value := by
    rw [Property.HasTypeOf, hdepth, hinner]
    exact ⟨_, .scalar h, rfl⟩
  exact .scalar h rfl rfl htype

/-! ## Items of arrays -/

/-- The type that is inferred for an item of an array is that of what stands inside of it.  For an object this
holds in arrays of arrays only, where it has no model. -/
theorem hasItemType_elementType (arrays : Nat) : (item : Value) → (item.kind = .object → 0 < arrays) →
    ∃ type, HasItemType none (arrays + 1 + depth (cut item)) (innermost? (cut item)) type ∧
      (elementType item).2 = listOf^[depth (cut item)] type
  | .null, _ => ⟨_, .null, rfl⟩
  | .bool b, _ => ⟨_, .scalar (.boolean b), rfl⟩
  | .integer n, _ => ⟨_, .scalar (describes_ofInteger n), rfl⟩
  | .decimal literal, _ => ⟨_, .scalar (.decimal literal), rfl⟩
  | .string text, _ => ⟨_, .scalar (describes_ofString text), rfl⟩
  | .object members, h => ⟨_, .untyped (Nat.lt_add_of_pos_left (h rfl)), rfl⟩
  | .array [], _ => ⟨_, .nothing, rfl⟩
  | .array (first :: rest), _ => by
    obtain ⟨type, htype, heq⟩ := hasItemType_elementType (arrays + 1) first fun _ => Nat.succ_pos _
    rw [Nat.add_right_comm, Nat.add_assoc] at htype
    refine ⟨type, htype, ?_⟩
    rw [elementType, heq]
    exact (Function.iterate_succ_apply' listOf _ type).symm

lemma acceptsItem_elementType {item : Value} (h : item.kind ≠ .object) :
    AcceptsItem (elementType item).1 none (cut item) := by
  cases item with
  | null => exact .null
  | bool b => exact .scalar (.boolean b)
  | integer n => exact .scalar (describes_ofInteger n)
  | decimal literal => exact .scalar (.decimal literal)
  | string text => exact .scalar (describes_ofString text)
  | array items =>
    cases items with
    | nil => exact .array []
    | cons first rest => exact .array [cut first]
  | object members => exact absurd rfl h

lemma propertyOf_array (key : String) {first : Value} (h : first.kind ≠ .object) (rest : List Value) :
    propertyOf key (.array (first :: rest)) =
      { name := fieldName key, key, kind := .array, typeText := listOf (elementType first).2
        isCollection := true, itemKind := some (elementType first).1 } := by
  rw [propertyOf]
  rintro members rfl
  exact h rfl

lemma accepts_propertyOf_array (key : String) {first : Value} (h : first.kind ≠ .object)
    (rest : List Value) :
    (propertyOf key (.array (first :: rest))).Accepts (cut (.array (first :: rest))) := by
  obtain ⟨type, htype, heq⟩ := hasItemType_elementType 0 first fun hobject => absurd hobject h
  rw [propertyOf_array key h, cut]
  refine .array rfl rfl (acceptsItem_elementType h) ⟨type, ?_, ?_⟩
  · rwa [Nat.zero_add, Nat.add_comm] at htype
  · rw [heq, depth, Function.iterate_succ_apply']

/-! ## Objects -/

/-- The name under which a property stands is no matter of what it accepts. -/
lemma Property.Accepts.rename {property : Property} {value : Value} (h : property.Accepts value)
    (name : String) : { property with name := name }.Accepts value := by
  cases h with
  | scalar described kind format type => exact .scalar described kind format type
  | null kind type => exact .null kind type
  | object kind nested accepted type => exact .object kind nested accepted type
  | empty kind items type => exact .empty kind items type
  | array kind items accepted type => exact .array kind items accepted type

lemma keys_cutMembers (members : List (String × Value)) :
    (cutMembers members).map (·.1) = members.map (·.1) := by
  induction members with
  | nil => rw [cutMembers]
  | cons member rest ih => rw [cutMembers, List.map_cons, List.map_cons, ih]

/-- If the properties accept the values of the members, the model accepts the object. -/
lemma accepts_withProperties (name : String) {members : List (String × Value)}
    (h : AcceptValues ((propertiesOf [] members).map (·.2)) (cutMembers members)) :
    (withProperties name (propertiesOf [] members)).Accepts (.object (cutMembers members)) := by
  refine .object ?_ h
  rw [keys_cutMembers]
  exact keys_propertiesOf [] members

/-- A property that holds an object accepts it if its model does. -/
lemma accepts_propertyOf_object (key : String) {members : List (String × Value)}
    (h : AcceptValues ((propertiesOf [] members).map (·.2)) (cutMembers members)) :
    (propertyOf key (.object members)).Accepts (cut (.object members)) := by
  have haccepts := accepts_withProperties (typeName key "Item") h
  rw [propertyOf, cut]
  generalize withProperties (typeName key "Item") (propertiesOf [] members) = model at haccepts ⊢
  exact .object rfl rfl haccepts ⟨_, .record (Nat.zero_le 1) rfl, rfl⟩

/-- A property that holds an array of objects accepts the first of them if its model does. -/
lemma accepts_propertyOf_objects (key : String) {members : List (String × Value)}
    (h : AcceptValues ((propertiesOf [] members).map (·.2)) (cutMembers members)) (rest : List Value) :
    (propertyOf key (.array (.object members :: rest))).Accepts
      (cut (.array (.object members :: rest))) := by
  have haccepts := accepts_withProperties (singularize (typeName key "Item")) h
  rw [propertyOf, cut, cut]
  generalize withProperties (singularize (typeName key "Item")) (propertiesOf [] members) = model
    at haccepts ⊢
  exact .array rfl rfl (.object haccepts) ⟨_, .record (Nat.le_refl 1) rfl, rfl⟩

mutual

theorem accepts_propertyOf (key : String) : (value : Value) → (propertyOf key value).Accepts (cut value)
  | .null => .null rfl ⟨_, .null, rfl⟩
  | .bool b => accepts_scalarProperty key (.boolean b)
  | .integer n => accepts_scalarProperty key (describes_ofInteger n)
  | .decimal literal => accepts_scalarProperty key (.decimal literal)
  | .string text => accepts_scalarProperty key (describes_ofString text)
  | .array [] => .empty rfl rfl ⟨_, .nothing, rfl⟩
  | .array (.null :: _) | .array (.bool _ :: _) | .array (.integer _ :: _)
  | .array (.decimal _ :: _) | .array (.string _ :: _) | .array (.array _ :: _) =>
    accepts_propertyOf_array key (by simp [Value.kind]) _
  | .array (.object members :: rest) =>
    accepts_propertyOf_objects key (acceptValues_propertiesOf [] members) rest
  | .object members => accepts_propertyOf_object key (acceptValues_propertiesOf [] members)

theorem acceptValues_propertiesOf (taken : List String) : (members : List (String × Value)) →
    AcceptValues ((propertiesOf taken members).map (·.2)) (cutMembers members)
  | [] => by
    rw [propertiesOf, cutMembers]
    exact .nil
  | (key, value) :: rest => by
    rw [propertiesOf, cutMembers]
    exact .cons ((accepts_propertyOf key value).rename _) (acceptValues_propertiesOf _ rest)

end

/-- The model of an object accepts the object when every array in it is cut to its first item. -/
theorem accepts_cut (name : String) (members : List (String × Value)) :
    (modelOf name members).Accepts (cut (.object members)) := by
  rw [cut]
  exact accepts_withProperties name (acceptValues_propertiesOf [] members)

end RestConnector.Schema
