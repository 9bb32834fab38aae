import Mathlib.Data.List.Forall2
import Mathlib.Data.Option.Basic
import RestConnector.Proofs.Name.Fresh
import RestConnector.Schema.Inference

/-!
# Members of an object

The model of an object has a property for every member of the object, in the order of the members and under
the key of the member.  Many keys may normalise to one field name, and the number that one of them gets may
make the natural name of another, in front or behind; but a name is taken as soon as it is given, so no two
properties have the same one and none takes the place of another.  An object inside is described by a model
of its own, of which the same holds (`keepsMembers_modelOf`).

An object has a model if it is the value of a member, or the first item of an array that is (`objectOf?`).
Objects in deeper arrays have none.
-/

namespace RestConnector.Schema

open RestConnector.Json RestConnector.Name

/-- The object that the model of a property describes: the value, or the first item of an array. -/
def objectOf? : Value → Option (List (String × Value))
  | .object members => some members
  | .array (.object members :: _) => some members
  | _ => none

/-- Whether a model keeps the members of an object apart: it has one property for each, in order, every
property stands under its own name, and no two have one name; and so it is with every object inside. -/
inductive KeepsMembers : Model → List (String × Value) → Prop where
  | intro {model : Model} {members : List (String × Value)}
    (keys : model.fields.map (·.key) = members.map (·.1))
    (named : ∀ entry ∈ model.properties, entry.1 = entry.2.name)
    (nodup : (model.fields.map (·.name)).Nodup)
    (nested : List.Forall₂
      (fun property member => Option.Rel KeepsMembers property.nested (objectOf? member.2))
      model.fields members) :
    KeepsMembers model members

/-! ## One object -/

lemma key_propertyOf (key : String) (value : Value) : (propertyOf key value).key = key := by
  fun_cases propertyOf key value <;> simp only [scalarProperty]

lemma keys_propertiesOf (taken : List String) (members : List (String × Value)) :
    ((propertiesOf taken members).map (·.2)).map (·.key) = members.map (·.1) := by
  induction members generalizing taken with
  | nil => simp [propertiesOf]
  | cons member rest ih =>
    rw [propertiesOf, List.map_cons, List.map_cons, List.map_cons, ih, key_propertyOf]

lemma named_propertiesOf {taken : List String} {members : List (String × Value)} :
    ∀ entry ∈ propertiesOf taken members, entry.1 = entry.2.name := by
  induction members generalizing taken with
  | nil => simp [propertiesOf]
  | cons member rest ih =>
    rw [propertiesOf]
    exact List.forall_mem_cons.2 ⟨rfl, ih⟩

/-- The names that are taken are given to no property. -/
lemma notMem_of_mem_propertiesOf {taken : List String} {members : List (String × Value)} :
    ∀ entry ∈ propertiesOf taken members, entry.2.name ∉ taken := by
  induction members generalizing taken with
  | nil => simp [propertiesOf]
  | cons member rest ih =>
    rw [propertiesOf]
    refine List.forall_mem_cons.2 ⟨freshName_notMem taken _, fun entry he htaken => ?_⟩
    exact ih entry he (List.mem_cons_of_mem _ htaken)

lemma nodup_propertiesOf (taken : List String) (members : List (String × Value)) :
    (((propertiesOf taken members).map (·.2)).map (·.name)).Nodup := by
  induction members generalizing taken with
  | nil => simp [propertiesOf]
  | cons member rest ih =>
    rw [propertiesOf, List.map_cons, List.map_cons, List.nodup_cons]
    refine ⟨fun hm => ?_, ih _⟩
    obtain ⟨property, hp, hname⟩ := List.mem_map.1 hm
    obtain ⟨entry, he, rfl⟩ := List.mem_map.1 hp
    exact notMem_of_mem_propertiesOf entry he (hname ▸ List.mem_cons_self)

/-! ## Objects inside -/

/-- Whether properties have models that keep the objects of members, one by one. -/
def KeepObjects (properties : List Property) (members : List (String × Value)) : Prop :=
  List.Forall₂ (fun property member => Option.Rel KeepsMembers property.nested (objectOf? member.2))
    properties members

/-- If the properties keep the objects inside, all members are kept. -/
lemma keepsMembers_withProperties (name : String) {members : List (String × Value)}
    (h : KeepObjects ((propertiesOf [] members).map (·.2)) members) :
    KeepsMembers (withProperties name (propertiesOf [] members)) members :=
  .intro (keys_propertiesOf [] members) named_propertiesOf (nodup_propertiesOf [] members) h

mutual

theorem nested_propertyOf (key : String) :
    (value : Value) → Option.Rel KeepsMembers (propertyOf key value).nested (objectOf? value)
  | .null | .bool _ | .integer _ | .decimal _ | .string _ | .array [] => .none
  | .array (.null :: _) | .array (.bool _ :: _) | .array (.integer _ :: _)
  | .array (.decimal _ :: _) | .array (.string _ :: _) | .array (.array _ :: _) => .none
  | .array (.object members :: _) => by
    rw [propertyOf, objectOf?]
    exact .some (keepsMembers_withProperties _ (keepObjects_propertiesOf [] members))
  | .object members => by
    rw [propertyOf, objectOf?]
    exact .some (keepsMembers_withProperties _ (keepObjects_propertiesOf [] members))

theorem keepObjects_propertiesOf (taken : List String) : (members : List (String × Value)) →
    KeepObjects ((propertiesOf taken members).map (·.2)) members
  | [] => by
    rw [propertiesOf]
    exact .nil
  | (key, value) :: rest => by
    rw [propertiesOf]
    exact .cons (nested_propertyOf key value) (keepObjects_propertiesOf _ rest)

end

/-- The model of an object keeps all its members, and so do the models of the objects inside. -/
theorem keepsMembers_modelOf (name : String) (members : List (String × Value)) :
    KeepsMembers (modelOf name members) members :=
  keepsMembers_withProperties name (keepObjects_propertiesOf [] members)

-- Three keys have one name in snake case, and a fourth has the name that the second one gets.
example : (modelOf "Row" (["a", "A", "a_2", "a-"].map fun key => (key, .null))).fields.map
    (fun property => (property.key, property.name)) =
      [("a", "a"), ("A", "a_2"), ("a_2", "a_2_2"), ("a-", "a_3")] := by
  decide +kernel

end RestConnector.Schema
