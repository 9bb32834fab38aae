import RestConnector.Proofs.Name.Legal
import RestConnector.Proofs.Schema.Inference

/-!
# Names in inferred models

A model names a record type, an alias if it is a collection, and a field for each of its properties.  If the
model is inferred from a response, all of these can be declared (`isDeclarable_of_infer?`), whatever the
path and the keys of the response are, and so can those of the models nested in it at any depth
(`IsWithin`).

The alias of a collection is the one name that is changed after it has been mended: it is the plural of the
name of a path.
-/

namespace RestConnector.Schema

open RestConnector.Json RestConnector.Name

/-- A model whose names can all be declared: its own, which a collection has for its alias, that of its
record type, and those of its fields. -/
structure Model.IsDeclarable (model : Model) : Prop where
  name : IsLegal model.name
  recordName : IsLegal model.recordName
  fields : ∀ property ∈ model.fields, IsLegalField property.name

/-- Whether a model is another one, or nested in it at some depth. -/
inductive IsWithin (outer : Model) : Model → Prop where
  | self : IsWithin outer outer
  | nested {model inner : Model} :
    IsWithin outer model → inner ∈ model.nestedModels → IsWithin outer inner

/-- What is nested in an inferred model is inferred, at any depth. -/
lemma isInferred_of_isWithin {content path : String} {outer model : Model}
    (h : infer? content path = some outer) (hw : IsWithin outer model) : IsInferred model := by
  induction hw with
  | self => exact isInferred_of_infer? h
  | nested _ hinner ih => exact ih.nested hinner

/-! ## Names of types -/

lemma isLegal_item : IsLegal "Item" :=
  ⟨⟨by decide, by decide, by decide⟩, by decide⟩

lemma isLegal_typeName_item (name : String) : IsLegal (typeName name "Item") := by
  have initial : "Item".toList.head? = some 'I' := rfl
  exact isLegal_typeName isLegal_item initial (by decide) name

/-- The name that a path gives to a model can be declared, and begins with a capital. -/
lemma isLegal_modelName (path : String) :
    IsLegal (Path.modelName path) ∧
      ∃ c, (Path.modelName path).toList.head? = some c ∧ c.isUpper := by
  have initial : "Item".toList.head? = some 'I' := rfl
  unfold Path.modelName
  split
  · exact ⟨⟨⟨by decide, by decide, by decide⟩, by decide⟩, 'A', rfl, by decide⟩
  · exact ⟨isLegal_typeName_item _, exists_capital_typeName initial (by decide) _⟩

/-! ## Fields -/

lemma isLegalField_of_mem_propertiesOf {taken : List String} {members : List (String × Value)} :
    ∀ entry ∈ propertiesOf taken members, IsLegalField entry.2.name := by
  induction members generalizing taken with
  | nil => simp [propertiesOf]
  | cons member rest ih =>
    rw [propertiesOf, List.forall_mem_cons]
    exact ⟨(isLegalField_fieldName member.1).freshName taken, ih⟩

/-! ## Models -/

lemma isDeclarable_modelOf (name : String) (members : List (String × Value)) :
    (modelOf name members).IsDeclarable := by
  constructor
  case name =>
    rw [name_modelOf]
    exact isLegal_typeName_item name
  case recordName =>
    rw [recordName_modelOf]
    exact isLegal_typeName_item name
  case fields => exact List.forall_mem_map.2 isLegalField_of_mem_propertiesOf

lemma isDeclarable_collectionOf {name : String} {c : Char} (h : IsLegal name)
    (hhead : name.toList.head? = some c) (hc : c.isUpper) {element : Model}
    (helement : element.IsDeclarable) : (collectionOf name element).IsDeclarable := by
  constructor
  case name => exact isLegal_pluralize h hhead hc
  case recordName =>
    rw [recordName_collectionOf name helement.name.isIdentifier.ne_empty]
    exact helement.name
  case fields => exact helement.fields

/-- All names of an inferred model, and of the models in it, can be declared. -/
theorem isDeclarable_of_infer? {content path : String} {outer model : Model}
    (h : infer? content path = some outer) (hw : IsWithin outer model) : model.IsDeclarable := by
  -- What is nested in a model that is inferred is inferred, so both are known on the way in.
  have hboth : IsInferred model ∧ model.IsDeclarable := by
    induction hw with
    | self =>
      refine ⟨isInferred_of_infer? h, ?_⟩
      obtain ⟨hname, c, hhead, hc⟩ := isLegal_modelName path
      rcases infer?_eq_some h with ⟨members, -, rfl⟩ | ⟨members, rest, -, rfl⟩
      · exact isDeclarable_modelOf _ members
      · exact isDeclarable_collectionOf hname hhead hc (isDeclarable_modelOf _ members)
    | nested _ hinner ih =>
      obtain ⟨name, members, rfl⟩ := ih.1.exists_modelOf_of_nested hinner
      exact ⟨.object name members, isDeclarable_modelOf name members⟩
  exact hboth.2

end RestConnector.Schema
