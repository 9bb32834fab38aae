import RestConnector.Proofs.Name.Pascal
import RestConnector.Schema.Inference

/-!
# Models that are inferred

A response gives a model in two ways only: it is an object, which is described under the name of its
path, or an array that begins with an object, which gives a collection (`infer?_eq_some`).  Either model
is `IsInferred`, and the models nested in an inferred one are inferred as well (`IsInferred.nested`), at
every depth.

What the name of a path or of a key may have been, the record type of an inferred model is a type name
with the fallback `Item` (`IsInferred.exists_recordName`).
-/

namespace RestConnector.Schema

open RestConnector.Json RestConnector.Name

/-! ## Where models come from -/

/-- A model as inference gives it. -/
inductive IsInferred : Model → Prop where
  | object (name : String) (members : List (String × Value)) : IsInferred (modelOf name members)
  | collection (name : String) (members : List (String × Value)) :
    IsInferred (collectionOf name (modelOf (singularize name) members))

/-- A response that gives a model is an object, or an array that begins with one. -/
lemma infer?_eq_some {content path : String} {model : Model} (h : infer? content path = some model) :
    (∃ members, read? content = some (.object members) ∧
      model = modelOf (Path.modelName path) members) ∨
    (∃ members rest, read? content = some (.array (.object members :: rest)) ∧
      model = collectionOf (Path.modelName path)
        (modelOf (singularize (Path.modelName path)) members)) := by
  unfold infer? at h
  split at h
  · obtain ⟨value, hread, hvalue⟩ := Option.bind_eq_some_iff.1 h
    unfold ofDocument? at hvalue
    split at hvalue
    · next members =>
      exact .inl ⟨members, hread, (Option.some.inj hvalue).symm⟩
    · next members rest =>
      exact .inr ⟨members, rest, hread, (Option.some.inj hvalue).symm⟩
    · cases hvalue
  · cases h

lemma isInferred_of_infer? {content path : String} {model : Model}
    (h : infer? content path = some model) : IsInferred model := by
  rcases infer?_eq_some h with ⟨members, -, rfl⟩ | ⟨members, rest, -, rfl⟩
  · exact .object _ _
  · exact .collection _ _

/-! ## Nested models -/

lemma exists_modelOf_of_nested_propertyOf {key : String} {value : Value} {nested : Model}
    (h : (propertyOf key value).nested = some nested) :
    ∃ name members, nested = modelOf name members := by
  cases value with
  | object members =>
    rw [propertyOf] at h
    obtain rfl := Option.some.inj h
    exact ⟨_, _, rfl⟩
  | array items =>
    rcases items with _ | ⟨first, rest⟩
    · simp [propertyOf] at h
    · cases first with
      | object members =>
        rw [propertyOf] at h
        obtain rfl := Option.some.inj h
        exact ⟨_, _, rfl⟩
      | _ => simp [propertyOf] at h
  | _ => simp [propertyOf, scalarProperty] at h

lemma exists_modelOf_of_mem_propertiesOf {taken : List String} {members : List (String × Value)}
    {entry : String × Property} (he : entry ∈ propertiesOf taken members) {nested : Model}
    (h : entry.2.nested = some nested) : ∃ name members, nested = modelOf name members := by
  induction members generalizing taken with
  | nil => simp [propertiesOf] at he
  | cons member rest ih =>
    rw [propertiesOf] at he
    rcases List.mem_cons.1 he with rfl | he
    · exact exists_modelOf_of_nested_propertyOf h
    · exact ih he

/-- What is nested in an inferred model was an object. -/
lemma IsInferred.exists_modelOf_of_nested {model nested : Model} (h : IsInferred model)
    (hn : nested ∈ model.nestedModels) : ∃ name members, nested = modelOf name members := by
  obtain ⟨entry, he, hnested⟩ := mem_nestedModels.1 hn
  cases h with
  | object name members => exact exists_modelOf_of_mem_propertiesOf he hnested
  | collection name members => exact exists_modelOf_of_mem_propertiesOf he hnested

/-- What is nested in an inferred model is inferred. -/
lemma IsInferred.nested {model nested : Model} (h : IsInferred model)
    (hn : nested ∈ model.nestedModels) : IsInferred nested := by
  obtain ⟨name, members, rfl⟩ := h.exists_modelOf_of_nested hn
  exact .object name members

/-! ## Record types -/

lemma name_modelOf (name : String) (members : List (String × Value)) :
    (modelOf name members).name = typeName name "Item" := by
  rw [modelOf, withProperties]

lemma name_modelOf_ne_empty (name : String) (members : List (String × Value)) :
    (modelOf name members).name ≠ "" := by
  rw [name_modelOf]
  exact typeName_ne_empty (by decide) name

lemma recordName_modelOf (name : String) (members : List (String × Value)) :
    (modelOf name members).recordName = typeName name "Item" := by
  rw [Model.recordName, modelOf, withProperties]

lemma recordName_collectionOf (name : String) {element : Model} (h : element.name ≠ "") :
    (collectionOf name element).recordName = element.name := by
  simp [Model.recordName, collectionOf, h]

lemma IsInferred.exists_recordName {model : Model} (h : IsInferred model) :
    ∃ name, model.recordName = typeName name "Item" := by
  cases h with
  | object name members => exact ⟨name, recordName_modelOf name members⟩
  | collection name members =>
    refine ⟨singularize name, ?_⟩
    rw [recordName_collectionOf name (name_modelOf_ne_empty _ _), name_modelOf]

end RestConnector.Schema
