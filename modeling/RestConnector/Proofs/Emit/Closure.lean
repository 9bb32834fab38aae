import Mathlib.Data.List.Nodup
import RestConnector.Emit.Record

/-!
# The closure of models

`closure` gathers the given models and those nested in them, and keeps one model for each record type.
Whatever the models, no record type is gathered twice (`nodup_recordNames_closure`), those of the given
models are gathered (`recordNames_subset_closure`), and a record type that a gathered model refers to is
gathered too (`nestedClaimed_closure`).  Nothing is gathered but what is given or nested in something
gathered, so that a property which models hand down to the models nested in them holds of the whole closure
(`forall_closure`).

The first and the third rest on one invariant of the depth-first pass (`Gathers`), which is shown by
induction on models and properties: what was found stays found, a record type is added once, and of the
models that a pass adds, it leaves none with a reference that is not resolved.
-/

namespace RestConnector.Emit

open RestConnector.Schema

/-- The record types of models, in order. -/
def recordNames (models : List Model) : List String :=
  models.map Model.recordName

lemma isClaimed_iff {models : List Model} {name : String} :
    isClaimed models name ↔ name ∈ recordNames models := by
  simp [isClaimed, recordNames]

/-- Whether the record types that a model refers to are among those of some models. -/
def NestedClaimed (models : List Model) (model : Model) : Prop :=
  ∀ nested ∈ model.nestedModels, nested.recordName ∈ recordNames models

/-- What a pass makes of the models that have been found. -/
structure Gathers (found result : List Model) : Prop where
  subset : found ⊆ result
  nodup : (recordNames found).Nodup → (recordNames result).Nodup
  closed : ∀ model ∈ result, model ∈ found ∨ NestedClaimed result model

lemma recordNames_subset {found result : List Model} (h : found ⊆ result) :
    recordNames found ⊆ recordNames result :=
  List.map_subset _ h

lemma NestedClaimed.mono {found result : List Model} (h : found ⊆ result) {model : Model}
    (hm : NestedClaimed found model) : NestedClaimed result model :=
  fun nested hn => recordNames_subset h (hm nested hn)

lemma Gathers.refl (found : List Model) : Gathers found found :=
  ⟨List.Subset.refl found, id, fun _ hm => .inl hm⟩

lemma Gathers.trans {found middle result : List Model} (h : Gathers found middle)
    (h' : Gathers middle result) : Gathers found result := by
  refine ⟨List.Subset.trans h.subset h'.subset, h'.nodup ∘ h.nodup, fun model hm => ?_⟩
  rcases h'.closed model hm with hmid | hclosed
  · rcases h.closed model hmid with hfound | hclosed
    · exact .inl hfound
    · exact .inr (hclosed.mono h'.subset)
  · exact .inr hclosed

lemma nodup_recordNames_append {found : List Model} {model : Model}
    (h : (recordNames found).Nodup) (hnew : model.recordName ∉ recordNames found) :
    (recordNames (found ++ [model])).Nodup := by
  rw [recordNames, List.map_append]
  refine h.append (List.nodup_singleton _) ?_
  intro name hname hlast
  obtain rfl := List.mem_singleton.1 hlast
  exact hnew hname

/-- Adding a model of a new record type and then what it refers to. -/
lemma Gathers.of_append {found result : List Model} {model : Model}
    (hnew : model.recordName ∉ recordNames found) (h : Gathers (found ++ [model]) result)
    (hm : NestedClaimed result model) : Gathers found result := by
  refine ⟨List.Subset.trans (List.subset_append_left _ _) h.subset,
    fun hnodup => h.nodup (nodup_recordNames_append hnodup hnew), fun other hother => ?_⟩
  rcases h.closed other hother with hmem | hclosed
  · rcases List.mem_append.1 hmem with hfound | hlast
    · exact .inl hfound
    · obtain rfl := List.mem_singleton.1 hlast
      exact .inr hm
  · exact .inr hclosed

/-! ## One pass -/

/-- Whether the record type that a property refers to is among those of some models. -/
def PropertyClaimed (models : List Model) (property : Property) : Prop :=
  ∀ nested, property.nested = some nested → nested.recordName ∈ recordNames models

lemma nestedClaimed_iff {models : List Model} {model : Model} :
    NestedClaimed models model ↔ ∀ entry ∈ model.properties, PropertyClaimed models entry.2 := by
  simp only [NestedClaimed, PropertyClaimed, Model.nestedModels, Model.fields, List.mem_filterMap,
    List.mem_map]
  constructor
  · intro h entry he nested hn
    exact h nested ⟨entry.2, ⟨entry, he, rfl⟩, hn⟩
  · rintro h nested ⟨_, ⟨entry, he, rfl⟩, hn⟩
    exact h entry he nested hn

mutual

theorem gathers_addNested (found : List Model) : (model : Model) →
    Gathers found (addNested found model) ∧ NestedClaimed (addNested found model) model
  | { name, givenName, properties, isCollection, description, elementName } => by
    obtain ⟨hg, hp⟩ := gathers_addProperties found properties
    rw [addNested]
    exact ⟨hg, nestedClaimed_iff.2 hp⟩

theorem gathers_addProperties (found : List Model) : (properties : List (String × Property)) →
    Gathers found (addProperties found properties) ∧
      ∀ entry ∈ properties, PropertyClaimed (addProperties found properties) entry.2
  | [] => ⟨.refl found, by simp⟩
  | (key, property) :: rest => by
    obtain ⟨hg, hp⟩ := gathers_addProperty found property
    obtain ⟨hg', hp'⟩ := gathers_addProperties (addProperty found property) rest
    rw [addProperties]
    refine ⟨hg.trans hg', List.forall_mem_cons.2 ⟨fun nested hn => ?_, hp'⟩⟩
    exact recordNames_subset hg'.subset (hp nested hn)

theorem gathers_addProperty (found : List Model) : (property : Property) →
    Gathers found (addProperty found property) ∧
      PropertyClaimed (addProperty found property) property
  | { name, key, kind, typeText, isNullable, isCollection, format, itemKind, nested := none } =>
    ⟨.refl found, by simp [PropertyClaimed]⟩
  | { name, key, kind, typeText, isNullable, isCollection, format, itemKind,
      nested := some model } => by
    rw [addProperty]
    split
    · next hclaimed =>
      refine ⟨.refl found, fun nested hn => ?_⟩
      obtain rfl := Option.some.inj hn
      exact isClaimed_iff.1 hclaimed
    · next hnew =>
      obtain ⟨hg, hm⟩ := gathers_addNested (found ++ [model]) model
      refine ⟨hg.of_append (fun h => hnew (isClaimed_iff.2 h)) hm, fun nested hn => ?_⟩
      obtain rfl := Option.some.inj hn
      exact recordNames_subset hg.subset (by simp [recordNames])

end

/-! ## All passes -/

lemma gathers_foldl (models found : List Model) :
    Gathers found (models.foldl addNested found) ∧
      ∀ model ∈ models, NestedClaimed (models.foldl addNested found) model := by
  induction models generalizing found with
  | nil => exact ⟨.refl found, by simp⟩
  | cons model rest ih =>
    obtain ⟨hg, hm⟩ := gathers_addNested found model
    obtain ⟨hg', hrest⟩ := ih (addNested found model)
    exact ⟨hg.trans hg', List.forall_mem_cons.2 ⟨hm.mono hg'.subset, hrest⟩⟩

lemma nodup_recordNames_firstOfEach (models : List Model) :
    (recordNames (firstOfEach models)).Nodup := by
  suffices h : ∀ found, (recordNames found).Nodup →
      (recordNames (models.foldl (fun found model =>
        if isClaimed found model.recordName then found else found ++ [model]) found)).Nodup from
    h [] List.nodup_nil
  induction models with
  | nil => exact fun found h => h
  | cons model rest ih =>
    intro found h
    refine ih _ ?_
    dsimp only
    split
    · exact h
    · next hnew => exact nodup_recordNames_append h fun hname => hnew (isClaimed_iff.2 hname)

/-- No record type is gathered twice. -/
theorem nodup_recordNames_closure (models : List Model) : (recordNames (closure models)).Nodup :=
  (gathers_foldl _ _).1.nodup (nodup_recordNames_firstOfEach models)

/-- The record types that gathered models refer to are gathered. -/
theorem nestedClaimed_closure {models : List Model} {model : Model} (h : model ∈ closure models) :
    NestedClaimed (closure models) model := by
  obtain ⟨hg, htop⟩ := gathers_foldl (firstOfEach models) (firstOfEach models)
  rcases hg.closed model h with hfirst | hclosed
  · exact htop model hfirst
  · exact hclosed

lemma recordNames_subset_firstOfEach (models : List Model) :
    recordNames models ⊆ recordNames (firstOfEach models) := by
  suffices h : ∀ found, recordNames found ++ recordNames models ⊆
      recordNames (models.foldl (fun found model =>
        if isClaimed found model.recordName then found else found ++ [model]) found) from h []
  induction models with
  | nil => simp [recordNames]
  | cons model rest ih =>
    intro found
    refine List.Subset.trans ?_ (ih _)
    dsimp only
    split
    · next hclaimed =>
      have hname : model.recordName ∈ recordNames found := isClaimed_iff.1 hclaimed
      simpa [recordNames] using Or.inl (List.mem_map.1 hname)
    · simp [recordNames]

/-- The record types of the given models are gathered. -/
theorem recordNames_subset_closure (models : List Model) :
    recordNames models ⊆ recordNames (closure models) :=
  List.Subset.trans (recordNames_subset_firstOfEach models)
    (recordNames_subset (gathers_foldl _ _).1.subset)

/-! ## What is gathered -/

/-- What models hand down to the models nested in them. -/
def HandedDown (P : Model → Prop) : Prop :=
  ∀ model, P model → ∀ nested ∈ model.nestedModels, P nested

variable {P : Model → Prop}

mutual

theorem forall_addNested (hP : HandedDown P) {found : List Model} (hf : ∀ model ∈ found, P model) :
    (model : Model) → P model → ∀ other ∈ addNested found model, P other
  | { name, givenName, properties, isCollection, description, elementName } => by
    intro hm
    rw [addNested]
    refine forall_addProperties hP hf properties fun entry he nested hn => ?_
    exact hP _ hm nested (mem_nestedModels.2 ⟨entry, he, hn⟩)

theorem forall_addProperties (hP : HandedDown P) {found : List Model}
    (hf : ∀ model ∈ found, P model) : (properties : List (String × Property)) →
    (∀ entry ∈ properties, ∀ nested, entry.2.nested = some nested → P nested) →
    ∀ other ∈ addProperties found properties, P other
  | [] => fun _ => hf
  | (key, property) :: rest => by
    intro hp
    rw [addProperties]
    refine forall_addProperties hP ?_ rest fun entry he => hp entry (List.mem_cons_of_mem _ he)
    exact forall_addProperty hP hf property (hp (key, property) List.mem_cons_self)

theorem forall_addProperty (hP : HandedDown P) {found : List Model}
    (hf : ∀ model ∈ found, P model) : (property : Property) →
    (∀ nested, property.nested = some nested → P nested) →
    ∀ other ∈ addProperty found property, P other
  | { name, key, kind, typeText, isNullable, isCollection, format, itemKind, nested := none } =>
    fun _ => hf
  | { name, key, kind, typeText, isNullable, isCollection, format, itemKind,
      nested := some model } => by
    intro hp
    have hmodel := hp model rfl
    rw [addProperty]
    split
    · exact hf
    · refine forall_addNested hP ?_ model hmodel
      exact List.forall_mem_append.2 ⟨hf, List.forall_mem_singleton.2 hmodel⟩

end

lemma forall_foldl_addNested (hP : HandedDown P) {models found : List Model}
    (hm : ∀ model ∈ models, P model) (hf : ∀ model ∈ found, P model) :
    ∀ other ∈ models.foldl addNested found, P other := by
  induction models generalizing found with
  | nil => exact hf
  | cons model rest ih =>
    obtain ⟨hfirst, hrest⟩ := List.forall_mem_cons.1 hm
    exact ih hrest (forall_addNested hP hf model hfirst)

lemma firstOfEach_subset (models : List Model) : firstOfEach models ⊆ models := by
  suffices h : ∀ found, (models.foldl (fun found model =>
      if isClaimed found model.recordName then found else found ++ [model]) found) ⊆
      found ++ models from h []
  induction models with
  | nil => simp
  | cons model rest ih =>
    intro found
    refine List.Subset.trans (ih _) ?_
    dsimp only
    split
    · exact List.append_subset.2 ⟨by simp, by simp⟩
    · simp

/-- What holds of all given models and is handed down holds of all that are gathered. -/
theorem forall_closure (hP : HandedDown P) {models : List Model} (hm : ∀ model ∈ models, P model) :
    ∀ model ∈ closure models, P model := by
  have htop : ∀ model ∈ firstOfEach models, P model := fun model h =>
    hm model (firstOfEach_subset models h)
  exact forall_foldl_addNested hP htop htop

end RestConnector.Emit
