import Mathlib.Data.List.Induction
import RestConnector.Proofs.Emit.Closure

/-!
# The order in which models are gathered

`closure` puts the first given model of each record type in front, in the order in which the record types
appear (`areFirsts_firstOfEach`), and goes through the models nested in these afterwards.  Whatever is
already found stays where it is, and what a pass finds is put behind it; so every model stands behind one
that it is nested in, unless it is one of the given (`Grows`).

The walk leaves out what is nested in a model whose record type has been claimed by another.  This loses no
record type that is referred to, since only gathered models refer to any and all of these are walked
through.  Together the result is a gathering of the given models (`isGathering_closure`): closed under
reference, and without a model that nothing calls for.
-/

namespace RestConnector.Emit

open RestConnector.Schema

/-! ## The first model of each record type -/

/-- Whether models are the first ones of each record type in a list, in the order in which the record types
appear there. -/
structure AreFirsts (models firsts : List Model) : Prop where
  names : recordNames firsts = (recordNames models).eraseDups
  find? : ∀ model ∈ firsts, models.find? (·.recordName = model.recordName) = some model

lemma firstOfEach_append (models : List Model) (model : Model) :
    firstOfEach (models ++ [model]) =
      if isClaimed (firstOfEach models) model.recordName then firstOfEach models
      else firstOfEach models ++ [model] := by
  rw [firstOfEach, List.foldl_append]
  rfl

lemma recordNames_append_singleton (models : List Model) (model : Model) :
    recordNames (models ++ [model]) = recordNames models ++ [model.recordName] :=
  List.map_append

lemma eraseDups_append_singleton (names : List String) (name : String) :
    (names ++ [name]).eraseDups =
      if name ∈ names then names.eraseDups else names.eraseDups ++ [name] := by
  rw [List.eraseDups_append]
  by_cases h : name ∈ names
  · simp [List.removeAll, h]
  · simp [List.removeAll, List.eraseDups_cons, h]

theorem areFirsts_firstOfEach (models : List Model) : AreFirsts models (firstOfEach models) := by
  induction models using List.reverseRecOn with
  | nil => exact ⟨rfl, by simp [firstOfEach]⟩
  | append_singleton models model ih =>
    have hclaimed : isClaimed (firstOfEach models) model.recordName ↔
        model.recordName ∈ recordNames models := by
      rw [isClaimed_iff, ih.names, List.mem_eraseDups]
    have hearlier : ∀ first ∈ firstOfEach models,
        (models ++ [model]).find? (·.recordName = first.recordName) = some first := fun first hf => by
      rw [List.find?_append, ih.find? first hf]
      rfl
    rw [firstOfEach_append]
    split
    · next h =>
      refine ⟨?_, hearlier⟩
      rw [recordNames_append_singleton, eraseDups_append_singleton, if_pos (hclaimed.1 h)]
      exact ih.names
    · next h =>
      have hnew : model.recordName ∉ recordNames models := hclaimed.not.1 h
      refine ⟨?_, List.forall_mem_append.2 ⟨hearlier, List.forall_mem_singleton.2 ?_⟩⟩
      · rw [recordNames_append_singleton, recordNames_append_singleton,
          eraseDups_append_singleton, if_neg hnew, ih.names]
      · have hnone : models.find? (·.recordName = model.recordName) = none := by
          simpa [recordNames] using hnew
        rw [List.find?_append, hnone]
        simp

/-! ## What is put behind -/

/-- Whether models come from others by putting models behind them one by one, each of which is nested in one
that is already there. -/
inductive Grows (found : List Model) : List Model → Prop where
  | refl : Grows found found
  | snoc {result : List Model} {outer model : Model} :
    Grows found result → outer ∈ result → model ∈ outer.nestedModels →
      Grows found (result ++ [model])

lemma Grows.trans {found middle result : List Model} (h : Grows found middle)
    (h' : Grows middle result) : Grows found result := by
  induction h' with
  | refl => exact h
  | snoc _ houter hmodel ih => exact ih.snoc houter hmodel

lemma Grows.prefix {found result : List Model} (h : Grows found result) : found <+: result := by
  induction h with
  | refl => exact List.prefix_refl found
  | snoc _ _ _ ih => exact ih.trans (List.prefix_append _ _)

/-- What is there has been there before, or is nested in something that stands in front of it. -/
lemma Grows.nested {found result : List Model} (h : Grows found result) {front rest : List Model}
    {model : Model} (hresult : result = front ++ model :: rest) :
    model ∈ found ∨ ∃ outer ∈ front, model ∈ outer.nestedModels := by
  induction h generalizing rest with
  | refl => exact .inl (by simp [hresult])
  | snoc _ houter hmodel ih =>
    rcases List.eq_nil_or_concat rest with rfl | ⟨rest, last, rfl⟩
    · obtain ⟨rfl, hlast⟩ := List.append_inj' hresult rfl
      obtain rfl := List.singleton_inj.1 hlast
      exact .inr ⟨_, houter, hmodel⟩
    · rw [List.concat_eq_append, ← List.cons_append, ← List.append_assoc] at hresult
      exact ih (List.append_inj' hresult rfl).1

/-! ## One pass -/

mutual

theorem grows_addNested {found : List Model} : (model : Model) → model ∈ found →
    Grows found (addNested found model)
  | { name, givenName, properties, isCollection, description, elementName } => by
    intro hmodel
    rw [addNested]
    exact grows_addProperties properties fun entry he nested hn =>
      ⟨_, hmodel, mem_nestedModels.2 ⟨entry, he, hn⟩⟩

theorem grows_addProperties {found : List Model} : (properties : List (String × Property)) →
    (∀ entry ∈ properties, ∀ nested, entry.2.nested = some nested →
      ∃ outer ∈ found, nested ∈ outer.nestedModels) →
    Grows found (addProperties found properties)
  | [] => fun _ => .refl
  | (key, property) :: rest => by
    intro hp
    have hfirst := grows_addProperty property (hp (key, property) List.mem_cons_self)
    rw [addProperties]
    refine hfirst.trans (grows_addProperties rest fun entry he nested hn => ?_)
    obtain ⟨outer, houter, hnested⟩ := hp entry (List.mem_cons_of_mem _ he) nested hn
    exact ⟨outer, hfirst.prefix.subset houter, hnested⟩

theorem grows_addProperty {found : List Model} : (property : Property) →
    (∀ nested, property.nested = some nested → ∃ outer ∈ found, nested ∈ outer.nestedModels) →
    Grows found (addProperty found property)
  | { name, key, kind, typeText, isNullable, isCollection, format, itemKind, nested := none } =>
    fun _ => .refl
  | { name, key, kind, typeText, isNullable, isCollection, format, itemKind,
      nested := some model } => by
    intro hp
    obtain ⟨outer, houter, hnested⟩ := hp model rfl
    rw [addProperty]
    split
    · exact .refl
    · exact (Grows.refl.snoc houter hnested).trans (grows_addNested model (by simp))

end

/-! ## All passes -/

lemma grows_foldl {models found : List Model} (h : models ⊆ found) :
    Grows found (models.foldl addNested found) := by
  induction models generalizing found with
  | nil => exact .refl
  | cons model rest ih =>
    obtain ⟨hmodel, hrest⟩ := List.cons_subset.1 h
    have hfirst := grows_addNested model hmodel
    exact hfirst.trans (ih (List.Subset.trans hrest hfirst.prefix.subset))

/-- What is asked of the models that are gathered for some given ones. -/
structure IsGathering (models gathered : List Model) : Prop where
  /-- No record type is gathered twice. -/
  nodup : (recordNames gathered).Nodup
  /-- The first given model of each record type comes before all others. -/
  start : ∃ firsts, firsts <+: gathered ∧ AreFirsts models firsts
  /-- The record types that gathered models refer to are gathered. -/
  closed : ∀ model ∈ gathered, ∀ nested ∈ model.nestedModels,
    ∃ other ∈ gathered, other.recordName = nested.recordName
  /-- A model that is not given is nested in one that stands in front of it. -/
  minimal : ∀ front model rest, gathered = front ++ model :: rest →
    model ∈ models ∨ ∃ outer ∈ front, model ∈ outer.nestedModels

/-- The closure of models gathers what they call for, and nothing else. -/
theorem isGathering_closure (models : List Model) : IsGathering models (closure models) := by
  have hgrows : Grows (firstOfEach models) (closure models) := grows_foldl (List.Subset.refl _)
  constructor
  case nodup => exact nodup_recordNames_closure models
  case start => exact ⟨firstOfEach models, hgrows.prefix, areFirsts_firstOfEach models⟩
  case closed =>
    intro model hmodel nested hnested
    exact List.mem_map.1 (nestedClaimed_closure hmodel nested hnested)
  case minimal =>
    intro front model rest heq
    exact (hgrows.nested heq).imp_left fun h => firstOfEach_subset models h

end RestConnector.Emit
