import RestConnector.Proofs.Name.Legal
import RestConnector.Proofs.Operation.Writing

/-!
# Names of operations and parameters

The name of an operation is a verb, an underscore and the name of its resource in snake case
(`exists_baseName_eq`).  No keyword has an underscore in it, so that nothing has to be mended; and the number
that a repeated name gets stands behind a name that can be declared already.  The parameter that stands for
a placeholder is mended, and the one that takes the body has a name of its own.  Hence all names in the
operations of endpoints with supported methods can be declared (`isDeclarable_of_mem_planAll`).
-/

namespace RestConnector.Operation

open RestConnector.Name RestConnector.Path RestConnector.Schema RestConnector.Text

/-! ## Operations -/

lemma baseName_get_all (resource : String) :
    baseName "GET" resource false = "get_all_" ++ snakeCase (pluralize resource) := by
  have hupper : upper "GET" = "GET" := by decide
  simp [baseName, hupper]

lemma baseName_get (resource : String) :
    baseName "GET" resource true = "get_" ++ snakeCase (singularize resource) := by
  have hupper : upper "GET" = "GET" := by decide
  simp [baseName, hupper]

lemma baseName_verb {method verb : String} (h : (method, verb) ∈ verbs) (resource : String)
    (hasPlaceholder : Bool) :
    baseName method resource hasPlaceholder = verb ++ "_" ++ snakeCase (singularize resource) := by
  have hverbs : ∀ entry ∈ verbs, upper entry.1 = entry.1 ∧ entry.1 ≠ "GET" ∧
      verbs.lookup entry.1 = some entry.2 := by decide
  obtain ⟨hupper, hne, hlookup⟩ := hverbs _ h
  simp [baseName, hupper, hne, hlookup]

/-- What the names of operations begin with. -/
def nameFronts : List String :=
  ["get_all_", "get_", "create_", "update_", "update_partial_", "delete_"]

/-- The name of an operation with a supported method is a verb in front of a name in snake case. -/
theorem exists_baseName_eq {method : String} (h : method ∈ Endpoint.supportedMethods)
    (resource : String) (hasPlaceholder : Bool) :
    ∃ front ∈ nameFronts, ∃ name, baseName method resource hasPlaceholder = front ++ snakeCase name := by
  by_cases hget : method = "GET"
  · subst hget
    cases hasPlaceholder with
    | false => exact ⟨"get_all_", by decide, _, baseName_get_all resource⟩
    | true => exact ⟨"get_", by decide, _, baseName_get resource⟩
  · have hverbs : ∀ method ∈ Endpoint.supportedMethods, method ≠ "GET" →
        ∃ entry ∈ verbs, entry.1 = method ∧ entry.2 ++ "_" ∈ nameFronts := by decide
    obtain ⟨⟨method, verb⟩, hentry, rfl, hfront⟩ := hverbs method h hget
    exact ⟨verb ++ "_", hfront, _, baseName_verb hentry resource hasPlaceholder⟩

lemma isLegal_baseName {method : String} (h : method ∈ Endpoint.supportedMethods)
    (resource : String) (hasPlaceholder : Bool) :
    IsLegal (baseName method resource hasPlaceholder) := by
  obtain ⟨front, hfront, name, heq⟩ := exists_baseName_eq h resource hasPlaceholder
  have hfronts : ∀ front ∈ nameFronts, front ≠ "" ∧ IsWordy front ∧
      startsWithDigit front = false ∧ '_' ∈ front.toList := by decide
  have hkeywords : ∀ word ∈ keywords, '_' ∉ word.toList := by decide
  obtain ⟨hne, hwordy, hdigit, hunderscore⟩ := hfronts front hfront
  have hidentifier : IsIdentifier front := ⟨hne, hwordy, hdigit⟩
  rw [heq]
  refine ⟨hidentifier.append (isWordy_snakeCase name), fun hm => hkeywords _ hm ?_⟩
  rw [String.toList_append]
  exact List.mem_append_left _ hunderscore

/-! ## Parameters -/

lemma isLegal_parameterName (placeholder : String) : IsLegal (parameterName placeholder) := by
  have hparam : IsLegal "param" := ⟨⟨by decide, by decide, by decide⟩, by decide⟩
  exact isLegal_safeIdentifier (isWordy_snakeCase placeholder) hparam

lemma isLegal_bodyName : IsLegal bodyName :=
  ⟨⟨by decide, by decide, by decide⟩, by decide⟩

/-! ## Plans -/

/-- An operation of which everything that has a name can be declared. -/
structure IsDeclarable (operation : Operation) : Prop where
  name : IsLegal operation.name
  parameters : ∀ parameter ∈ operation.parameters, IsLegal parameter.1

variable {schemas : List (String × Model)}

lemma isDeclarable_plan {endpoint : Endpoint}
    (h : upper endpoint.method ∈ Endpoint.supportedMethods) :
    (plan schemas endpoint).IsDeclarable := by
  constructor
  case name =>
    rw [name_plan]
    exact isLegal_baseName h _ _
  case parameters =>
    intro parameter hp
    rcases mem_parameters_plan hp with ⟨placeholder, hname, -⟩ | ⟨hname, -⟩
    · rw [hname]
      exact isLegal_parameterName placeholder
    · rw [hname]
      exact isLegal_bodyName

/-- All names in the operations of endpoints with supported methods can be declared. -/
theorem isDeclarable_of_mem_planAll {endpoints : List Endpoint}
    (h : ∀ endpoint ∈ endpoints, upper endpoint.method ∈ Endpoint.supportedMethods) :
    ∀ operation ∈ planAll endpoints schemas, operation.IsDeclarable := by
  refine forall_numberFrom (P := IsDeclarable) (fun operation taken hd => ?_) (fun operation hm => ?_) []
  · exact ⟨hd.name.freshName taken, hd.parameters⟩
  · obtain ⟨endpoint, he, rfl⟩ := List.mem_map.1 hm
    exact isDeclarable_plan (h endpoint he)

end RestConnector.Operation
