import RestConnector.Proofs.Generation.Methods
import RestConnector.Proofs.Operation.Names
import RestConnector.Proofs.Schema.Legal

/-!
# Names in a connector

What the files of a connector declare is named after the API, after the segments and placeholders of paths
and after the keys in responses, and these may be any text.  All names that are made of them can be declared
(`names_declarable`): operations and their parameters, record types, the aliases of collections and the
fields of records at every depth, and the classes of the contract and the client.

The modules of the contract, the client and the registration are named by what they are behind one stem.
The stem has the form of an identifier, but it stands nowhere by itself and is not mended: for an API called
`class` it is a keyword (`stem_named_class`), of which `_api`, `_client` and `_registration` make names of
modules.
-/

namespace RestConnector.Generation

open RestConnector.Emit RestConnector.Name RestConnector.Schema RestConnector.Text

variable {config : Configuration}

/-! ## Classes -/

/-- The name that an API has in generated code can be declared. -/
lemma isLegal_apiNameOf (config : Configuration) : IsLegal (apiNameOf config) := by
  have initial : "MyApi".toList.head? = some 'M' := rfl
  have hfallback : IsLegal "MyApi" := ⟨⟨by decide, by decide, by decide⟩, by decide⟩
  exact isLegal_typeName hfallback initial (by decide) config.apiName

lemma isLegal_contractName (config : Configuration) : IsLegal (contractName (apiNameOf config)) := by
  refine ⟨(isLegal_apiNameOf config).isIdentifier.append (by decide), ?_⟩
  exact notMem_of_ending (by decide) (api_ending_contractName _)

lemma isLegal_implementationName (config : Configuration) :
    IsLegal (implementationName (apiNameOf config)) := by
  have hfront : IsIdentifier "Http" := ⟨by decide, by decide, by decide⟩
  refine ⟨hfront.append (isLegal_contractName config).isIdentifier.chars, ?_⟩
  exact notMem_of_ending (by decide) (api_ending_implementationName _)

lemma isLegal_clientName (config : Configuration) : IsLegal (clientName (apiNameOf config)) := by
  refine ⟨(isLegal_apiNameOf config).isIdentifier.append (by decide), ?_⟩
  exact notMem_of_ending (by decide) (client_ending_clientName _)

/-! ## Modules -/

/-- What stands behind the stem in the names of modules. -/
def moduleEndings : List String := ["_api", "_client", "_registration"]

lemma isLegal_stemOf_append (config : Configuration) :
    ∀ ending ∈ moduleEndings, IsLegal (stemOf config ++ ending) := by
  have hendings : ∀ ending ∈ moduleEndings, IsWordy ending ∧
      ∀ keyword ∈ keywords, ¬ ending.toList <:+ keyword.toList := by decide
  intro ending hm
  obtain ⟨hwordy, hends⟩ := hendings ending hm
  exact ⟨(isIdentifier_stemOf config).append hwordy, notMem_of_ending hends (ending_append _ _)⟩

/-! ## All names -/

/-- Whether everything that is named in a connector has a name that can be declared. -/
structure HasDeclarableNames (config : Configuration) : Prop where
  operations : ∀ operation ∈ operationsOf config, operation.IsDeclarable
  models : ∀ entry ∈ config.schemas, ∀ model, IsWithin entry.2 model → model.IsDeclarable
  contract : IsLegal (contractName (apiNameOf config))
  implementation : IsLegal (implementationName (apiNameOf config))
  client : IsLegal (clientName (apiNameOf config))
  stem : IsIdentifier (stemOf config)
  modules : ∀ ending ∈ moduleEndings, IsLegal (stemOf config ++ ending)

/-- A connector whose schemas are inferred and whose endpoints have supported methods declares names that
can be declared, whatever the API, its paths and the keys in its responses are called. -/
theorem names_declarable (hschemas : HasInferredSchemas config)
    (hmethods : HasSupportedMethods config) : HasDeclarableNames config := by
  constructor
  case operations => exact Operation.isDeclarable_of_mem_planAll hmethods
  case models =>
    intro entry he model hwithin
    obtain ⟨content, path, hinfer⟩ := hschemas entry he
    exact isDeclarable_of_infer? hinfer hwithin
  case contract => exact isLegal_contractName config
  case implementation => exact isLegal_implementationName config
  case client => exact isLegal_clientName config
  case stem => exact isIdentifier_stemOf config
  case modules => exact isLegal_stemOf_append config

/-- The name of an API has no part in its schemas. -/
lemma HasInferredSchemas.rename (h : HasInferredSchemas config) (apiName : String) :
    HasInferredSchemas { config with apiName } := h

/-- What is known of a path with a keyword in it, whose response has keys of the kinds to be mended. -/
def classBase : Configuration :=
  inferredFrom "/2024/None/:class"
    "[\x7b\"class\": 1, \"copy\": 2, \"2\": \x7b\"Class_\": 3, \"class\": 4\x7d\x7d]"

/-- The same, for an API that has a keyword for its name. -/
def classConfig : Configuration :=
  { classBase with apiName := "class" }

lemma hasInferredSchemas_classConfig : HasInferredSchemas classConfig := by
  have hbase : HasInferredSchemas classBase := hasInferredSchemas_inferredFrom _ _
  exact hbase.rename "class"

theorem names_declarable_classConfig :
    HasInferredSchemas classConfig ∧ HasSupportedMethods classConfig ∧
      (operationsOf classConfig).flatMap (fun operation => operation.parameters.map (·.1)) =
        ["class_"] ∧
      classConfig.schemas.map (fun entry => (entry.2.recordName, entry.2.fields.map (·.name))) =
        [("None_", ["class_", "copy_", "field_2"])] ∧
      HasDeclarableNames classConfig := by
  have hmethods : HasSupportedMethods classConfig := by decide +kernel
  exact ⟨hasInferredSchemas_classConfig, hmethods, by decide +kernel, by decide +kernel,
    names_declarable hasInferredSchemas_classConfig hmethods⟩

/-- The stem of an API called `class` is a keyword. -/
theorem stem_named_class :
    HasInferredSchemas classConfig ∧ HasSupportedMethods classConfig ∧
      ¬ IsLegal (stemOf classConfig) := by
  have hkeyword : stemOf classConfig ∈ keywords := by decide +kernel
  exact ⟨hasInferredSchemas_classConfig, by decide +kernel, fun h => h.not_keyword hkeyword⟩

end RestConnector.Generation
