import RestConnector.Generation
import RestConnector.Proofs.Emit.Closure
import RestConnector.Proofs.Operation.Plan

/-!
# Parts of a generation

A generation has three parts: the package of models, the modules of the operations, and the root module
that exports what the others provide (`generate_ok`).  Only the second can fail, and it does exactly when a
contract is wanted for some endpoints and cannot be written (`generate_eq_error_iff`).

The definitions here name what the parts are made from: the name of the API, the gathered models and the
planned operations.
-/

namespace RestConnector.Generation

open RestConnector.Emit RestConnector.Name

/-! ## What is generated from -/

/-- The name that the generated code has for the API. -/
def apiNameOf (config : Configuration) : String :=
  typeName config.apiName "MyApi"

/-- What the names of the root's modules begin with. -/
def stemOf (config : Configuration) : String :=
  snakeCase (apiNameOf config)

/-- The models that a record is generated for. -/
def modelsOf (config : Configuration) : List Schema.Model :=
  if config.options.models then Emit.closure (config.schemas.map (·.2)) else []

/-- The operations that are generated. -/
def operationsOf (config : Configuration) : List Operation :=
  Operation.planAll config.endpoints (if config.options.models then config.schemas else [])

lemma nodup_recordNames_modelsOf (config : Configuration) :
    (recordNames (modelsOf config)).Nodup := by
  unfold modelsOf
  split
  · exact nodup_recordNames_closure _
  · exact List.nodup_nil

/-- The models whose records are generated refer to one another only. -/
lemma nestedClaimed_modelsOf {config : Configuration} {model : Schema.Model}
    (h : model ∈ modelsOf config) : NestedClaimed (modelsOf config) model := by
  unfold modelsOf at h ⊢
  split at h
  · next hmodels =>
    rw [if_pos hmodels]
    exact nestedClaimed_closure h
  · exact absurd h List.not_mem_nil

/-- Without schemas, or where no models are wanted, there are none. -/
lemma modelsOf_eq_nil {config : Configuration}
    (h : ¬ (config.options.models && !config.schemas.isEmpty) = true) : modelsOf config = [] := by
  unfold modelsOf
  split
  · next hmodels =>
    have hschemas : config.schemas = [] := by simpa [hmodels] using h
    rw [hschemas]
    rfl
  · rfl

/-- The files in the package of models. -/
def modelPart (config : Configuration) : List SourceFile :=
  if config.options.models && !config.schemas.isEmpty then modelFiles config.options config.schemas
  else []

/-- Nothing but the contract's writer can fail. -/
lemma generate_eq (writer : ContractWriter) (config : Configuration) :
    generate writer config =
      (operationFiles writer config.options (apiNameOf config) (stemOf config) config.baseUrl
        (operationsOf config)).bind fun rest =>
          .ok (modelPart config ++ rest ++
            rootFile (apiNameOf config) (stemOf config) (modelPart config ++ rest)) :=
  rfl

/-- A generation that succeeds has the files of models, those of operations and the root module. -/
lemma generate_ok {writer : ContractWriter} {config : Configuration} {files : List SourceFile}
    (h : generate writer config = .ok files) :
    ∃ rest, operationFiles writer config.options (apiNameOf config) (stemOf config) config.baseUrl
        (operationsOf config) = .ok rest ∧
      files = modelPart config ++ rest ++
        rootFile (apiNameOf config) (stemOf config) (modelPart config ++ rest) := by
  rw [generate_eq] at h
  cases hrest : operationFiles writer config.options (apiNameOf config) (stemOf config)
      config.baseUrl (operationsOf config) with
  | error message => simp [hrest, Except.bind] at h
  | ok rest =>
    rw [hrest] at h
    exact ⟨rest, rfl, (Except.ok.inj h).symm⟩

/-- Every endpoint has an operation. -/
lemma operationsOf_eq_nil_iff {config : Configuration} :
    operationsOf config = [] ↔ config.endpoints = [] := by
  have hlength := (Operation.forall₂_planAll config.endpoints
    (if config.options.models then config.schemas else [])).length_eq
  rw [operationsOf, ← List.length_eq_zero_iff, ← hlength, List.length_eq_zero_iff]

/-- A generation fails exactly when there is a contract to be written and its writer fails. -/
theorem generate_eq_error_iff {writer : ContractWriter} {config : Configuration} {message : String} :
    generate writer config = .error message ↔
      config.options.contract ∧ config.endpoints ≠ [] ∧
        writer (apiNameOf config) config.baseUrl (operationsOf config) = .error message := by
  rw [generate_eq, ne_eq, ← operationsOf_eq_nil_iff]
  unfold operationFiles
  split
  · next hwanted =>
    obtain ⟨hcontract, hsome⟩ : config.options.contract ∧ operationsOf config ≠ [] := by
      simpa using hwanted
    cases hw : writer (apiNameOf config) config.baseUrl (operationsOf config) with
    | error fault => simp [bind, Except.bind, hcontract, hsome]
    | ok contract =>
      simp only [bind, Except.bind, pure, Except.pure, reduceCtorEq, and_false]
  · next hunwanted =>
    have hno : ¬ (config.options.contract ∧ operationsOf config ≠ []) := by
      simpa using hunwanted
    constructor
    · nofun
    · exact fun h => absurd ⟨h.1, h.2.1⟩ hno

/-! ## The files of the standard writer -/

/-- The files of the operations. -/
def operationPart (config : Configuration) : List SourceFile :=
  let apiName := apiNameOf config
  let stem := stemOf config
  if config.options.contract && !(operationsOf config).isEmpty then
    [{ name := stem ++ "_api.py", artifact := .contract
       content := (contractModule apiName config.baseUrl (operationsOf config)).text }] ++
    if config.options.client then
      [{ name := stem ++ "_client.py", artifact := .client
         content := (clientModule apiName stem (operationsOf config)).text }] ++
      if config.options.registration then
        [{ name := stem ++ "_registration.py", artifact := .registration
           content := (registrationModule apiName stem config.baseUrl).text }]
      else []
    else []
  else []

/-- The files that the root module exports from. -/
def exportedFiles (config : Configuration) : List SourceFile :=
  modelPart config ++ operationPart config

lemma operationFiles_standardWriter (config : Configuration) :
    operationFiles standardWriter config.options (apiNameOf config) (stemOf config) config.baseUrl
      (operationsOf config) = .ok (operationPart config) := by
  unfold operationFiles operationPart
  split <;> rfl

/-- A writer that never fails makes no generation fail. -/
lemma generate_standardWriter (config : Configuration) :
    generate standardWriter config = .ok (exportedFiles config ++
      rootFile (apiNameOf config) (stemOf config) (exportedFiles config)) := by
  rw [generate_eq, operationFiles_standardWriter]
  rfl

lemma exists_generate_standardWriter (config : Configuration) :
    ∃ files, generate standardWriter config = .ok files :=
  ⟨_, generate_standardWriter config⟩

/-- A configuration for one endpoint, with the schema that is inferred from an answer of it. -/
def inferredFrom (path content : String) : Configuration :=
  { endpoints := [{ method := "GET", path }]
    schemas := (Schema.infer? content path).toList.map fun model => (model.name, model) }

end RestConnector.Generation
