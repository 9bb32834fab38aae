import Mathlib.Data.List.Pairwise
import RestConnector.Proofs.Emit.Bindings
import RestConnector.Proofs.Generation.Parts

/-!
# Names that a connector binds

Every module of a connector binds its names once and lists no export twice, as long as the record types
and collections of the API have clear names.  What these are is told by four conditions
(`HasClearNames`): the module of a record imports none of the names that it defines, the package of
records exports no name twice, and neither the contract nor the client has a name of its own that is also
the name of a record type.  Nothing in a generation sees to any of them, and each of them is needed
(`modules_clear_iff`).

A path whose last segment is `lists` is enough for the record to take the name of an imported type
(`record_named_list`).
-/

namespace RestConnector.Generation

open RestConnector.Emit RestConnector.Schema

/-! ## The modules behind the files -/

/-- The modules of the package of models. -/
def recordModules (config : Configuration) : List (Artifact × Module) :=
  if config.options.models && !config.schemas.isEmpty then
    (modelsOf config).map (fun model =>
      (.model, recordModule config.options.frozenModels config.options.optionalTypes model)) ++
    [(.package, recordsPackage (modelsOf config))]
  else []

/-- Whether there is a contract. -/
def hasContract (config : Configuration) : Bool :=
  config.options.contract && !(operationsOf config).isEmpty

/-- The modules of the operations. -/
def operationModules (config : Configuration) : List (Artifact × Module) :=
  if hasContract config then
    [(.contract, contractModule (apiNameOf config) config.baseUrl (operationsOf config))] ++
    if config.options.client then
      [(.client, clientModule (apiNameOf config) (stemOf config) (operationsOf config))] ++
      if config.options.registration then
        [(.registration,
          registrationModule (apiNameOf config) (stemOf config) config.baseUrl)]
      else []
    else []
  else []

/-- The modules that the root module exports from. -/
def exportedModules (config : Configuration) : List (Artifact × Module) :=
  recordModules config ++ operationModules config

/-- The modules of a connector, in the order of its files. -/
def modulesOf (config : Configuration) : List Module :=
  (exportedModules config).map (·.2) ++
    if (exportedModules config).isEmpty then []
    else [packageModule (apiNameOf config) (stemOf config) ((exportedModules config).map (·.1))]

/-- The artifact and text of a file. -/
def page (file : SourceFile) : Artifact × String :=
  (file.artifact, file.content)

lemma pages_modelPart (config : Configuration) :
    (modelPart config).map page = (recordModules config).map fun entry => (entry.1, entry.2.text) := by
  unfold modelPart recordModules modelsOf
  by_cases hm : config.options.models
  · split
    · simp [modelFiles, page, Function.comp_def]
    · rfl
  · simp [hm]

lemma pages_operationPart (config : Configuration) :
    (operationPart config).map page =
      (operationModules config).map fun entry => (entry.1, entry.2.text) := by
  unfold operationPart operationModules hasContract
  split_ifs <;> rfl

lemma pages_exportedFiles (config : Configuration) :
    (exportedFiles config).map page =
      (exportedModules config).map fun entry => (entry.1, entry.2.text) := by
  rw [exportedFiles, List.map_append, pages_modelPart, pages_operationPart, exportedModules,
    List.map_append]

/-- The root file has the text of the root module, which looks at nothing but what there is to export. -/
lemma rootFile_exportedFiles (config : Configuration) :
    rootFile (apiNameOf config) (stemOf config) (exportedFiles config) =
      if (exportedModules config).isEmpty then []
      else [{ name := packageFile, artifact := .package
              content := (packageModule (apiNameOf config) (stemOf config)
                ((exportedModules config).map (·.1))).text }] := by
  have hartifacts : (exportedFiles config).map (·.artifact) = (exportedModules config).map (·.1) := by
    simpa [page, Function.comp_def] using congrArg (List.map Prod.fst) (pages_exportedFiles config)
  have hempty : (exportedFiles config).isEmpty = (exportedModules config).isEmpty := by
    rw [← List.isEmpty_map (f := fun file : SourceFile => file.artifact), hartifacts,
      List.isEmpty_map]
  rw [rootFile, hempty, hartifacts]

/-- Each file has the text of its module. -/
lemma contents_generate {config : Configuration} {files : List SourceFile}
    (h : generate standardWriter config = .ok files) :
    files.map (·.content) = (modulesOf config).map Module.text := by
  have hcontents : (exportedFiles config).map (·.content) =
      ((exportedModules config).map (·.2)).map Module.text := by
    simpa [page, Function.comp_def] using congrArg (List.map Prod.snd) (pages_exportedFiles config)
  rw [generate_standardWriter] at h
  obtain rfl := Except.ok.inj h
  rw [List.map_append, hcontents, modulesOf, List.map_append, rootFile_exportedFiles]
  split <;> rfl

/-! ## Clear names -/

/-- What the names of record types and collections must be for every module to bind its names once. -/
structure HasClearNames (config : Configuration) : Prop where
  /-- A record module imports none of the names that it defines. -/
  records : ∀ model ∈ modelsOf config,
    (importedNames config.options.optionalTypes model).Disjoint (definedNames model)
  /-- No name is exported twice. -/
  package : ((modelsOf config).flatMap exportedNames ++ ["__all__"]).Nodup
  contract : hasContract config →
    (contractNames (apiNameOf config) (operationsOf config)).Disjoint
      (modelNames (operationsOf config))
  client : hasContract config → config.options.client →
    (clientNames (apiNameOf config) (operationsOf config)).Disjoint
      (modelNames (operationsOf config))

/-- A record type that a gathered model refers to is that of a gathered model. -/
lemma exists_of_mem_forwardImports {config : Configuration} {model : Model} {name : String}
    (hm : model ∈ modelsOf config) (hn : name ∈ (forwardImports model).map (·.2)) :
    name ≠ model.recordName ∧ ∃ other ∈ modelsOf config, other.recordName = name := by
  obtain ⟨hne, nested, hnested, rfl⟩ := mem_forwardImports.1 hn
  exact ⟨hne, List.mem_map.1 (nestedClaimed_modelsOf hm nested hnested)⟩

/-- The collection of a model has the name of no record type that the model refers to, as long as no name
is exported twice. -/
lemma exported_disjoint_forward {config : Configuration} {model : Model}
    (hpackage : ((modelsOf config).flatMap exportedNames).Nodup) (hm : model ∈ modelsOf config) :
    (exportedNames model).Disjoint ((forwardImports model).map (·.2)) := by
  intro name hname hforward
  obtain ⟨hne, other, hother, rfl⟩ := exists_of_mem_forwardImports hm hforward
  have hpairs := (List.nodup_flatMap.1 hpackage).2
  have hsymm : Std.Symm (Function.onFun List.Disjoint exportedNames) :=
    ⟨fun _ _ h => List.disjoint_symm h⟩
  have hdisjoint : (exportedNames model).Disjoint (exportedNames other) := by
    refine hpairs.forall hm hother ?_
    rintro rfl
    exact hne rfl
  exact hdisjoint hname List.mem_cons_self

/-! ## Every module -/

lemma recordModules_clear_iff (config : Configuration) :
    (∀ entry ∈ recordModules config, entry.2.IsClear) ↔
      (∀ model ∈ modelsOf config,
        (importedNames config.options.optionalTypes model).Disjoint (definedNames model)) ∧
      ((modelsOf config).flatMap exportedNames ++ ["__all__"]).Nodup := by
  unfold recordModules
  split
  · simp only [List.forall_mem_append, List.forall_mem_map, List.forall_mem_singleton,
      isClear_recordModule_iff, isClear_recordsPackage_iff]
    constructor
    · rintro ⟨hrecords, hpackage⟩
      exact ⟨fun model hm => (hrecords model hm).1, hpackage⟩
    · rintro ⟨hrecords, hpackage⟩
      have hexported := hpackage.sublist (List.sublist_append_left _ _)
      exact ⟨fun model hm => ⟨hrecords model hm, exported_disjoint_forward hexported hm⟩, hpackage⟩
  · next h => simp [modelsOf_eq_nil h]

lemma operationModules_clear_iff (config : Configuration) :
    (∀ entry ∈ operationModules config, entry.2.IsClear) ↔
      (hasContract config → (contractNames (apiNameOf config) (operationsOf config)).Disjoint
        (modelNames (operationsOf config))) ∧
      (hasContract config → config.options.client →
        (clientNames (apiNameOf config) (operationsOf config)).Disjoint
          (modelNames (operationsOf config))) := by
  unfold operationModules
  by_cases hcontract : hasContract config
  · by_cases hclient : config.options.client <;>
      by_cases hregistration : config.options.registration <;>
        simp [hcontract, hclient, hregistration, isClear_contractModule_iff,
          isClear_clientModule_iff, isClear_registrationModule]
  · simp [hcontract]

/-- Every module of a connector is clear exactly when the names of its records are. -/
theorem modules_clear_iff (config : Configuration) :
    ∃ files, generate standardWriter config = .ok files ∧
      files.map (·.content) = (modulesOf config).map Module.text ∧
      ((∀ module ∈ modulesOf config, module.IsClear) ↔ HasClearNames config) := by
  obtain ⟨files, h⟩ := exists_generate_standardWriter config
  refine ⟨files, h, contents_generate h, ?_⟩
  have hroot : ∀ module ∈ (if (exportedModules config).isEmpty then []
      else [packageModule (apiNameOf config) (stemOf config) ((exportedModules config).map (·.1))]),
      module.IsClear := by
    intro module hm
    split at hm
    · exact absurd hm List.not_mem_nil
    · rw [List.mem_singleton.1 hm]
      exact isClear_packageModule _ _ _
  rw [modulesOf, List.forall_mem_append, List.forall_mem_map, exportedModules,
    List.forall_mem_append, recordModules_clear_iff, operationModules_clear_iff]
  constructor
  · rintro ⟨⟨⟨hrecords, hpackage⟩, hcontract, hclient⟩, -⟩
    exact ⟨hrecords, hpackage, hcontract, hclient⟩
  · rintro ⟨hrecords, hpackage, hcontract, hclient⟩
    exact ⟨⟨⟨hrecords, hpackage⟩, hcontract, hclient⟩, hroot⟩

/-- The record of a resource called `lists` takes the name of the type of lists. -/
theorem record_named_list :
    ((modulesOf (inferredFrom "/lists" "[\x7b\"a\": 1\x7d]")).map Module.binds).head? =
        some ["List", "BaseModel", "ConfigDict", "List", "Lists"] ∧
      ¬ ["List", "BaseModel", "ConfigDict", "List", "Lists"].Nodup := by
  decide +kernel

end RestConnector.Generation
