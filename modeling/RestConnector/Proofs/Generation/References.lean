import RestConnector.Proofs.Emit.References
import RestConnector.Proofs.Generation.Bindings
import RestConnector.Proofs.Generation.Files
import RestConnector.Proofs.Operation.Resource

/-!
# Imports between the files of a connector

The files of a connector import from one another by the places that their modules have (`targetPlace`): a
module of the same directory, or the package of models.  The parts of a generation agree on what there is
to import.  A record module refers to record types that are gathered with its own, the contract and the
client to those of schemas that are gathered first, and the root module looks at what has been generated
before it imports anything; so every import `Resolves`, whatever the configuration.

A target is a place, and a place may have been written twice.  Every import has a single file for its
target exactly when the records have different modules (`references_resolve_uniquely_iff`).  Otherwise a
record type is imported that has been overwritten by another one of its module
(`overwritten_record_is_imported`).
-/

namespace RestConnector.Generation

open RestConnector.Emit RestConnector.Schema RestConnector.Text

/-! ## Modules in their places -/

/-- A module with the directory and the name of its file. -/
abbrev PlacedModule := (String × String) × Module

/-- The modules of the package of models. -/
def placedRecords (config : Configuration) : List PlacedModule :=
  if config.options.models && !config.schemas.isEmpty then
    (modelsOf config).map (fun model => (recordPlace (recordModuleName model),
      recordModule config.options.frozenModels config.options.optionalTypes model)) ++
    [(("models", packageFile), recordsPackage (modelsOf config))]
  else []

/-- The modules of the operations. -/
def placedOperations (config : Configuration) : List PlacedModule :=
  let apiName := apiNameOf config
  let stem := stemOf config
  if hasContract config then
    [(("", stem ++ "_api.py"), contractModule apiName config.baseUrl (operationsOf config))] ++
    if config.options.client then
      [(("", stem ++ "_client.py"), clientModule apiName stem (operationsOf config))] ++
      if config.options.registration then
        [(("", stem ++ "_registration.py"), registrationModule apiName stem config.baseUrl)]
      else []
    else []
  else []

/-- The root module. -/
def placedRoot (config : Configuration) : List PlacedModule :=
  if (exportedModules config).isEmpty then []
  else [(("", packageFile), packageModule (apiNameOf config) (stemOf config)
    ((exportedModules config).map (·.1)))]

/-- The modules of a connector, in the order of its files. -/
def placedModules (config : Configuration) : List PlacedModule :=
  placedRecords config ++ placedOperations config ++ placedRoot config

/-- The place and content of a file. -/
def sheet (file : SourceFile) : (String × String) × String :=
  (place file, file.content)

lemma sheets_modelPart (config : Configuration) :
    (modelPart config).map sheet = (placedRecords config).map fun entry => (entry.1, entry.2.text) := by
  unfold modelPart placedRecords modelsOf
  by_cases hm : config.options.models
  · split
    · simp [modelFiles, sheet, place, recordPlace, Function.comp_def]
    · rfl
  · simp [hm]

lemma sheets_operationPart (config : Configuration) :
    (operationPart config).map sheet =
      (placedOperations config).map fun entry => (entry.1, entry.2.text) := by
  unfold operationPart placedOperations hasContract
  split_ifs <;> rfl

/-- Each file has its place and the text of its module. -/
lemma sheets_generate {config : Configuration} {files : List SourceFile}
    (h : generate standardWriter config = .ok files) :
    files.map sheet = (placedModules config).map fun entry => (entry.1, entry.2.text) := by
  have hroot : (rootFile (apiNameOf config) (stemOf config) (exportedFiles config)).map sheet =
      (placedRoot config).map fun entry => (entry.1, entry.2.text) := by
    rw [rootFile_exportedFiles, placedRoot]
    split <;> rfl
  rw [generate_standardWriter] at h
  obtain rfl := Except.ok.inj h
  rw [List.map_append, hroot, exportedFiles, List.map_append, sheets_modelPart, sheets_operationPart,
    placedModules, List.map_append, List.map_append]

lemma places_placedModules {config : Configuration} {files : List SourceFile}
    (h : generate standardWriter config = .ok files) :
    (placedModules config).map (·.1) = files.map place := by
  have hplaces := congrArg (List.map Prod.fst) (sheets_generate h)
  rw [List.map_map, List.map_map] at hplaces
  exact hplaces.symm

/-! ## Where modules are -/

section Members

variable {config : Configuration}

/-- The package of models is there as soon as there is a model. -/
lemma placedRecords_of_mem {model : Model} (h : model ∈ modelsOf config) :
    placedRecords config =
      (modelsOf config).map (fun model => (recordPlace (recordModuleName model),
        recordModule config.options.frozenModels config.options.optionalTypes model)) ++
      [(("models", packageFile), recordsPackage (modelsOf config))] := by
  rw [placedRecords, if_pos]
  by_contra hnone
  rw [modelsOf_eq_nil hnone] at h
  cases h

lemma record_mem_placedModules {model : Model} (h : model ∈ modelsOf config) :
    (recordPlace (recordModuleName model),
      recordModule config.options.frozenModels config.options.optionalTypes model) ∈
      placedModules config := by
  refine List.mem_append_left _ (List.mem_append_left _ ?_)
  rw [placedRecords_of_mem h]
  exact List.mem_append_left _ (List.mem_map_of_mem h)

lemma package_mem_placedModules {model : Model} (h : model ∈ modelsOf config) :
    (("models", packageFile), recordsPackage (modelsOf config)) ∈ placedModules config := by
  refine List.mem_append_left _ (List.mem_append_left _ ?_)
  rw [placedRecords_of_mem h]
  exact List.mem_append_right _ List.mem_cons_self

lemma contract_mem_placedModules (h : hasContract config) :
    (("", stemOf config ++ "_api.py"),
      contractModule (apiNameOf config) config.baseUrl (operationsOf config)) ∈
      placedModules config := by
  simp [placedModules, placedOperations, h]

lemma client_mem_placedModules (h : hasContract config) (hclient : config.options.client) :
    (("", stemOf config ++ "_client.py"),
      clientModule (apiNameOf config) (stemOf config) (operationsOf config)) ∈
      placedModules config := by
  simp [placedModules, placedOperations, h, hclient]

lemma registration_mem_placedModules (h : hasContract config) (hclient : config.options.client)
    (hregistration : config.options.registration) :
    (("", stemOf config ++ "_registration.py"),
      registrationModule (apiNameOf config) (stemOf config) config.baseUrl) ∈
      placedModules config := by
  simp [placedModules, placedOperations, h, hclient, hregistration]

lemma root_mem_placedModules (h : ¬ (exportedModules config).isEmpty) :
    (("", packageFile), packageModule (apiNameOf config) (stemOf config)
      ((exportedModules config).map (·.1))) ∈ placedModules config := by
  simp [placedModules, placedRoot, h]

end Members

/-! ## Targets -/

/-- The place of the file that a relative import in a directory takes names from. -/
def targetPlace (directory name : String) : String × String :=
  if directory = "" ∧ name = "models" then ("models", packageFile) else (directory, name ++ ".py")

/-- The modules that are at the target of a relative import. -/
def targetsOf (config : Configuration) (directory name : String) : List PlacedModule :=
  (placedModules config).filter fun entry => entry.1 = targetPlace directory name

/-- Whether what a relative import takes is there, at its target. -/
def Resolves (config : Configuration) (directory : String) (reference : String × List String) : Prop :=
  ∃ target ∈ targetsOf config directory reference.1, ∀ name ∈ reference.2, target.2.offers name

section Resolution

variable {config : Configuration}

lemma resolves_of_mem {directory name : String} {names : List String} {target : PlacedModule}
    (hm : target ∈ placedModules config) (hplace : target.1 = targetPlace directory name)
    (hoffers : ∀ name ∈ names, target.2.offers name) : Resolves config directory (name, names) :=
  ⟨target, List.mem_filter.2 ⟨hm, by simpa using hplace⟩, hoffers⟩

/-- Modules at the root that are named for the API are no package of models. -/
lemma targetPlace_append (stem : String) {ending file : String}
    (h : ¬ ending.toList <:+ "models".toList) (hfile : ending ++ ".py" = file) :
    ("", stem ++ file) = targetPlace "" (stem ++ ending) := by
  have hne : stem ++ ending ≠ "models" := by
    rintro he
    exact h ⟨stem.toList, by rw [← String.toList_append, he]⟩
  rw [targetPlace, if_neg fun hm => hne hm.2, String.append_assoc, hfile]

/-- A record type is taken from the module of a model that has it. -/
lemma resolves_record {model : Model} (hm : model ∈ modelsOf config) {names : List String}
    (hnames : names ⊆ exportedNames model) :
    Resolves config "models" (recordModuleName model, names) := by
  refine resolves_of_mem (record_mem_placedModules hm) ?_ fun name hname => ?_
  · rw [targetPlace, if_neg fun h => absurd h.1 (by decide), recordPlace]
  · exact offers_recordModule _ _ (hnames hname)

lemma mem_modelNames {operations : List Operation} {name : String} :
    name ∈ modelNames operations ↔
      ∃ operation ∈ operations, ∃ model, operation.model = some model ∧ model.recordName = name := by
  simp [modelNames, Sorted.sortedSet, (Sorted.sort_perm _ _).mem_iff, Sorted.mem_distinct]

/-- The model of an operation is that of a schema. -/
lemma exists_schema_of_mem_planAll {endpoints : List Endpoint} {schemas : List (String × Model)}
    {operation : Operation} (h : operation ∈ Operation.planAll endpoints schemas) {model : Model}
    (hm : operation.model = some model) : ∃ entry ∈ schemas, entry.2 = model := by
  obtain ⟨endpoint, -, name, hplan⟩ := Operation.exists_plan_of_mem_planAll h
  have hmodel : operation.model = (Operation.plan schemas endpoint).model := by rw [hplan]
  exact Operation.exists_schema_of_model_plan (hmodel ▸ hm)

/-- A record type that operations refer to is that of a generated model. -/
lemma exists_model_of_mem_modelNames {name : String} (h : name ∈ modelNames (operationsOf config)) :
    ∃ model ∈ modelsOf config, model.recordName = name := by
  obtain ⟨operation, hoperation, model, hm, rfl⟩ := mem_modelNames.1 h
  obtain ⟨entry, hentry, rfl⟩ := exists_schema_of_mem_planAll hoperation hm
  unfold modelsOf
  split at hentry
  · next hmodels =>
    rw [if_pos hmodels]
    have hgiven : entry.2.recordName ∈ recordNames (config.schemas.map (·.2)) :=
      List.mem_map_of_mem (List.mem_map_of_mem hentry)
    exact List.mem_map.1 (recordNames_subset_closure _ hgiven)
  · cases hentry

lemma resolves_modelReferences :
    ∀ reference ∈ modelReferences (operationsOf config), Resolves config "" reference := by
  intro reference hr
  have hnames : reference = ("models", modelNames (operationsOf config)) ∧
      modelNames (operationsOf config) ≠ [] := by
    unfold modelReferences at hr
    split at hr
    · cases hr
    · next hne => exact ⟨List.mem_singleton.1 hr, fun hnil => hne hnil⟩
  obtain ⟨rfl, hne⟩ := hnames
  obtain ⟨name, hname⟩ := List.exists_mem_of_ne_nil _ hne
  obtain ⟨model, hmodel, -⟩ := exists_model_of_mem_modelNames hname
  refine resolves_of_mem (package_mem_placedModules hmodel) rfl fun name hname => ?_
  obtain ⟨model, hmodel, rfl⟩ := exists_model_of_mem_modelNames hname
  exact offers_recordsPackage (List.mem_flatMap.2 ⟨model, hmodel, List.mem_cons_self⟩)

lemma resolves_api (h : hasContract config) {names : List String}
    (hnames : names ⊆ [implementationName (apiNameOf config), contractName (apiNameOf config)]) :
    Resolves config "" (stemOf config ++ "_api", names) := by
  refine resolves_of_mem (contract_mem_placedModules h) ?_ fun name hname => ?_
  · exact targetPlace_append _ (by decide) (by decide)
  · exact offers_contractModule _ _ _ (hnames hname)

lemma resolves_client (h : hasContract config) (hclient : config.options.client) :
    Resolves config "" (stemOf config ++ "_client", [clientName (apiNameOf config)]) := by
  refine resolves_of_mem (client_mem_placedModules h hclient) ?_ fun name hname => ?_
  · exact targetPlace_append _ (by decide) (by decide)
  · rw [List.mem_singleton.1 hname]
    exact offers_clientModule _ _ _

lemma resolves_registration (h : hasContract config) (hclient : config.options.client)
    (hregistration : config.options.registration) :
    Resolves config ""
      (stemOf config ++ "_registration", optionsName :: factories (stemOf config)) := by
  refine resolves_of_mem (registration_mem_placedModules h hclient hregistration) ?_
    fun name hname => ?_
  · exact targetPlace_append _ (by decide) (by decide)
  · exact offers_registrationModule _ _ _ hname

/-! ## Every reference -/

lemma resolves_placedRecords :
    ∀ entry ∈ placedRecords config, ∀ reference ∈ entry.2.references,
      Resolves config entry.1.1 reference := by
  unfold placedRecords
  split
  · simp only [List.forall_mem_append, List.forall_mem_map, List.forall_mem_singleton,
      references_recordModule, references_recordsPackage]
    refine ⟨fun model hm entry hentry => ?_, fun model hm => ?_⟩
    · -- The record type is that of another model, which may not be the one that is nested here.
      obtain ⟨-, other, hother, hname⟩ :=
        exists_of_mem_forwardImports hm (List.mem_map_of_mem hentry)
      have hmodule : entry.1 = recordModuleName other := by
        rw [fst_of_mem_forwardImports hentry, recordModuleName, hname]
      rw [hmodule, ← hname]
      exact resolves_record hother (by simp [exportedNames])
    · exact resolves_record hm (List.Subset.refl _)
  · exact fun _ h => absurd h List.not_mem_nil

lemma resolves_contractModule :
    ∀ reference ∈ Module.references
      (contractModule (apiNameOf config) config.baseUrl (operationsOf config)),
      Resolves config "" reference := by
  rw [references_contractModule]
  exact resolves_modelReferences

lemma resolves_clientModule (h : hasContract config) :
    ∀ reference ∈ Module.references
      (clientModule (apiNameOf config) (stemOf config) (operationsOf config)),
      Resolves config "" reference := by
  rw [references_clientModule]
  exact List.forall_mem_cons.2 ⟨resolves_api h (by simp), resolves_modelReferences⟩

lemma resolves_registrationModule (h : hasContract config) (hclient : config.options.client) :
    ∀ reference ∈ Module.references
      (registrationModule (apiNameOf config) (stemOf config) config.baseUrl),
      Resolves config "" reference := by
  rw [references_registrationModule]
  exact List.forall_mem_cons.2 ⟨resolves_api h (by simp),
    List.forall_mem_singleton.2 (resolves_client h hclient)⟩

lemma resolves_placedOperations :
    ∀ entry ∈ placedOperations config, ∀ reference ∈ entry.2.references,
      Resolves config entry.1.1 reference := by
  unfold placedOperations
  by_cases hcontract : hasContract config
  · rw [if_pos hcontract]
    refine List.forall_mem_cons.2 ⟨resolves_contractModule, ?_⟩
    by_cases hclient : config.options.client
    · rw [if_pos hclient]
      refine List.forall_mem_cons.2 ⟨resolves_clientModule hcontract, ?_⟩
      by_cases hregistration : config.options.registration
      · rw [if_pos hregistration]
        exact List.forall_mem_singleton.2 (resolves_registrationModule hcontract hclient)
      · rw [if_neg hregistration]
        exact List.forall_mem_nil _
    · rw [if_neg hclient]
      exact List.forall_mem_nil _
  · rw [if_neg hcontract]
    exact List.forall_mem_nil _

/-- What is exported of the operations has been generated. -/
lemma hasContract_of_mem {artifact : Artifact}
    (h : artifact ∈ (exportedModules config).map (·.1)) :
    (artifact = .contract → hasContract config) ∧
      (artifact = .client → hasContract config ∧ config.options.client) ∧
      (artifact = .registration →
        hasContract config ∧ config.options.client ∧ config.options.registration) := by
  have hrecords : artifact ∈ (recordModules config).map (·.1) →
      artifact = .model ∨ artifact = .package := by
    unfold recordModules
    split
    · simp only [List.map_append, List.map_map, List.mem_append, List.mem_map]
      rintro (⟨model, -, rfl⟩ | ⟨entry, hpackage, rfl⟩)
      · exact .inl rfl
      · rw [List.mem_singleton.1 hpackage]
        exact .inr rfl
    · exact fun hm => absurd hm List.not_mem_nil
  rw [exportedModules, List.map_append, List.mem_append] at h
  rcases h with h | h
  · rcases hrecords h with rfl | rfl <;> simp
  · revert h
    unfold operationModules
    by_cases hcontract : hasContract config <;> by_cases hclient : config.options.client <;>
      by_cases hregistration : config.options.registration <;>
        cases artifact <;> simp [hcontract, hclient, hregistration]

lemma resolves_placedRoot :
    ∀ entry ∈ placedRoot config, ∀ reference ∈ entry.2.references,
      Resolves config entry.1.1 reference := by
  unfold placedRoot
  split
  · exact List.forall_mem_nil _
  · refine List.forall_mem_singleton.2 ?_
    rw [references_packageModule]
    intro reference hr
    obtain ⟨artifact, hartifact, hr⟩ := List.mem_flatMap.1 hr
    obtain ⟨-, hexported⟩ := List.mem_filter.1 hartifact
    obtain ⟨hcontract, hclient, hregistration⟩ := hasContract_of_mem (of_decide_eq_true hexported)
    cases artifact with
    | contract =>
      rw [List.mem_singleton.1 hr]
      exact resolves_api (hcontract rfl) (List.Subset.refl _)
    | client =>
      rw [List.mem_singleton.1 hr]
      exact resolves_client (hclient rfl).1 (hclient rfl).2
    | registration =>
      rw [List.mem_singleton.1 hr]
      obtain ⟨hc, hcl, hreg⟩ := hregistration rfl
      exact resolves_registration hc hcl hreg
    | model => cases hr
    | package => cases hr

/-- Every relative import finds what it takes. -/
lemma resolves_placedModules :
    ∀ entry ∈ placedModules config, ∀ reference ∈ entry.2.references,
      Resolves config entry.1.1 reference := by
  simp only [placedModules, List.forall_mem_append]
  exact ⟨⟨resolves_placedRecords, resolves_placedOperations⟩, resolves_placedRoot⟩

end Resolution

/-! ## One target -/

/-- In a list of different keys, one entry has the key of an entry. -/
lemma filter_eq_singleton {α β : Type} [DecidableEq β] {key : α → β} {items : List α}
    (h : (items.map key).Nodup) {item : α} (hm : item ∈ items) :
    (items.filter fun other => key other = key item) = [item] := by
  induction items with
  | nil => cases hm
  | cons first rest ih =>
    obtain ⟨hnew, hrest⟩ := List.nodup_cons.1 h
    rcases List.mem_cons.1 hm with rfl | hm
    · have hnone : (rest.filter fun other => key other = key item) = [] := by
        refine List.filter_eq_nil_iff.2 fun other ho => ?_
        have hne : key other ≠ key item := fun he => hnew (he ▸ List.mem_map_of_mem ho)
        simpa using hne
      rw [List.filter_cons_of_pos (by simp), hnone]
    · have hne : key first ≠ key item := fun he => hnew (he ▸ List.mem_map_of_mem hm)
      rw [List.filter_cons_of_neg (by simpa using hne), ih hrest hm]

/-- Whether the target of a relative import is one file, which has what the import takes. -/
def ResolvesUniquely (config : Configuration) (directory : String)
    (reference : String × List String) : Prop :=
  ∃ target, targetsOf config directory reference.1 = [target] ∧
    ∀ name ∈ reference.2, target.2.offers name

section Uniqueness

variable {config : Configuration}

lemma resolvesUniquely_of_nodup {directory : String} {reference : String × List String}
    (hplaces : ((placedModules config).map (·.1)).Nodup) (h : Resolves config directory reference) :
    ResolvesUniquely config directory reference := by
  obtain ⟨target, htarget, hoffers⟩ := h
  obtain ⟨hm, hplace⟩ := List.mem_filter.1 htarget
  have hplace : target.1 = targetPlace directory reference.1 := of_decide_eq_true hplace
  refine ⟨target, ?_, hoffers⟩
  rw [targetsOf, ← hplace]
  exact filter_eq_singleton hplaces hm

/-- The class that the module of a record defines tells the record type. -/
lemma recordName_eq_of_recordModule_eq {frozen optionalTypes : Bool} {model other : Model}
    (h : recordModule frozen optionalTypes model = recordModule frozen optionalTypes other) :
    model.recordName = other.recordName := by
  have hclass : Statement.define model.recordName (recordClass frozen model
      (model.fields.map (fieldLine optionalTypes (forwardNames model)))) ∈
      recordModule frozen optionalTypes model := define_mem_recordModule_iff.2 ⟨rfl, rfl⟩
  rw [h] at hclass
  exact (define_mem_recordModule_iff.1 hclass).1

/-- If the imports of the package of records have one target each, the records have different modules. -/
lemma hasDistinctModules_of_resolvesUniquely
    (h : ∀ entry ∈ placedModules config, ∀ reference ∈ entry.2.references,
      ResolvesUniquely config entry.1.1 reference) : HasDistinctModules config := by
  intro model hm other ho hmodule
  have hreference : (recordModuleName model, exportedNames model) ∈
      Module.references (recordsPackage (modelsOf config)) := by
    rw [references_recordsPackage]
    exact List.mem_map_of_mem hm
  obtain ⟨target, htarget, -⟩ := h _ (package_mem_placedModules hm) _ hreference
  have hall : ∀ named ∈ modelsOf config, recordModuleName named = recordModuleName model →
      (recordPlace (recordModuleName named),
        recordModule config.options.frozenModels config.options.optionalTypes named) = target := by
    intro named hnamed he
    rw [← List.mem_singleton, ← htarget]
    refine List.mem_filter.2 ⟨record_mem_placedModules hnamed, ?_⟩
    simp [targetPlace, recordPlace, he]
  have hsame := (hall model hm rfl).trans (hall other ho hmodule.symm).symm
  exact recordName_eq_of_recordModule_eq (Prod.mk.inj hsame).2

end Uniqueness

/-! ## Everything that the package of models exports -/

lemma exists_mem_modelsOf {config : Configuration}
    (h : (config.options.models && !config.schemas.isEmpty) = true) :
    ∃ model, model ∈ modelsOf config := by
  rw [Bool.and_eq_true, Bool.not_eq_true', List.isEmpty_eq_false_iff_exists_mem] at h
  obtain ⟨hmodels, entry, hentry⟩ := h
  have hgiven : entry.2.recordName ∈ recordNames (config.schemas.map (·.2)) :=
    List.mem_map_of_mem (List.mem_map_of_mem hentry)
  obtain ⟨model, hm, -⟩ := List.mem_map.1 (recordNames_subset_closure _ hgiven)
  exact ⟨model, by rwa [modelsOf, if_pos hmodels]⟩

lemma place_of_mem_placedOperations (config : Configuration) :
    ∀ entry ∈ placedOperations config, entry.1.1 = "" ∧ entry.1.2 ≠ packageFile := by
  have hapi := append_ne_packageFile (stemOf config)
    (by decide : ¬ "_api.py".toList <:+ packageFile.toList)
  have hclientFile := append_ne_packageFile (stemOf config)
    (by decide : ¬ "_client.py".toList <:+ packageFile.toList)
  have hregistrationFile := append_ne_packageFile (stemOf config)
    (by decide : ¬ "_registration.py".toList <:+ packageFile.toList)
  unfold placedOperations
  by_cases hcontract : hasContract config <;> by_cases hclient : config.options.client <;>
    by_cases hregistration : config.options.registration <;>
      simp [hcontract, hclient, hregistration, hapi, hclientFile, hregistrationFile]

lemma hasModels_of_mem_placedRecords {config : Configuration} {entry : PlacedModule}
    (h : entry ∈ placedRecords config) : config.options.models && !config.schemas.isEmpty := by
  by_contra hnone
  rw [placedRecords, if_neg hnone] at h
  cases h

lemma package_mem_places_iff {config : Configuration} :
    ("models", packageFile) ∈ (placedModules config).map (·.1) ↔
      config.options.models && !config.schemas.isEmpty := by
  constructor
  · intro h
    obtain ⟨entry, hm, hplace⟩ := List.mem_map.1 h
    simp only [placedModules, List.mem_append] at hm
    rcases hm with (hm | hm) | hm
    · exact hasModels_of_mem_placedRecords hm
    · have hroot := (place_of_mem_placedOperations config entry hm).1
      rw [hplace] at hroot
      exact absurd hroot (by decide)
    · unfold placedRoot at hm
      split at hm
      · cases hm
      · rw [List.mem_singleton.1 hm] at hplace
        exact absurd (Prod.mk.inj hplace).1 (by decide)
  · intro h
    obtain ⟨model, hm⟩ := exists_mem_modelsOf h
    exact List.mem_map_of_mem (package_mem_placedModules hm)

lemma model_mem_exportedModules_iff {config : Configuration} :
    Artifact.model ∈ (exportedModules config).map (·.1) ↔
      config.options.models && !config.schemas.isEmpty := by
  have hoperations : Artifact.model ∉ (operationModules config).map (·.1) := by
    unfold operationModules
    by_cases hcontract : hasContract config <;> by_cases hclient : config.options.client <;>
      by_cases hregistration : config.options.registration <;>
        simp [hcontract, hclient, hregistration]
  rw [exportedModules, List.map_append, List.mem_append, or_iff_left hoperations, recordModules]
  split
  · next h =>
    obtain ⟨model, hm⟩ := exists_mem_modelsOf h
    refine iff_of_true ?_ h
    rw [List.map_append, List.map_map]
    exact List.mem_append_left _ (List.mem_map.2 ⟨model, hm, rfl⟩)
  · next h => exact iff_of_false List.not_mem_nil h

/-- The root module imports everything from the package of models exactly if there is one. -/
lemma importAll_iff (config : Configuration) :
    (∃ entry ∈ placedModules config, entry.1 = ("", packageFile) ∧
      Statement.importAll ".models" ∈ entry.2) ↔
      ("models", packageFile) ∈ (placedModules config).map (·.1) := by
  rw [package_mem_places_iff]
  constructor
  · rintro ⟨entry, hm, hplace, hall⟩
    simp only [placedModules, List.mem_append] at hm
    rcases hm with (hm | hm) | hm
    · exact hasModels_of_mem_placedRecords hm
    · exact absurd (congrArg Prod.snd hplace) (place_of_mem_placedOperations config entry hm).2
    · unfold placedRoot at hm
      split at hm
      · cases hm
      · rw [List.mem_singleton.1 hm] at hall
        exact model_mem_exportedModules_iff.1 (importAll_mem_packageModule_iff.1 hall)
  · intro h
    have hmodel := model_mem_exportedModules_iff.2 h
    have hsome : ¬ (exportedModules config).isEmpty := by
      rw [List.isEmpty_iff]
      intro hnil
      rw [hnil] at hmodel
      cases hmodel
    exact ⟨_, root_mem_placedModules hsome, rfl, importAll_mem_packageModule_iff.2 hmodel⟩

/-! ## All imports -/

/-- Every relative import of a connector has a target that has what it takes, and the root module imports
everything from the package of models exactly if there is one.  The targets are single files exactly when
the records have different modules. -/
theorem references_resolve_uniquely_iff (config : Configuration) :
    ∃ files, generate standardWriter config = .ok files ∧
      files.map sheet = (placedModules config).map (fun entry => (entry.1, entry.2.text)) ∧
      (∀ entry ∈ placedModules config, ∀ reference ∈ entry.2.references,
        Resolves config entry.1.1 reference) ∧
      ((∃ entry ∈ placedModules config, entry.1 = ("", packageFile) ∧
        Statement.importAll ".models" ∈ entry.2) ↔ ("models", packageFile) ∈ files.map place) ∧
      ((∀ entry ∈ placedModules config, ∀ reference ∈ entry.2.references,
        ResolvesUniquely config entry.1.1 reference) ↔ HasDistinctModules config) := by
  obtain ⟨files, h⟩ := exists_generate_standardWriter config
  have hplaces := places_placedModules h
  refine ⟨files, h, sheets_generate h, resolves_placedModules, ?_, ?_⟩
  · rw [← hplaces]
    exact importAll_iff config
  · refine ⟨hasDistinctModules_of_resolvesUniquely, fun hdistinct entry he reference hr => ?_⟩
    have hnodup : ((placedModules config).map (·.1)).Nodup := by
      rw [hplaces]
      exact (nodup_places_iff h).2 hdistinct
    exact resolvesUniquely_of_nodup hnodup (resolves_placedModules entry he reference hr)

/-- An answer with two keys that differ only in the case of their letters. -/
def caseVariants : Configuration :=
  inferredFrom "/data" ("\x7b\"HTTPResponse\": \x7b\"a\": 1\x7d, " ++
    "\"HttpResponse\": \x7b\"b\": 2\x7d\x7d")

/-- The package of models imports `HTTPResponse` from a module that two files are written for, and the one
that is there in the end does not have it. -/
theorem overwritten_record_is_imported :
    (∃ entry ∈ placedModules caseVariants, entry.1 = ("models", packageFile) ∧
      ("http_response", ["HTTPResponse"]) ∈ entry.2.references) ∧
      (targetsOf caseVariants "models" "http_response").map
        (fun target => target.2.offers "HTTPResponse") = [true, false] ∧
      ((generate standardWriter caseVariants).toOption.map fun files =>
        (Run.deliver false caseVariants files {}).2.node? ["models", "http_response.py"]) =
        some ((targetsOf caseVariants "models" "http_response").getLast?.map
          fun target => .file target.2.text) := by
  decide +kernel

end RestConnector.Generation
