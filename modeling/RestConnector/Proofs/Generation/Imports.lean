import RestConnector.Proofs.Emit.References
import RestConnector.Proofs.Generation.Bindings
import RestConnector.Proofs.Generation.Files
import RestConnector.Proofs.Schema.Inference

/-!
# Relative imports of a connector

A relative import is legal if it names its module by an identifier that is no keyword (`IsModuleName`).
The modules whose names are fixed, or formed from the name of the API, are legal whatever the API is
called (`isModuleName_fixedSiblings`).  All others are modules of records, named by the snake case of the
record type.  A record type that is inferred from a response begins with a letter, so its module has the
form of an identifier; but Pascal case hides keywords that snake case brings out again, and nothing mends
the name of a module.  Hence the relative imports of a connector are legal exactly when no record type is
in snake case a keyword (`siblings_legal_iff`).

A path whose last segment is `classes` is enough to break the rule (`record_module_named_class`).
-/

namespace RestConnector.Generation

open RestConnector.Emit RestConnector.Name RestConnector.Schema

/-! ## Legal names -/

/-- What a name must be to stand for a module in an import. -/
structure IsModuleName (name : String) : Prop where
  isIdentifier : IsIdentifier name
  not_keyword : name ∉ keywords

lemma isIdentifier_stemOf (config : Configuration) : IsIdentifier (stemOf config) := by
  have initial : "MyApi".toList.head? = some 'M' := rfl
  obtain ⟨c, hc, hletter⟩ := exists_head?_typeName initial (by decide) config.apiName
  exact isIdentifier_snakeCase hc hletter

/-- The names of the modules that are not named for records are legal. -/
lemma isModuleName_fixedSiblings (config : Configuration) :
    ∀ name ∈ fixedSiblings (stemOf config), IsModuleName name := by
  -- What is put behind the stem consists of letters and underscores, and no keyword ends in it.
  have hended (ending : String) (hchars : ending.toList.all fun c => c = '_' || isWordChar c)
      (hends : ∀ keyword ∈ keywords, ¬ ending.toList <:+ keyword.toList) :
      IsModuleName (stemOf config ++ ending) :=
    ⟨(isIdentifier_stemOf config).append (forall_of_all hchars),
      notMem_of_ending hends (ending_append _ _)⟩
  intro name hname
  simp only [fixedSiblings, List.mem_cons, List.not_mem_nil, or_false] at hname
  rcases hname with rfl | rfl | rfl | rfl
  · refine ⟨⟨by decide, forall_of_all (by decide), by decide⟩, by decide⟩
  · exact hended "_api" (by decide) (by decide)
  · exact hended "_client" (by decide) (by decide)
  · exact hended "_registration" (by decide) (by decide)

/-! ## Schemas that are inferred -/

/-- Whether every schema of a configuration is the model of some response from some path. -/
def HasInferredSchemas (config : Configuration) : Prop :=
  ∀ entry ∈ config.schemas, ∃ content path, infer? content path = some entry.2

lemma hasInferredSchemas_inferredFrom (path content : String) :
    HasInferredSchemas (inferredFrom path content) := by
  intro entry he
  obtain ⟨model, hm, rfl⟩ := List.mem_map.1 he
  exact ⟨content, path, Option.mem_toList.1 hm⟩

/-- Every model that a record is generated for is inferred, however deep it is nested. -/
lemma isInferred_of_mem_modelsOf {config : Configuration} (h : HasInferredSchemas config)
    {model : Model} (hm : model ∈ modelsOf config) : IsInferred model := by
  unfold modelsOf at hm
  split at hm
  · refine forall_closure (P := IsInferred) (fun _ hi _ hn => hi.nested hn) ?_ model hm
    intro given hgiven
    obtain ⟨entry, he, rfl⟩ := List.mem_map.1 hgiven
    obtain ⟨content, path, hinfer⟩ := h entry he
    exact isInferred_of_infer? hinfer
  · exact absurd hm List.not_mem_nil

lemma isIdentifier_recordModuleName {model : Model} (h : IsInferred model) :
    IsIdentifier (recordModuleName model) := by
  obtain ⟨name, hname⟩ := h.exists_recordName
  have initial : "Item".toList.head? = some 'I' := rfl
  obtain ⟨c, hc, hletter⟩ := exists_head?_typeName initial (by decide) name
  rw [recordModuleName, hname]
  exact isIdentifier_snakeCase hc hletter

/-! ## Legal imports -/

lemma siblings_recordModules_legal_iff {config : Configuration} (h : HasInferredSchemas config) :
    (∀ entry ∈ recordModules config, ∀ name ∈ entry.2.siblings, IsModuleName name) ↔
      ∀ model ∈ modelsOf config, recordModuleName model ∉ keywords := by
  unfold recordModules
  split
  · simp only [List.forall_mem_append, List.forall_mem_map, List.forall_mem_singleton,
      siblings_recordModule, siblings_recordsPackage]
    constructor
    · rintro ⟨-, hpackage⟩ model hm
      exact (hpackage model hm).not_keyword
    · intro hkeywords
      have hlegal : ∀ model ∈ modelsOf config, IsModuleName (recordModuleName model) :=
        fun model hm => ⟨isIdentifier_recordModuleName (isInferred_of_mem_modelsOf h hm),
          hkeywords model hm⟩
      refine ⟨fun model hm entry hentry => ?_, hlegal⟩
      -- The record type that is imported is that of a generated model, and so is its module.
      obtain ⟨-, other, hother, hname⟩ :=
        exists_of_mem_forwardImports hm (List.mem_map_of_mem hentry)
      have hmodule : entry.1 = recordModuleName other := by
        rw [fst_of_mem_forwardImports hentry, recordModuleName, hname]
      rw [hmodule]
      exact hlegal other hother
  · next hnone => simp [modelsOf_eq_nil hnone]

lemma siblings_operationModules_legal (config : Configuration) :
    ∀ entry ∈ operationModules config, ∀ name ∈ entry.2.siblings, IsModuleName name := by
  have hfixed : ∀ entry ∈ operationModules config,
      entry.2.siblings ⊆ fixedSiblings (stemOf config) := by
    have hregistration : Module.siblings (registrationModule (apiNameOf config) (stemOf config)
        config.baseUrl) ⊆ fixedSiblings (stemOf config) := by
      rw [siblings_registrationModule]
      simp [fixedSiblings]
    unfold operationModules
    by_cases hcontract : hasContract config
    · by_cases hclient : config.options.client <;>
        by_cases hregister : config.options.registration <;>
          simp [hcontract, hclient, hregister, hregistration, siblings_contractModule,
            siblings_clientModule]
    · simp [hcontract]
  intro entry he name hname
  exact isModuleName_fixedSiblings config name (hfixed entry he hname)

/-- The relative imports of a connector whose schemas are inferred are legal exactly when no record type
is a keyword in snake case. -/
theorem siblings_legal_iff {config : Configuration} (h : HasInferredSchemas config) :
    ∃ files, generate standardWriter config = .ok files ∧
      files.map (·.content) = (modulesOf config).map Module.text ∧
      ((∀ module ∈ modulesOf config, ∀ name ∈ module.siblings, IsModuleName name) ↔
        ∀ model ∈ modelsOf config, recordModuleName model ∉ keywords) := by
  obtain ⟨files, hfiles⟩ := exists_generate_standardWriter config
  refine ⟨files, hfiles, contents_generate hfiles, ?_⟩
  have hroot : ∀ module ∈ (if (exportedModules config).isEmpty then []
      else [packageModule (apiNameOf config) (stemOf config) ((exportedModules config).map (·.1))]),
      ∀ name ∈ module.siblings, IsModuleName name := by
    intro module hm name hname
    split at hm
    · exact absurd hm List.not_mem_nil
    · rw [List.mem_singleton.1 hm] at hname
      exact isModuleName_fixedSiblings config name (siblings_packageModule _ _ _ hname)
  rw [modulesOf, List.forall_mem_append, List.forall_mem_map, exportedModules,
    List.forall_mem_append, siblings_recordModules_legal_iff h]
  exact ⟨fun hall => hall.1.1,
    fun hkeywords => ⟨⟨hkeywords, siblings_operationModules_legal config⟩, hroot⟩⟩

/-- The modules for users import from one another legally. -/
theorem siblings_legal_usersConfig :
    HasInferredSchemas usersConfig ∧ ∃ files, generate standardWriter usersConfig = .ok files ∧
      ∀ module ∈ modulesOf usersConfig, ∀ name ∈ module.siblings, IsModuleName name := by
  have hinferred : HasInferredSchemas usersConfig := hasInferredSchemas_inferredFrom _ _
  obtain ⟨files, hfiles, -, hlegal⟩ := siblings_legal_iff hinferred
  have hkeywords : ∀ model ∈ modelsOf usersConfig, recordModuleName model ∉ keywords := by
    decide +kernel
  exact ⟨hinferred, files, hfiles, hlegal.2 hkeywords⟩

/-- The record of a resource called `classes` has the module `class`, from which nothing can be imported. -/
theorem record_module_named_class :
    "class" ∈ (modulesOf (inferredFrom "/classes" "[\x7b\"a\": 1\x7d]")).flatMap Module.siblings ∧
      ¬ IsModuleName "class" := by
  constructor
  · decide +kernel
  · intro h
    exact h.not_keyword (by decide)

end RestConnector.Generation
