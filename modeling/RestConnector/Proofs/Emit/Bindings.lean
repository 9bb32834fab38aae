import Mathlib.Data.List.Flatten
import Mathlib.Data.List.Forall2
import Mathlib.Data.List.Perm.Basic
import RestConnector.Emit.Package
import RestConnector.Emit.Record
import RestConnector.Proofs.Text.Sorted

/-!
# Names that modules bind

A generated module binds the names that it imports and those that it defines.  Imports from libraries are
taken from a fixed table and never clash with one another; the names that are formed from the name of the
API end in words that no fixed name ends in.  What is left are the record types and collections, which
are named for what the API answers: a module binds all its names once exactly when these keep clear of
the fixed ones (`isClear_recordModule_iff`, `isClear_recordsPackage_iff`, `isClear_contractModule_iff`,
`isClear_clientModule_iff`).  The modules that do not mention records always bind their names once
(`isClear_registrationModule`, `isClear_packageModule`).
-/

namespace RestConnector.Emit

open RestConnector.Schema RestConnector.Text

/-! ## Clear modules -/

/-- What is asked of a module: no name is bound twice, and none is listed twice as an export. -/
structure Module.IsClear (module : Module) : Prop where
  nodup_binds : module.binds.Nodup
  nodup_exports : ∀ names, Statement.exports names ∈ module → names.Nodup

lemma Module.isClear_iff_of_no_exports {module : Module}
    (h : ∀ names, Statement.exports names ∉ module) : module.IsClear ↔ module.binds.Nodup :=
  ⟨fun hc => hc.nodup_binds, fun hn => ⟨hn, fun names hm => absurd hm (h names)⟩⟩

/-! ## Imports from libraries -/

@[simp] lemma binds_importStatements (imports : List (String × List String)) :
    (importStatements imports).flatMap Statement.binds = imports.flatMap (·.2) := by
  simp [importStatements, List.flatMap_map, Statement.binds]

@[simp] lemma binds_gap : gap.flatMap Statement.binds = [] := rfl

lemma exports_notMem_importStatements (imports : List (String × List String)) (names : List String) :
    Statement.exports names ∉ importStatements imports := by
  simp [importStatements]

/-- The names that can be imported at all. -/
def importableNames : List String :=
  importable.flatMap (·.2)

lemma importsFor_sublist (types extra : List String) :
    ((importsFor types extra).flatMap (·.2)).Sublist importableNames := by
  refine (List.filter_sublist.flatMap _).trans ?_
  rw [List.flatMap_map]
  exact List.Sublist.flatMap_right _ fun entry _ => List.filter_sublist

/-- The names that a record module can import from libraries. -/
def recordLibraryNames : List String :=
  ["date", "datetime", "Decimal", "Any", "Dict", "List", "Optional", "Protocol", "UUID", "AnyUrl",
    "BaseModel", "ConfigDict", "Field"]

/-- The names that the module of a model imports from libraries. -/
def importedNames (optionalTypes : Bool) (model : Model) : List String :=
  let types := recordTypes optionalTypes model
  ((importsFor types []).filter fun entry => entry.1 != modelLibrary).flatMap (·.2) ++
    libraryNames types (model.fields.map (fieldLine optionalTypes (forwardNames model)))

lemma importedNames_sublist (optionalTypes : Bool) (model : Model) :
    (importedNames optionalTypes model).Sublist recordLibraryNames := by
  have hstandard (types : List String) :
      (((importsFor types []).filter fun entry => entry.1 != modelLibrary).flatMap (·.2)).Sublist
        ((importable.filter fun entry => entry.1 != modelLibrary).flatMap (·.2)) := by
    rw [importsFor, List.filter_comm, List.filter_map]
    refine (List.filter_sublist.flatMap _).trans ?_
    rw [List.flatMap_map]
    exact List.Sublist.flatMap_right _ fun entry _ => List.filter_sublist
  have hlibrary (types fieldLines : List String) :
      (libraryNames types fieldLines).Sublist ["AnyUrl", "BaseModel", "ConfigDict", "Field"] := by
    unfold libraryNames
    split <;> split <;> decide
  exact (hstandard _).append (hlibrary _ _)

lemma nodup_importedNames (optionalTypes : Bool) (model : Model) :
    (importedNames optionalTypes model).Nodup :=
  List.Nodup.sublist (importedNames_sublist optionalTypes model) (by decide)

/-! ## Record modules -/

/-- The record types and the collection that the module of a model binds. -/
def definedNames (model : Model) : List String :=
  exportedNames model ++ (forwardImports model).map (·.2)

/-- The statements that import from the standard library, with an empty line behind them if there are any. -/
lemma binds_standardImports (imports : List (String × List String)) :
    (if imports.isEmpty then [] else importStatements imports ++ [.blank]).flatMap Statement.binds =
      imports.flatMap (·.2) := by
  cases imports with
  | nil => rfl
  | cons entry rest => simp [Statement.binds]

lemma binds_recordModule (frozen optionalTypes : Bool) (model : Model) :
    (recordModule frozen optionalTypes model).binds =
      importedNames optionalTypes model ++ definedNames model := by
  have hforward (imports : List (String × String)) :
      (if imports.isEmpty then [] else .blank :: imports.map fun entry =>
        Statement.importNames ("." ++ entry.1) [entry.2] "  # noqa: E402").flatMap Statement.binds =
        imports.map (·.2) := by
    cases imports with
    | nil => rfl
    | cons entry rest => simp [Statement.binds, List.flatMap_map, ← List.map_eq_flatMap]
  have halias :
      (if hasAlias model then gap ++ [.assign model.name (listOf model.recordName)] else []).flatMap
        Statement.binds = if hasAlias model then [model.name] else [] := by
    split <;> rfl
  simp only [Module.binds, recordModule, List.flatMap_append, binds_standardImports, hforward, halias,
    binds_gap]
  simp [Statement.binds, importedNames, definedNames, exportedNames]

/-- Forward imports are the record types that the model refers to, but for its own. -/
lemma mem_forwardImports {model : Model} {name : String} :
    name ∈ (forwardImports model).map (·.2) ↔
      name ≠ model.recordName ∧ ∃ nested ∈ model.nestedModels, nested.recordName = name := by
  simp only [forwardImports, List.mem_map, (Sorted.sort_perm _ _).mem_iff, Sorted.mem_distinct,
    List.mem_filter, bne_iff_ne]
  constructor
  · rintro ⟨_, ⟨nested, ⟨hmem, hne⟩, rfl⟩, rfl⟩
    exact ⟨hne, nested, hmem, rfl⟩
  · rintro ⟨hne, nested, hmem, rfl⟩
    exact ⟨_, ⟨nested, ⟨hmem, hne⟩, rfl⟩, rfl⟩

lemma fst_of_mem_forwardImports {model : Model} {entry : String × String}
    (h : entry ∈ forwardImports model) : entry.1 = Name.snakeCase entry.2 := by
  simp only [forwardImports, (Sorted.sort_perm _ _).mem_iff, Sorted.mem_distinct,
    List.mem_map] at h
  obtain ⟨nested, -, rfl⟩ := h
  rfl

lemma nodup_forwardImports (model : Model) : ((forwardImports model).map (·.2)).Nodup := by
  have hnodup : (forwardImports model).Nodup :=
    (Sorted.sort_perm _ _).nodup_iff.2 (Sorted.nodup_distinct _)
  refine hnodup.map_on fun entry hentry other hother he => ?_
  have hmodule : entry.1 = other.1 := by
    rw [fst_of_mem_forwardImports hentry, fst_of_mem_forwardImports hother, he]
  exact Prod.ext hmodule he

lemma nodup_exportedNames (model : Model) : (exportedNames model).Nodup := by
  unfold exportedNames
  split
  · next h =>
    have hne : model.name ≠ model.recordName := by
      simp only [hasAlias, Bool.and_eq_true, bne_iff_ne] at h
      exact h.2
    simp [hne.symm]
  · simp

lemma exports_notMem_recordModule (frozen optionalTypes : Bool) (model : Model)
    (names : List String) : Statement.exports names ∉ recordModule frozen optionalTypes model := by
  simp [recordModule, gap, exports_notMem_importStatements]

/-- A record module is clear as long as the imported names are none of those defined, and the names of the
model are none of the record types referred to. -/
theorem isClear_recordModule_iff (frozen optionalTypes : Bool) (model : Model) :
    (recordModule frozen optionalTypes model).IsClear ↔
      (importedNames optionalTypes model).Disjoint (definedNames model) ∧
        (exportedNames model).Disjoint ((forwardImports model).map (·.2)) := by
  rw [Module.isClear_iff_of_no_exports (exports_notMem_recordModule frozen optionalTypes model),
    binds_recordModule, List.nodup_append', definedNames, List.nodup_append']
  constructor
  · rintro ⟨-, ⟨-, -, hforward⟩, himported⟩
    exact ⟨himported, hforward⟩
  · rintro ⟨himported, hforward⟩
    exact ⟨nodup_importedNames _ _, ⟨nodup_exportedNames _, nodup_forwardImports _, hforward⟩,
      himported⟩

/-! ## The package of records -/

lemma binds_recordsPackage (models : List Model) :
    (recordsPackage models).binds = models.flatMap exportedNames ++ ["__all__"] := by
  have hrebuild :
      (if models.isEmpty then [] else .blank :: models.map fun model =>
        Statement.evaluate (model.recordName ++ ".model_rebuild()")).flatMap Statement.binds = [] := by
    split <;> simp [Statement.binds, List.flatMap_map]
  simp only [Module.binds, recordsPackage, List.flatMap_append, hrebuild]
  simp [Statement.binds, List.flatMap_map]

lemma exports_mem_recordsPackage {models : List Model} {names : List String}
    (h : Statement.exports names ∈ recordsPackage models) : names = models.flatMap exportedNames := by
  simp only [recordsPackage, List.mem_append, List.mem_cons, List.not_mem_nil, or_false,
    List.mem_map, reduceCtorEq, false_or, and_false, exists_false, Statement.exports.injEq] at h
  rcases h with h | h
  · split at h <;> simp at h
  · exact h

/-- The package of records is clear as long as no two of them export one name. -/
theorem isClear_recordsPackage_iff (models : List Model) :
    (recordsPackage models).IsClear ↔ (models.flatMap exportedNames ++ ["__all__"]).Nodup := by
  rw [← binds_recordsPackage]
  refine ⟨fun h => h.nodup_binds, fun h => ⟨h, fun names hm => ?_⟩⟩
  rw [binds_recordsPackage] at h
  rw [exports_mem_recordsPackage hm]
  exact h.sublist (List.sublist_append_left _ _)

/-! ## Names that are formed from the name of the API -/

/-- Texts with different endings are different. -/
lemma ne_of_endings {a b x y : String} (ha : x.toList <:+ a.toList) (hb : y.toList <:+ b.toList)
    (hxy : ¬ x.toList <:+ y.toList) (hyx : ¬ y.toList <:+ x.toList) : a ≠ b := by
  rintro rfl
  rcases List.suffix_or_suffix_of_suffix ha hb with h | h
  · exact hxy h
  · exact hyx h

/-- Names with an ending are none of the names that do not have it. -/
lemma notMem_of_ending {a x : String} {names : List String}
    (hnames : ∀ name ∈ names, ¬ x.toList <:+ name.toList) (ha : x.toList <:+ a.toList) :
    a ∉ names :=
  fun hm => hnames a hm ha

lemma ending_append (a x : String) : x.toList <:+ (a ++ x).toList := by
  rw [String.toList_append]
  exact List.suffix_append _ _

lemma api_ending_contractName (apiName : String) :
    "Api".toList <:+ (contractName apiName).toList :=
  ending_append apiName "Api"

lemma api_ending_implementationName (apiName : String) :
    "Api".toList <:+ (implementationName apiName).toList :=
  (api_ending_contractName apiName).trans (ending_append "Http" _)

lemma client_ending_clientName (apiName : String) :
    "Client".toList <:+ (clientName apiName).toList :=
  ending_append apiName "Client"

lemma contractName_ne_implementationName (apiName : String) :
    contractName apiName ≠ implementationName apiName := by
  intro h
  have hlength := congrArg String.length h
  simp [implementationName] at hlength

lemma contractName_ne_clientName (apiName : String) : contractName apiName ≠ clientName apiName :=
  ne_of_endings (api_ending_contractName apiName) (client_ending_clientName apiName) (by decide)
    (by decide)

/-! ## Modules of operations -/

lemma nodup_modelNames (operations : List Operation) : (modelNames operations).Nodup :=
  Sorted.nodup_sortedSet _

lemma binds_modelImports (operations : List Operation) :
    (modelImports operations).flatMap Statement.binds = modelNames operations := by
  unfold modelImports
  split
  · next h => rw [h]; rfl
  · simp [Statement.binds]

/-- The names that the contract's module binds besides record types. -/
def contractNames (apiName : String) (operations : List Operation) : List String :=
  (importsFor (operations.flatMap Operation.typeTexts) ["Protocol"]).flatMap (·.2) ++
    ["httpx", contractName apiName, implementationName apiName]

lemma binds_contractModule (apiName baseUrl : String) (operations : List Operation) :
    (contractModule apiName baseUrl operations).binds.Perm
      (contractNames apiName operations ++ modelNames operations) := by
  have hmodels (models : List Statement) :
      (if models.isEmpty then [] else .blank :: models).flatMap Statement.binds =
        models.flatMap Statement.binds := by
    cases models <;> rfl
  simp only [Module.binds, contractModule, List.flatMap_append, hmodels, binds_modelImports,
    binds_importStatements, binds_gap]
  simp only [Statement.binds, List.flatMap_cons, List.flatMap_nil, List.append_nil,
    List.nil_append, contractNames]
  refine List.perm_iff_count.2 fun name => ?_
  simp only [List.count_append, List.count_cons, List.count_nil]
  omega

/-- Two names of the API beside the imports of a module. -/
lemma nodup_imports_append (types extra : List String) {a b : String} (hab : a ≠ b)
    (ha : a ∉ importableNames ++ ["httpx"]) (hb : b ∉ importableNames ++ ["httpx"]) :
    ((importsFor types extra).flatMap (·.2) ++ ["httpx", a, b]).Nodup := by
  have hfixed : (importableNames ++ ["httpx"]).Nodup := by decide
  have hall := hfixed.append (by simpa using hab : [a, b].Nodup)
    (List.disjoint_right.2 (by simpa using And.intro ha hb))
  rw [List.append_assoc] at hall
  exact hall.sublist ((importsFor_sublist _ _).append (List.Sublist.refl _))

lemma nodup_contractNames (apiName : String) (operations : List Operation) :
    (contractNames apiName operations).Nodup := by
  have hapi : ∀ name ∈ importableNames ++ ["httpx"], ¬ "Api".toList <:+ name.toList := by decide
  exact nodup_imports_append _ _ (contractName_ne_implementationName apiName)
    (notMem_of_ending hapi (api_ending_contractName apiName))
    (notMem_of_ending hapi (api_ending_implementationName apiName))

/-- The names that the client's module binds besides record types. -/
def clientNames (apiName : String) (operations : List Operation) : List String :=
  (importsFor (operations.flatMap Operation.typeTexts) ["Optional"]).flatMap (·.2) ++
    ["httpx", contractName apiName, clientName apiName]

lemma binds_clientModule (apiName stem : String) (operations : List Operation) :
    (clientModule apiName stem operations).binds.Perm
      (clientNames apiName operations ++ modelNames operations) := by
  simp only [Module.binds, clientModule, List.flatMap_append, binds_modelImports,
    binds_importStatements, binds_gap]
  simp only [Statement.binds, List.flatMap_cons, List.flatMap_nil, List.append_nil,
    List.nil_append, clientNames]
  refine List.perm_iff_count.2 fun name => ?_
  simp only [List.count_append, List.count_cons, List.count_nil]
  omega

lemma nodup_clientNames (apiName : String) (operations : List Operation) :
    (clientNames apiName operations).Nodup := by
  have hapi : ∀ name ∈ importableNames ++ ["httpx"], ¬ "Api".toList <:+ name.toList := by decide
  have hclient : ∀ name ∈ importableNames ++ ["httpx"], ¬ "Client".toList <:+ name.toList := by
    decide
  exact nodup_imports_append _ _ (contractName_ne_clientName apiName)
    (notMem_of_ending hapi (api_ending_contractName apiName))
    (notMem_of_ending hclient (client_ending_clientName apiName))

lemma exports_notMem_modelImports (operations : List Operation) (names : List String) :
    Statement.exports names ∉ modelImports operations := by
  unfold modelImports
  split <;> simp

lemma exports_notMem_contractModule (apiName baseUrl : String) (operations : List Operation)
    (names : List String) : Statement.exports names ∉ contractModule apiName baseUrl operations := by
  have hmodels := exports_notMem_modelImports operations names
  simp [contractModule, gap, exports_notMem_importStatements, hmodels]

lemma exports_notMem_clientModule (apiName stem : String) (operations : List Operation)
    (names : List String) : Statement.exports names ∉ clientModule apiName stem operations := by
  have hmodels := exports_notMem_modelImports operations names
  simp [clientModule, gap, exports_notMem_importStatements, hmodels]

/-- The contract's module is clear as long as no record type is one of its own names. -/
theorem isClear_contractModule_iff (apiName baseUrl : String) (operations : List Operation) :
    (contractModule apiName baseUrl operations).IsClear ↔
      (contractNames apiName operations).Disjoint (modelNames operations) := by
  rw [Module.isClear_iff_of_no_exports (exports_notMem_contractModule apiName baseUrl operations),
    (binds_contractModule apiName baseUrl operations).nodup_iff, List.nodup_append']
  exact ⟨fun h => h.2.2, fun h => ⟨nodup_contractNames _ _, nodup_modelNames _, h⟩⟩

/-- The client's module is clear as long as no record type is one of its own names. -/
theorem isClear_clientModule_iff (apiName stem : String) (operations : List Operation) :
    (clientModule apiName stem operations).IsClear ↔
      (clientNames apiName operations).Disjoint (modelNames operations) := by
  rw [Module.isClear_iff_of_no_exports (exports_notMem_clientModule apiName stem operations),
    (binds_clientModule apiName stem operations).nodup_iff, List.nodup_append']
  exact ⟨fun h => h.2.2, fun h => ⟨nodup_clientNames _ _, nodup_modelNames _, h⟩⟩

/-! ## Modules without records -/

/-- Whether names end in the given endings, one by one. -/
abbrev HaveEndings (endings names : List String) : Prop :=
  List.Forall₂ (fun ending name => ending.toList <:+ name.toList) endings names

lemma haveEndings_self (names : List String) : HaveEndings names names :=
  List.forall₂_same.2 fun _ _ => List.suffix_refl _

lemma exists_ending_of_mem {endings names : List String} (h : HaveEndings endings names) {a : String}
    (ha : a ∈ names) : ∃ x ∈ endings, x.toList <:+ a.toList := by
  induction h with
  | nil => exact absurd ha List.not_mem_nil
  | @cons x b endings names hxb hrest ih =>
    rcases List.mem_cons.1 ha with rfl | hm
    · exact ⟨x, List.mem_cons_self, hxb⟩
    · obtain ⟨y, hy, hya⟩ := ih hm
      exact ⟨y, List.mem_cons_of_mem _ hy, hya⟩

/-- Names are different if no ending of one is an ending of another's. -/
lemma nodup_of_endings {endings names : List String} (h : HaveEndings endings names)
    (hends : endings.Pairwise fun x y => ¬ x.toList <:+ y.toList ∧ ¬ y.toList <:+ x.toList) :
    names.Nodup := by
  induction h with
  | nil => exact List.nodup_nil
  | @cons x a endings names hxa hrest ih =>
    obtain ⟨hx, hpairs⟩ := List.pairwise_cons.1 hends
    refine List.nodup_cons.2 ⟨fun hm => ?_, ih hpairs⟩
    obtain ⟨y, hy, hya⟩ := exists_ending_of_mem hrest hm
    exact ne_of_endings hxa hya (hx y hy).1 (hx y hy).2 rfl

/-- The factories are told apart by their endings. -/
lemma haveEndings_factories (stem : String) :
    HaveEndings ["_client", "_from_options", "_with_oauth", "_with_token"] (factories stem) := by
  refine .cons ?_ (.cons ?_ (.cons ?_ (.cons ?_ .nil)))
  · exact ending_append _ _
  · exact ending_append _ _
  · exact ending_append _ _
  · exact ending_append _ _

/-- The names that the registration has in every connector. -/
def registrationNames : List String :=
  ["time", "dataclass", "field", "Dict", "Optional", "httpx", "DEFAULT_BASE_URL", optionsName,
    "BearerTokenAuth", "ClientCredentialsAuth"]

lemma binds_registrationModule (apiName stem baseUrl : String) :
    (registrationModule apiName stem baseUrl).binds.Perm
      (registrationNames ++
        (implementationName apiName :: clientName apiName :: factories stem)) := by
  refine List.perm_iff_count.2 fun name => ?_
  simp only [Module.binds, registrationModule, List.flatMap_append, binds_gap, Statement.binds,
    List.flatMap_cons, List.flatMap_nil, registrationNames, factories, List.count_append,
    List.count_cons, List.count_nil]
  omega

lemma exports_notMem_registrationModule (apiName stem baseUrl : String) (names : List String) :
    Statement.exports names ∉ registrationModule apiName stem baseUrl := by
  simp [registrationModule, gap]

/-- The registration's module is clear, whatever the name of the API. -/
theorem isClear_registrationModule (apiName stem baseUrl : String) :
    (registrationModule apiName stem baseUrl).IsClear := by
  rw [Module.isClear_iff_of_no_exports (exports_notMem_registrationModule apiName stem baseUrl),
    (binds_registrationModule apiName stem baseUrl).nodup_iff]
  have hends := List.rel_append (haveEndings_self registrationNames)
    (.cons (api_ending_implementationName apiName)
      (.cons (client_ending_clientName apiName) (haveEndings_factories stem)))
  exact nodup_of_endings hends (by decide)

/-- What the root module can import and list as exports. -/
def packageNames (apiName stem : String) : List String :=
  packaged.flatMap (packageExports apiName stem)

lemma nodup_packageNames (apiName stem : String) :
    (packageNames apiName stem ++ ["__all__"]).Nodup := by
  have hrest : HaveEndings
      ("Client" :: optionsName :: ["_client", "_from_options", "_with_oauth", "_with_token"] ++
        ["__all__"])
      (clientName apiName :: optionsName :: factories stem ++ ["__all__"]) :=
    .cons (client_ending_clientName apiName) (.cons (List.suffix_refl _)
      (List.rel_append (haveEndings_factories stem) (haveEndings_self ["__all__"])))
  have himplementation :=
    nodup_of_endings (.cons (api_ending_implementationName apiName) hrest) (by decide)
  have hcontract := nodup_of_endings (.cons (api_ending_contractName apiName) hrest) (by decide)
  -- The contract and its implementation have one ending, and are told apart by their lengths.
  refine List.nodup_cons.2 ⟨fun hm => ?_, himplementation⟩
  rcases List.mem_cons.1 hm with he | hm
  · exact contractName_ne_implementationName apiName he
  · exact (List.nodup_cons.1 hcontract).1 hm

/-- The names that the root module exports for some artifacts. -/
def presentNames (apiName stem : String) (artifacts : List Artifact) : List String :=
  (packaged.filter (· ∈ artifacts)).flatMap (packageExports apiName stem)

lemma presentNames_sublist (apiName stem : String) (artifacts : List Artifact) :
    (presentNames apiName stem artifacts).Sublist (packageNames apiName stem) :=
  List.filter_sublist.flatMap _

lemma binds_packageModule (apiName stem : String) (artifacts : List Artifact) :
    (packageModule apiName stem artifacts).binds.Perm
      (presentNames apiName stem artifacts ++
        if (presentNames apiName stem artifacts).isEmpty then [] else ["__all__"]) := by
  have hexports (names : List String) :
      (if names.isEmpty then [] else [.blank, .exports names]).flatMap Statement.binds =
        if names.isEmpty then [] else ["__all__"] := by
    split <;> rfl
  have himports (artifact : Artifact) :
      ((packageImports apiName stem artifact).flatMap Statement.binds).Perm
        (packageExports apiName stem artifact) := by
    cases artifact with
    | contract => exact List.Perm.swap _ _ []
    | model | client | registration | package =>
      simp [packageImports, packageExports, Statement.binds]
  simp only [Module.binds, packageModule, List.flatMap_append, hexports]
  refine List.Perm.append ?_ (List.Perm.refl _)
  simp only [Statement.binds, List.flatMap_cons, List.flatMap_nil, List.nil_append,
    List.flatMap_assoc]
  exact List.Perm.flatMap_left _ fun artifact _ => himports artifact

lemma exports_mem_packageModule {apiName stem : String} {artifacts : List Artifact}
    {names : List String} (h : Statement.exports names ∈ packageModule apiName stem artifacts) :
    names = presentNames apiName stem artifacts := by
  have himports (artifact : Artifact) :
      Statement.exports names ∉ packageImports apiName stem artifact := by
    cases artifact <;> simp [packageImports]
  simp only [packageModule, List.mem_append, List.mem_flatMap] at h
  rcases h with (h | ⟨artifact, -, h⟩) | h
  · simp at h
  · exact absurd h (himports artifact)
  · split at h
    · simp at h
    · simpa [presentNames] using h

/-- The root module is clear, whatever has been generated. -/
theorem isClear_packageModule (apiName stem : String) (artifacts : List Artifact) :
    (packageModule apiName stem artifacts).IsClear := by
  have hall := nodup_packageNames apiName stem
  constructor
  · rw [(binds_packageModule apiName stem artifacts).nodup_iff]
    refine hall.sublist ((presentNames_sublist _ _ _).append ?_)
    split
    · exact List.nil_sublist _
    · exact List.Sublist.refl _
  · intro names hm
    rw [exports_mem_packageModule hm]
    exact (hall.sublist (List.sublist_append_left _ _)).sublist (presentNames_sublist _ _ _)

end RestConnector.Emit
