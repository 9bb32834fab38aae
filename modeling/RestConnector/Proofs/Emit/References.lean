import RestConnector.Proofs.Emit.Imports
import RestConnector.Proofs.Text.Lines

/-!
# What modules take from one another

A relative import names a module and what it takes from there; these are the `references` of a module.  It
can be carried out if the module that it names `offers` the names: as classes, functions or values that are
defined there, or as exports of what is imported there.

A record module takes the record types that it refers to, the package of records takes from the module of
each model what it exports, and the other modules take record types from that package and the classes and
factories of the API from each other.  Each of them offers what the others take.

As long as a module imports everything from none, the modules that it takes something from are its siblings
(`siblings_eq_map_references`).
-/

namespace RestConnector.Emit

open RestConnector.Schema RestConnector.Text

/-! ## References -/

/-- The module that a statement imports names from relatively, with the names. -/
def Statement.reference? : Statement → Option (String × List String)
  | .importNames source names _ | .importBlock source names =>
    (sibling? source).map fun module => (module, names)
  | .blank | .doc _ | .importModule _ | .importAll _ | .assign _ _ | .exports _ | .evaluate _
  | .define _ _ => none

/-- The relative imports of a module, but for those of everything. -/
def Module.references (module : Module) : List (String × List String) :=
  List.filterMap Statement.reference? module

@[simp] lemma references_append (first second : List Statement) :
    Module.references (first ++ second) = Module.references first ++ Module.references second :=
  List.filterMap_append

@[simp] lemma references_cons (statement : Statement) (rest : List Statement) :
    Module.references (statement :: rest) =
      statement.reference?.toList ++ Module.references rest := by
  cases h : statement.reference? <;> simp [Module.references, h]

@[simp] lemma references_nil : Module.references [] = [] := rfl

@[simp] lemma references_gap : Module.references gap = [] := rfl

lemma references_map {α : Type} (items : List α) (f : α → Statement)
    (g : α → String × List String) (h : ∀ item, (f item).reference? = some (g item)) :
    Module.references (items.map f) = items.map g := by
  simp [Module.references, List.filterMap_map, h, List.filterMap_eq_map']

/-- A module without siblings takes nothing from any. -/
lemma references_eq_nil_of_siblings {module : Module} (h : module.siblings = []) :
    module.references = [] := by
  induction module with
  | nil => rfl
  | cons statement rest ih =>
    rw [siblings_cons, List.append_eq_nil_iff, Option.toList_eq_nil_iff] at h
    rw [references_cons, ih h.2, List.append_nil, Option.toList_eq_nil_iff]
    cases statement <;> simp_all [Statement.reference?, Statement.source?]

/-- A module that imports nothing but names has the modules that it takes them from for siblings. -/
lemma siblings_eq_map_references {module : Module} (h : ∀ source, Statement.importAll source ∉ module) :
    module.siblings = module.references.map (·.1) := by
  induction module with
  | nil => rfl
  | cons statement rest ih =>
    rw [siblings_cons, references_cons, List.map_append,
      ih fun source hs => h source (List.mem_cons_of_mem _ hs)]
    congr 1
    cases statement with
    | importNames source | importBlock source =>
      cases hs : sibling? source <;> simp [Statement.source?, Statement.reference?, hs]
    | importAll source => exact absurd List.mem_cons_self (h source)
    | blank | doc | importModule | assign | exports | evaluate | define => rfl

@[simp] lemma references_importsFor (types extra : List String) :
    Module.references (importStatements (importsFor types extra)) = [] :=
  references_eq_nil_of_siblings (siblings_importsFor types extra)

lemma references_recordModule (frozen optionalTypes : Bool) (model : Model) :
    Module.references (recordModule frozen optionalTypes model) =
      (forwardImports model).map fun entry => (entry.1, [entry.2]) := by
  have hstandard (types : List String) :
      Module.references
        (let standard := (importsFor types []).filter fun entry => entry.1 != modelLibrary
        if standard.isEmpty then [] else importStatements standard ++ [.blank]) = [] := by
    dsimp only
    split
    · rfl
    · rw [references_append, references_eq_nil_of_siblings (siblings_importStatements fun entry he =>
        sibling?_of_mem_importsFor (List.mem_filter.1 he).1)]
      rfl
  have hforward (imports : List (String × String)) :
      Module.references (if imports.isEmpty then [] else .blank :: imports.map fun entry =>
        Statement.importNames ("." ++ entry.1) [entry.2] "  # noqa: E402") =
        imports.map fun entry => (entry.1, [entry.2]) := by
    have hmap := references_map imports
      (fun entry => .importNames ("." ++ entry.1) [entry.2] "  # noqa: E402")
      (fun entry => (entry.1, [entry.2])) fun entry => by simp [Statement.reference?]
    split
    · next hempty => simp [List.isEmpty_iff.1 hempty]
    · rw [references_cons, hmap]
      rfl
  have halias :
      Module.references
        (if hasAlias model then gap ++ [.assign model.name (listOf model.recordName)] else []) =
        [] := by
    split <;> rfl
  have hlibrary : sibling? modelLibrary = none := by decide
  simp only [recordModule, references_append, hstandard, hforward, halias, references_gap]
  simp [Statement.reference?, hlibrary]

lemma siblings_recordModule (frozen optionalTypes : Bool) (model : Model) :
    Module.siblings (recordModule frozen optionalTypes model) = (forwardImports model).map (·.1) := by
  rw [siblings_eq_map_references, references_recordModule, List.map_map]
  · rfl
  · simp [recordModule, importStatements, gap]

lemma references_recordsPackage (models : List Model) :
    Module.references (recordsPackage models) =
      models.map fun model => (recordModuleName model, exportedNames model) := by
  have hrebuild :
      Module.references (if models.isEmpty then [] else .blank :: models.map fun model =>
        Statement.evaluate (model.recordName ++ ".model_rebuild()")) = [] := by
    refine references_eq_nil_of_siblings ?_
    split
    · rfl
    · exact siblings_eq_nil (by simp [Statement.source?])
  have himports := references_map models
    (fun model => .importNames ("." ++ recordModuleName model) (exportedNames model) "")
    (fun model => (recordModuleName model, exportedNames model))
    fun model => by simp [Statement.reference?]
  simp only [recordsPackage, references_append, himports, hrebuild]
  simp [Statement.reference?]

lemma siblings_recordsPackage (models : List Model) :
    Module.siblings (recordsPackage models) = models.map recordModuleName := by
  rw [siblings_eq_map_references, references_recordsPackage, List.map_map]
  · rfl
  · simp [recordsPackage]

/-- What modules of operations take from the package of records. -/
def modelReferences (operations : List Operation) : List (String × List String) :=
  match modelNames operations with
  | [] => []
  | names => [("models", names)]

lemma references_modelImports (operations : List Operation) :
    Module.references (modelImports operations) = modelReferences operations := by
  unfold modelImports modelReferences
  cases modelNames operations with
  | nil => rfl
  | cons name rest => simp [Statement.reference?, sibling?]

lemma references_contractModule (apiName baseUrl : String) (operations : List Operation) :
    Module.references (contractModule apiName baseUrl operations) = modelReferences operations := by
  have hmodels (models : List Statement) :
      Module.references (if models.isEmpty then [] else .blank :: models) =
        Module.references models := by
    cases models <;> rfl
  simp only [contractModule, references_append, hmodels, references_importsFor, references_gap,
    references_modelImports]
  simp [Statement.reference?]

lemma references_clientModule (apiName stem : String) (operations : List Operation) :
    Module.references (clientModule apiName stem operations) =
      (stem ++ "_api", [contractName apiName]) :: modelReferences operations := by
  simp only [clientModule, references_append, references_importsFor, references_gap,
    references_modelImports]
  simp [Statement.reference?, sibling?_contractSource]

lemma references_registrationModule (apiName stem baseUrl : String) :
    Module.references (registrationModule apiName stem baseUrl) =
      [(stem ++ "_api", [implementationName apiName]), (stem ++ "_client", [clientName apiName])] := by
  have hlibraries : sibling? "dataclasses" = none ∧ sibling? "typing" = none := by decide
  simp [registrationModule, Statement.reference?, hlibraries, sibling?_contractSource,
    sibling?_clientSource]

/-- What the root module takes from the module of an artifact. -/
def packageReferences (apiName stem : String) : Artifact → List (String × List String)
  | .contract => [(stem ++ "_api", [implementationName apiName, contractName apiName])]
  | .client => [(stem ++ "_client", [clientName apiName])]
  | .registration => [(stem ++ "_registration", optionsName :: factories stem)]
  | .model | .package => []

lemma references_packageModule (apiName stem : String) (artifacts : List Artifact) :
    Module.references (packageModule apiName stem artifacts) =
      (packaged.filter (· ∈ artifacts)).flatMap (packageReferences apiName stem) := by
  have himports (artifact : Artifact) :
      Module.references (packageImports apiName stem artifact) =
        packageReferences apiName stem artifact := by
    cases artifact <;>
      simp [packageImports, packageReferences, Statement.reference?, sibling?_contractSource,
        sibling?_clientSource, sibling?_registrationSource]
  have hflat (present : List Artifact) :
      Module.references (present.flatMap (packageImports apiName stem)) =
        present.flatMap (packageReferences apiName stem) := by
    induction present with
    | nil => rfl
    | cons artifact rest ih =>
      rw [List.flatMap_cons, references_append, himports, ih, List.flatMap_cons]
  have hexports (names : List String) :
      Module.references (if names.isEmpty then [] else [.blank, .exports names]) = [] := by
    split <;> rfl
  simp only [packageModule, references_append, hexports, hflat]
  simp [Statement.reference?]

/-- The root module imports everything from the package of models if there is one. -/
lemma importAll_mem_packageModule_iff {apiName stem : String} {artifacts : List Artifact} :
    Statement.importAll ".models" ∈ packageModule apiName stem artifacts ↔
      Artifact.model ∈ artifacts := by
  have himports (artifact : Artifact) :
      Statement.importAll ".models" ∈ packageImports apiName stem artifact ↔
        artifact = .model := by
    cases artifact <;> simp [packageImports]
  simp [packageModule, himports, packaged]

/-! ## Offers -/

/-- Whether a line begins the definition of a class or function of a name. -/
def declares (name line : String) : Bool :=
  startsWith ("class " ++ name ++ "(") line || startsWith ("class " ++ name ++ ":") line ||
    startsWith ("def " ++ name ++ "(") line

/-- Whether a statement defines a name. -/
def Statement.defines (name : String) : Statement → Bool
  | .assign target _ => target == name
  | .define _ lines => lines.any (declares name)
  | .blank | .doc _ | .importModule _ | .importNames _ _ _ | .importBlock _ _ | .importAll _
  | .exports _ | .evaluate _ => false

/-- The names that a statement lists as exports. -/
def Statement.exported : Statement → List String
  | .exports names => names
  | .blank | .doc _ | .importModule _ | .importNames _ _ _ | .importBlock _ _ | .importAll _
  | .assign _ _ | .evaluate _ | .define _ _ => []

/-- Whether a module defines a name, or binds it and lists it as an export. -/
def Module.offers (module : Module) (name : String) : Bool :=
  List.any module (Statement.defines name) ||
    (name ∈ module.binds && name ∈ List.flatMap Statement.exported module)

lemma offers_of_defines {module : Module} {statement : Statement} {name : String}
    (hm : statement ∈ module) (hd : statement.defines name) : module.offers name := by
  rw [Module.offers, List.any_eq_true.2 ⟨statement, hm, hd⟩, Bool.true_or]

lemma offers_of_line {module : Module} {lines : List String} {defined line name : String}
    (hm : Statement.define defined lines ∈ module) (hl : line ∈ lines) (hd : declares name line) :
    module.offers name :=
  offers_of_defines hm (List.any_eq_true.2 ⟨line, hl, hd⟩)

lemma declares_class (name : String) {rest : String}
    (h : startsWith "(" rest || startsWith ":" rest) : declares name ("class " ++ name ++ rest) := by
  rw [declares, startsWith_append_append, startsWith_append_append, h, Bool.true_or]

lemma declares_function (name : String) {rest : String} (h : startsWith "(" rest) :
    declares name ("def " ++ name ++ rest) := by
  rw [declares, startsWith_append_append _ _ rest, h, Bool.or_true]

/-- What a line begins with is not changed by what is put behind it. -/
lemma declares_append {name line : String} (h : declares name line) (more : String) :
    declares name (line ++ more) := by
  simp only [declares, Bool.or_eq_true] at h ⊢
  exact h.imp (Or.imp (startsWith_append · more) (startsWith_append · more))
    (startsWith_append · more)

/-- The module of a record defines its class and nothing else. -/
lemma define_mem_recordModule_iff {frozen optionalTypes : Bool} {model : Model} {name : String}
    {lines : List String} :
    Statement.define name lines ∈ recordModule frozen optionalTypes model ↔
      name = model.recordName ∧ lines = recordClass frozen model
        (model.fields.map (fieldLine optionalTypes (forwardNames model))) := by
  simp only [recordModule, List.mem_append]
  simp [importStatements, gap]

lemma offers_recordModule (frozen optionalTypes : Bool) {model : Model} {name : String}
    (h : name ∈ exportedNames model) : (recordModule frozen optionalTypes model).offers name := by
  rcases List.mem_cons.1 h with rfl | halias
  · exact offers_of_line (define_mem_recordModule_iff.2 ⟨rfl, rfl⟩) List.mem_cons_self
      (declares_class _ (by decide))
  · have hassign : Statement.assign name (listOf model.recordName) ∈
        recordModule frozen optionalTypes model := by
      split at halias
      · next hcollection =>
        rw [List.mem_singleton.1 halias]
        simp [recordModule, hcollection]
      · cases halias
    exact offers_of_defines hassign (beq_self_eq_true name)

/-- What the package of records imports it exports again. -/
lemma offers_recordsPackage {models : List Model} {name : String}
    (h : name ∈ models.flatMap exportedNames) : (recordsPackage models).offers name := by
  have hbinds : name ∈ (recordsPackage models).binds := by
    rw [binds_recordsPackage]
    exact List.mem_append_left _ h
  have hexports : Statement.exports (models.flatMap exportedNames) ∈ recordsPackage models := by
    simp [recordsPackage]
  have hexported : name ∈ List.flatMap Statement.exported (recordsPackage models) :=
    List.mem_flatMap.2 ⟨_, hexports, h⟩
  simp [Module.offers, hbinds, hexported]

lemma offers_contractModule (apiName baseUrl : String) (operations : List Operation) {name : String}
    (h : name ∈ [implementationName apiName, contractName apiName]) :
    (contractModule apiName baseUrl operations).offers name := by
  simp only [List.mem_cons, List.not_mem_nil, or_false] at h
  rcases h with rfl | rfl
  · have hclass : Statement.define (implementationName apiName)
        (implementationClass apiName operations) ∈ contractModule apiName baseUrl operations := by
      simp [contractModule]
    exact offers_of_line hclass List.mem_cons_self (declares_class _ (by decide))
  · have hclass : Statement.define (contractName apiName) (contractClass apiName operations) ∈
        contractModule apiName baseUrl operations := by
      simp [contractModule]
    exact offers_of_line hclass List.mem_cons_self (declares_class _ (by decide))

lemma offers_clientModule (apiName stem : String) (operations : List Operation) :
    (clientModule apiName stem operations).offers (clientName apiName) := by
  have hclass : Statement.define (clientName apiName) (clientClass apiName operations) ∈
      clientModule apiName stem operations := by
    simp [clientModule]
  exact offers_of_line hclass List.mem_cons_self (declares_class _ (by decide))

lemma offers_registrationModule (apiName stem baseUrl : String) {name : String}
    (h : name ∈ optionsName :: factories stem) :
    (registrationModule apiName stem baseUrl).offers name := by
  have hdefines : ∀ statement ∈ [Statement.define optionsName (optionsClass apiName stem),
      .define (plainFactory stem) (plainFunction apiName stem),
      .define (tokenFactory stem) (tokenFunction apiName stem),
      .define (oauthFactory stem) (oauthFunction apiName stem),
      .define (optionsFactory stem) (optionsFunction apiName stem)],
      statement ∈ registrationModule apiName stem baseUrl := by
    simp [registrationModule]
  simp only [List.forall_mem_cons] at hdefines
  obtain ⟨hoptions, hplain, htoken, hoauth, hexplicit, -⟩ := hdefines
  simp only [factories, List.mem_cons, List.not_mem_nil, or_false] at h
  rcases h with rfl | rfl | rfl | rfl | rfl
  · exact offers_of_line hoptions (List.mem_cons_of_mem _ List.mem_cons_self)
      (declares_class optionsName (by decide : startsWith "(" ":" || startsWith ":" ":"))
  · exact offers_of_line hplain List.mem_cons_self
      (declares_append (declares_append (declares_function _ (by decide)) _) _)
  · exact offers_of_line hexplicit List.mem_cons_self (declares_function _ (by decide))
  · exact offers_of_line hoauth List.mem_cons_self (declares_function _ (by decide))
  · exact offers_of_line htoken List.mem_cons_self
      (declares_append (declares_append (declares_function _ (by decide)) _) _)

end RestConnector.Emit
