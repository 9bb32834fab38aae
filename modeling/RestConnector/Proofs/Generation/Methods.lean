import RestConnector.Proofs.Emit.Calls
import RestConnector.Proofs.Generation.Imports

/-!
# Methods of a connector

The contract, its implementation and the client of a connector have the same methods, with the same headers
in the same order, and every method of the client passes its arguments on to the method of the contract
that has its name (`methods_in_step`).  This can be read off the generated text, whatever the API is
called, wherever it is, and whatever is said about its endpoints: no text from outside adds a line to
these files.

It takes schemas that are inferred, for the names of other record types go into the signatures as they are;
and endpoints with supported methods, for other methods go into the names.
-/

namespace RestConnector.Generation

open RestConnector.Emit RestConnector.Name RestConnector.Operation RestConnector.Schema
open RestConnector.Text

variable {config : Configuration}

/-! ## The texts -/

/-- The text of the contract and its implementation. -/
def contractText (config : Configuration) : String :=
  (contractModule (apiNameOf config) config.baseUrl (operationsOf config)).text

/-- The text of the client. -/
def clientText (config : Configuration) : String :=
  (clientModule (apiNameOf config) (stemOf config) (operationsOf config)).text

/-- The texts of the files of one kind. -/
def textsOf (artifact : Artifact) (files : List SourceFile) : List String :=
  (files.filter (·.artifact = artifact)).map (·.content)

lemma textsOf_append (artifact : Artifact) (files others : List SourceFile) :
    textsOf artifact (files ++ others) = textsOf artifact files ++ textsOf artifact others := by
  simp [textsOf]

lemma textsOf_eq_nil {artifact : Artifact} {files : List SourceFile}
    (h : ∀ file ∈ files, file.artifact ≠ artifact) : textsOf artifact files = [] := by
  rw [textsOf, List.filter_eq_nil_iff.2 (by simpa using h), List.map_nil]

lemma artifact_of_mem_modelPart {file : SourceFile} (h : file ∈ modelPart config) :
    file.artifact = .model ∨ file.artifact = .package := by
  unfold modelPart modelFiles at h
  split at h
  · rcases List.mem_append.1 h with h | h
    · obtain ⟨model, -, rfl⟩ := List.mem_map.1 h
      exact .inl rfl
    · rw [List.mem_singleton.1 h]
      exact .inr rfl
  · exact absurd h List.not_mem_nil

lemma artifact_of_mem_rootFile {apiName stem : String} {files : List SourceFile} {file : SourceFile}
    (h : file ∈ rootFile apiName stem files) : file.artifact = .package := by
  unfold rootFile at h
  split at h
  · exact absurd h List.not_mem_nil
  · rw [List.mem_singleton.1 h]

lemma textsOf_eq (artifact : Artifact) (files : List SourceFile) :
    textsOf artifact files = ((files.map page).filter (·.1 = artifact)).map (·.2) := by
  rw [textsOf, List.filter_map, List.map_map]
  rfl

/-- There are a contract and a client, unless they are not wanted or there are no operations. -/
lemma textsOf_generate {files : List SourceFile} (h : generate standardWriter config = .ok files) :
    textsOf .contract files = (if hasContract config then [contractText config] else []) ∧
      textsOf .client files =
        (if hasContract config && config.options.client then [clientText config] else []) := by
  rw [generate_standardWriter] at h
  obtain rfl := Except.ok.inj h
  have hparts : ∀ artifact, artifact ≠ .model → artifact ≠ .package →
      textsOf artifact (exportedFiles config ++
        rootFile (apiNameOf config) (stemOf config) (exportedFiles config)) =
        textsOf artifact (operationPart config) := by
    intro artifact hmodel hpackage
    have hmodels : textsOf artifact (modelPart config) = [] := by
      refine textsOf_eq_nil fun file hf he => ?_
      rcases artifact_of_mem_modelPart hf with hm | hp
      · exact hmodel (he.symm.trans hm)
      · exact hpackage (he.symm.trans hp)
    have hroot : textsOf artifact
        (rootFile (apiNameOf config) (stemOf config) (exportedFiles config)) = [] :=
      textsOf_eq_nil fun file hf he => hpackage (he.symm.trans (artifact_of_mem_rootFile hf))
    rw [textsOf_append, exportedFiles, textsOf_append, hmodels, ← exportedFiles, hroot,
      List.nil_append, List.append_nil]
  rw [hparts .contract (by decide) (by decide), hparts .client (by decide) (by decide), textsOf_eq,
    textsOf_eq, pages_operationPart, operationModules]
  by_cases hcontract : hasContract config <;> by_cases hclient : config.options.client <;>
    by_cases hregistration : config.options.registration <;>
      simp [hcontract, hclient, hregistration, contractText, clientText]

/-! ## The operations -/

lemma isWordy_recordName {model : Model} (h : IsInferred model) : IsWordy model.recordName := by
  obtain ⟨name, hname⟩ := h.exists_recordName
  rw [hname]
  exact isWordy_typeName name (by decide)

lemma isInline_apiNameOf (config : Configuration) : IsInline (apiNameOf config) :=
  (isWordy_typeName config.apiName (by decide)).isInline

lemma isInline_stemOf (config : Configuration) : IsInline (stemOf config) :=
  (isWordy_snakeCase (apiNameOf config)).isInline

/-- Whether all endpoints have methods that are supported. -/
def HasSupportedMethods (config : Configuration) : Prop :=
  ∀ endpoint ∈ config.endpoints, upper endpoint.method ∈ Endpoint.supportedMethods

instance (config : Configuration) : Decidable (HasSupportedMethods config) :=
  inferInstanceAs (Decidable (∀ endpoint ∈ config.endpoints,
    upper endpoint.method ∈ Endpoint.supportedMethods))

lemma isWritable_of_mem_operationsOf (hschemas : HasInferredSchemas config)
    (hmethods : HasSupportedMethods config) :
    ∀ operation ∈ operationsOf config, IsWritable operation := by
  refine isWritable_of_mem_planAll hmethods ?_
  split
  · intro entry he
    obtain ⟨content, path, hinfer⟩ := hschemas entry he
    exact isWordy_recordName (isInferred_of_infer? hinfer)
  · exact List.forall_mem_nil _

/-! ## The lines -/

lemma flatMap_lines_ne_nil (text : String) (rest : List Statement) :
    (Statement.doc text :: rest).flatMap Statement.lines ≠ [] := by
  simp [Statement.lines]

lemma linesOf_contractText (hschemas : HasInferredSchemas config)
    (hmethods : HasSupportedMethods config) :
    linesOf (contractText config) =
      (contractModule (apiNameOf config) config.baseUrl (operationsOf config)).flatMap
        Statement.lines :=
  linesOf_unlines (flatMap_lines_ne_nil _ _)
    (isInline_contractModule (isInline_apiNameOf config)
      (isWritable_of_mem_operationsOf hschemas hmethods))

lemma linesOf_clientText (hschemas : HasInferredSchemas config)
    (hmethods : HasSupportedMethods config) :
    linesOf (clientText config) =
      (clientModule (apiNameOf config) (stemOf config) (operationsOf config)).flatMap
        Statement.lines :=
  linesOf_unlines (flatMap_lines_ne_nil _ _)
    (isInline_clientModule (isInline_apiNameOf config) (isInline_stemOf config)
      (isWritable_of_mem_operationsOf hschemas hmethods))

/-! ## What a description can change -/

/-- Whether two configurations differ in nothing that is generated from, but the URL of the API and what is
said about its endpoints. -/
structure DiffersInTextsOnly (config other : Configuration) : Prop where
  apiName : other.apiName = config.apiName
  schemas : other.schemas = config.schemas
  options : other.options = config.options
  endpoints : other.endpoints.map (fun endpoint => (endpoint.method, endpoint.path)) =
    config.endpoints.map fun endpoint => (endpoint.method, endpoint.path)

section DiffersInTextsOnly

variable {other : Configuration} (h : DiffersInTextsOnly config other)

include h

lemma DiffersInTextsOnly.apiNameOf_eq : apiNameOf other = apiNameOf config := by
  rw [apiNameOf, h.apiName, apiNameOf]

lemma DiffersInTextsOnly.stemOf_eq : stemOf other = stemOf config := by
  rw [stemOf, h.apiNameOf_eq, stemOf]

lemma DiffersInTextsOnly.undescribed_eq :
    (operationsOf other).map undescribed = (operationsOf config).map undescribed := by
  rw [operationsOf, operationsOf, h.schemas, h.options]
  exact undescribed_planAll h.endpoints

lemma DiffersInTextsOnly.hasContract_eq : hasContract other = hasContract config := by
  have hempty : (operationsOf other).isEmpty = (operationsOf config).isEmpty := by
    rw [← List.isEmpty_map (f := undescribed), h.undescribed_eq, List.isEmpty_map]
  rw [hasContract, hasContract, h.options, hempty]

lemma DiffersInTextsOnly.hasInferredSchemas (hschemas : HasInferredSchemas config) :
    HasInferredSchemas other := by
  rw [HasInferredSchemas, h.schemas]
  exact hschemas

lemma DiffersInTextsOnly.hasSupportedMethods (hmethods : HasSupportedMethods config) :
    HasSupportedMethods other := by
  intro endpoint he
  have hkey : (endpoint.method, endpoint.path) ∈
      config.endpoints.map fun endpoint => (endpoint.method, endpoint.path) := by
    rw [← h.endpoints]
    exact List.mem_map_of_mem he
  obtain ⟨given, hgiven, hsame⟩ := List.mem_map.1 hkey
  rw [← (Prod.mk.inj hsame).1]
  exact hmethods given hgiven

end DiffersInTextsOnly

lemma length_linesOf_contractText (hschemas : HasInferredSchemas config)
    (hmethods : HasSupportedMethods config) {other : Configuration}
    (h : DiffersInTextsOnly config other) :
    (linesOf (contractText other)).length = (linesOf (contractText config)).length := by
  rw [linesOf_contractText hschemas hmethods,
    linesOf_contractText (h.hasInferredSchemas hschemas) (h.hasSupportedMethods hmethods),
    ← length_contractModule, ← length_contractModule _ config.baseUrl, h.apiNameOf_eq,
    h.undescribed_eq]

lemma length_linesOf_clientText (hschemas : HasInferredSchemas config)
    (hmethods : HasSupportedMethods config) {other : Configuration}
    (h : DiffersInTextsOnly config other) :
    (linesOf (clientText other)).length = (linesOf (clientText config)).length := by
  rw [linesOf_clientText hschemas hmethods,
    linesOf_clientText (h.hasInferredSchemas hschemas) (h.hasSupportedMethods hmethods),
    ← length_clientModule, ← length_clientModule _ _ (operationsOf config), h.apiNameOf_eq,
    h.stemOf_eq, h.undescribed_eq]

/-! ## Methods in step -/

/-- The headers of the operations, in order. -/
def headersOf (config : Configuration) : List String :=
  (operationsOf config).map methodHeader

/-- What the texts of a contract and of a client have to do with one another. -/
structure IsInStep (config : Configuration) (contract client : String) : Prop where
  /-- There is no other way to take the texts apart into lines. -/
  isPlain : IsPlain contract ∧ IsPlain client
  /-- The methods of the contract come twice, for the implementation has them as well. -/
  contract_headers : (linesOf contract).filter isHeader = headersOf config ++ headersOf config
  client_headers : (linesOf client).filter isHeader =
    lifecycleHeaders (apiNameOf config) ++ headersOf config
  /-- Every operation has a method of the client, with one call of the contract in it. -/
  client_methods : methodsOf (linesOf client) =
    (lifecycleHeaders (apiNameOf config)).map (·, []) ++
      (operationsOf config).map fun operation => (methodHeader operation, [contractCall operation])
  /-- The method that is called has the name of the method that calls, and takes what that has been given. -/
  calls : ∀ operation ∈ operationsOf config,
    offered (methodHeader operation) =
        { name := operation.name, arguments := "self" :: operation.parameters.map (·.1) } ∧
      called (contractCall operation) =
        { name := operation.name, arguments := operation.parameters.map (·.1) }

lemma isInStep (hschemas : HasInferredSchemas config) (hmethods : HasSupportedMethods config) :
    IsInStep config (contractText config) (clientText config) := by
  have hwritable := isWritable_of_mem_operationsOf hschemas hmethods
  have hname := isInline_apiNameOf config
  have hstem := isInline_stemOf config
  have hmethodsOf := methodsOf_clientModule hname hstem hwritable
  rw [← linesOf_clientText hschemas hmethods] at hmethodsOf
  constructor
  · exact ⟨isPlain_unlines (isInline_contractModule hname hwritable),
      isPlain_unlines (isInline_clientModule hname hstem hwritable)⟩
  · rw [linesOf_contractText hschemas hmethods]
    exact headers_contractModule _ _ hwritable
  · rw [← map_fst_methodsOf, hmethodsOf, List.map_append, List.map_map, List.map_map]
    simp [headersOf, Function.comp_def]
  · exact hmethodsOf
  · exact fun operation ho =>
      ⟨offered_methodHeader (hwritable operation ho), called_contractCall (hwritable operation ho)⟩

/-- The numbers of lines of the files of one kind. -/
def lineCounts (artifact : Artifact) (files : List SourceFile) : List Nat :=
  (textsOf artifact files).map fun text => (linesOf text).length

/-- Contract, implementation and client have the same methods, whatever is said about the API; and how many
lines they take depends neither on that nor on where the API is. -/
theorem methods_in_step (hschemas : HasInferredSchemas config)
    (hmethods : HasSupportedMethods config) :
    ∃ files, generate standardWriter config = .ok files ∧
      textsOf .contract files = (if hasContract config then [contractText config] else []) ∧
      textsOf .client files =
        (if hasContract config && config.options.client then [clientText config] else []) ∧
      IsInStep config (contractText config) (clientText config) ∧
      ∀ other otherFiles, DiffersInTextsOnly config other →
        generate standardWriter other = .ok otherFiles →
          lineCounts .contract otherFiles = lineCounts .contract files ∧
            lineCounts .client otherFiles = lineCounts .client files := by
  obtain ⟨files, hfiles⟩ := exists_generate_standardWriter config
  obtain ⟨hcontract, hclient⟩ := textsOf_generate hfiles
  refine ⟨files, hfiles, hcontract, hclient, isInStep hschemas hmethods, ?_⟩
  intro other otherFiles h hother
  obtain ⟨hotherContract, hotherClient⟩ := textsOf_generate hother
  simp only [lineCounts, hcontract, hclient, hotherContract, hotherClient, h.hasContract_eq, h.options]
  constructor
  · split
    · rw [List.map_singleton, List.map_singleton, length_linesOf_contractText hschemas hmethods h]
    · rfl
  · split
    · rw [List.map_singleton, List.map_singleton, length_linesOf_clientText hschemas hmethods h]
    · rfl

/-- Users, with a description that tries to begin a method, and an API that is called and found with line
breaks and quotes. -/
def hostileConfig : Configuration :=
  { schemas := usersConfig.schemas
    apiName := "users\n    async def evil(self):"
    baseUrl := "https://users.example\n\"\"\"\n    async def evil(self):"
    endpoints := [
      { method := "GET", path := "/users/\x7bid\x7d",
        description := some "One user\"\"\"\n    async def evil(self):\u2028" }] }

/-- The same users of the same API, with nothing said about them. -/
def harmlessConfig : Configuration :=
  { schemas := usersConfig.schemas
    apiName := "users\n    async def evil(self):"
    endpoints := [{ method := "GET", path := "/users/\x7bid\x7d" }] }

/-- The contract and the client have the one method that there is, on as many lines as if nothing had been
said. -/
theorem methods_in_step_hostileConfig :
    HasInferredSchemas hostileConfig ∧ HasSupportedMethods hostileConfig ∧
      (linesOf (contractText hostileConfig)).filter isHeader =
        ["    async def get_user(self, id: int) -> User:",
          "    async def get_user(self, id: int) -> User:"] ∧
      (linesOf (clientText hostileConfig)).filter isHeader =
        lifecycleHeaders "UsersAsyncDefEvilSelf" ++
          ["    async def get_user(self, id: int) -> User:"] ∧
      ∃ files otherFiles, generate standardWriter hostileConfig = .ok files ∧
        generate standardWriter harmlessConfig = .ok otherFiles ∧
        lineCounts .contract otherFiles = lineCounts .contract files ∧
        lineCounts .client otherFiles = lineCounts .client files := by
  have hschemas : HasInferredSchemas hostileConfig := by
    have hsame : hostileConfig.schemas = usersConfig.schemas := by rw [hostileConfig]
    rw [HasInferredSchemas, hsame]
    exact hasInferredSchemas_inferredFrom _ _
  have hmethods : HasSupportedMethods hostileConfig := by decide +kernel
  obtain ⟨files, hfiles, -, -, hstep, hcounts⟩ := methods_in_step hschemas hmethods
  have hname : apiNameOf hostileConfig = "UsersAsyncDefEvilSelf" := by decide +kernel
  have hheaders : headersOf hostileConfig = ["    async def get_user(self, id: int) -> User:"] := by
    decide +kernel
  have htexts : DiffersInTextsOnly hostileConfig harmlessConfig := by
    constructor <;> rw [harmlessConfig, hostileConfig]
    rfl
  obtain ⟨otherFiles, hother⟩ := exists_generate_standardWriter harmlessConfig
  obtain ⟨hcontract, hclient⟩ := hcounts harmlessConfig otherFiles htexts hother
  refine ⟨hschemas, hmethods, ?_, ?_, files, otherFiles, hfiles, hother, hcontract, hclient⟩
  · rw [hstep.contract_headers, hheaders]
    rfl
  · rw [hstep.client_headers, hheaders, hname]

end RestConnector.Generation
