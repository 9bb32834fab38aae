import Mathlib.Data.List.Dedup
import RestConnector.Proofs.Generation.Parts
import RestConnector.Proofs.Name.Identifier
import RestConnector.Proofs.Run.Delivery

/-!
# Files of a generation

Files are told apart by directory and name.  The names are fixed, or formed from the name of the API, but
for the modules of records, which are named by the snake case of their record types.  Different record
types may have the same words, and then they have the same module: the files of a generation are different
exactly when no two of its record types share a module.  In that case alone a delivery writes to as many
paths as it reports, and then every file is there in the end with its own content (`places_nodup_iff`).

Keys that differ only in the case of their letters are enough for two records to share a module
(`case_variants_share_module`).
-/

namespace RestConnector.Generation

open RestConnector.Emit RestConnector.Name RestConnector.Disk RestConnector.Text

/-! ## Names of source files -/

/-- Where a file is, below the root. -/
def place (file : SourceFile) : String × String :=
  (file.directory, file.name)

/-- What the names of generated files have in common. -/
structure IsSourceName (name : String) : Prop where
  no_slash : '/' ∉ name.toList
  ends : ".py".toList <:+ name.toList

lemma IsSourceName.isName {name : String} (h : IsSourceName name) : IsName name := by
  refine ⟨h.no_slash, ?_, ?_, ?_⟩
  · rintro rfl
    exact absurd h.ends (by decide)
  · rintro rfl
    exact absurd h.ends (by decide)
  · rintro rfl
    exact absurd h.ends (by decide)

lemma no_slash_snakeCase (name : String) : '/' ∉ (snakeCase name).toList := by
  intro h
  obtain h | ⟨d, -, hd, he⟩ := mem_snakeCase h
  · exact absurd h (by decide)
  · have hw := isWordChar_toLower hd
    rw [he] at hw
    exact absurd hw (by decide)

lemma isSourceName_append (name : String) {ending : String} (hslash : '/' ∉ ending.toList)
    (hends : ".py".toList <:+ ending.toList) : IsSourceName (snakeCase name ++ ending) := by
  constructor
  · rw [String.toList_append, List.mem_append, not_or]
    exact ⟨no_slash_snakeCase name, hslash⟩
  · rw [String.toList_append]
    exact hends.trans (List.suffix_append _ _)

lemma isSourceName_packageFile : IsSourceName packageFile := by
  constructor <;> decide

/-! ## The package of models -/

/-- Whether the records of a configuration have different modules. -/
def HasDistinctModules (config : Configuration) : Prop :=
  ∀ model ∈ modelsOf config, ∀ other ∈ modelsOf config,
    recordModuleName model = recordModuleName other → model.recordName = other.recordName

instance (config : Configuration) : Decidable (HasDistinctModules config) :=
  inferInstanceAs (Decidable (∀ model ∈ modelsOf config, ∀ other ∈ modelsOf config,
    recordModuleName model = recordModuleName other → model.recordName = other.recordName))

/-- Record types are different to begin with, so it is up to their snake case. -/
lemma nodup_recordModuleNames_iff (config : Configuration) :
    ((modelsOf config).map recordModuleName).Nodup ↔ HasDistinctModules config := by
  have hmap : (modelsOf config).map recordModuleName =
      (recordNames (modelsOf config)).map snakeCase := by
    simp [recordNames, recordModuleName, Function.comp_def]
  rw [hmap, List.nodup_map_iff_inj_on (nodup_recordNames_modelsOf config)]
  simp only [recordNames, List.forall_mem_map, HasDistinctModules, recordModuleName]

lemma head?_snakeCase (name : String) : (snakeCase name).toList.head? ≠ some '_' := by
  by_cases h : foldedWords name = []
  · rw [toList_snakeCase, h]
    simp
  · exact (isTrimmed_snakeCase h).head_ne

/-- The module of a record is not the initial module of the package. -/
lemma recordModuleName_ne_packageFile (model : Schema.Model) :
    recordModuleName model ++ ".py" ≠ packageFile := by
  intro h
  have hhead := head?_snakeCase model.recordName
  have hlist := congrArg String.toList h
  rw [recordModuleName, String.toList_append] at hlist
  cases hs : (snakeCase model.recordName).toList with
  | nil =>
    rw [hs] at hlist
    exact absurd hlist (by decide)
  | cons c cs =>
    rw [hs] at hlist hhead
    have hc : c = '_' := (List.cons.inj hlist).1
    exact hhead (by rw [hc]; rfl)

/-- Where the module of a record is. -/
def recordPlace (moduleName : String) : String × String :=
  ("models", moduleName ++ ".py")

lemma recordPlace_injective : Function.Injective recordPlace := by
  intro a b h
  exact (String.append_left_inj ".py").1 (Prod.mk.inj h).2

lemma places_modelPart (config : Configuration) :
    (modelPart config).map place = [] ∧ modelsOf config = [] ∨
      (modelPart config).map place =
        ((modelsOf config).map recordModuleName).map recordPlace ++ [("models", packageFile)] := by
  unfold modelPart
  split
  · next h =>
    right
    rw [Bool.and_eq_true] at h
    simp [modelFiles, modelsOf, h.1, place, recordPlace, Function.comp_def]
  · next h => exact .inl ⟨rfl, modelsOf_eq_nil h⟩

lemma place_of_mem_modelPart {config : Configuration} {p : String × String}
    (h : p ∈ (modelPart config).map place) : p.1 = "models" ∧ IsSourceName p.2 := by
  rcases places_modelPart config with ⟨hnil, -⟩ | hplaces
  · rw [hnil] at h
    exact absurd h List.not_mem_nil
  · rw [hplaces] at h
    simp only [List.mem_append, List.mem_map, List.mem_singleton] at h
    rcases h with ⟨_, ⟨model, -, rfl⟩, rfl⟩ | rfl
    · exact ⟨rfl, isSourceName_append _ (by decide) (by decide)⟩
    · exact ⟨rfl, isSourceName_packageFile⟩

lemma nodup_places_modelPart_iff (config : Configuration) :
    ((modelPart config).map place).Nodup ↔ HasDistinctModules config := by
  rw [← nodup_recordModuleNames_iff]
  rcases places_modelPart config with ⟨hnil, hmodels⟩ | hplaces
  · simp [hnil, hmodels]
  · have hlast : ("models", packageFile) ∉
        ((modelsOf config).map recordModuleName).map recordPlace := by
      intro hmem
      simp only [List.mem_map] at hmem
      obtain ⟨_, ⟨model, -, rfl⟩, he⟩ := hmem
      exact recordModuleName_ne_packageFile model (Prod.mk.inj he).2
    rw [hplaces, List.nodup_append_comm, List.singleton_append, List.nodup_cons,
      List.nodup_map_iff recordPlace_injective]
    exact and_iff_right hlast

/-! ## The root -/

lemma places_operationFiles {writer : ContractWriter} {options : GenerationOptions}
    {apiName stem baseUrl : String} {operations : List Operation} {files : List SourceFile}
    (h : operationFiles writer options apiName stem baseUrl operations = .ok files) :
    (files.map place).Sublist
      [("", stem ++ "_api.py"), ("", stem ++ "_client.py"), ("", stem ++ "_registration.py")] := by
  unfold operationFiles at h
  split at h
  · cases hw : writer apiName baseUrl operations with
    | error message =>
      rw [hw] at h
      exact absurd h (by simp [bind, Except.bind])
    | ok contract =>
      rw [hw] at h
      obtain rfl := Except.ok.inj h
      by_cases hclient : options.client <;> by_cases hregistration : options.registration <;>
        simp [hclient, hregistration, place]
  · obtain rfl := Except.ok.inj h
    exact List.nil_sublist _

lemma places_rootFile (apiName stem : String) (files : List SourceFile) :
    ((rootFile apiName stem files).map place).Sublist [("", packageFile)] := by
  unfold rootFile
  split
  · exact List.nil_sublist _
  · exact List.Sublist.refl _

lemma append_ne_packageFile (stem : String) {ending : String}
    (h : ¬ ending.toList <:+ packageFile.toList) : stem ++ ending ≠ packageFile := by
  intro he
  exact h ⟨stem.toList, by rw [← String.toList_append, he]⟩

/-- The files at the root are always different. -/
lemma nodup_rootPlaces (stem : String) :
    [("", stem ++ "_api.py"), ("", stem ++ "_client.py"), ("", stem ++ "_registration.py"),
      ("", packageFile)].Nodup := by
  have hapi := append_ne_packageFile stem (by decide : ¬ "_api.py".toList <:+ packageFile.toList)
  have hclient :=
    append_ne_packageFile stem (by decide : ¬ "_client.py".toList <:+ packageFile.toList)
  have hregistration :=
    append_ne_packageFile stem (by decide : ¬ "_registration.py".toList <:+ packageFile.toList)
  simp [hapi, hclient, hregistration, String.append_right_inj]

/-! ## All files -/

/-- The places of the files that a generation has: those of models, and different ones at the root. -/
lemma places_generate {writer : ContractWriter} {config : Configuration} {files : List SourceFile}
    (h : generate writer config = .ok files) :
    ∃ root, files.map place = (modelPart config).map place ++ root ∧ root.Nodup ∧
      ∀ p ∈ root, p.1 = "" ∧ IsSourceName p.2 := by
  obtain ⟨rest, hrest, rfl⟩ := generate_ok h
  have hsub := (places_operationFiles hrest).append
    (places_rootFile (apiNameOf config) (stemOf config) (modelPart config ++ rest))
  refine ⟨_, by rw [List.append_assoc, List.map_append, List.map_append], ?_, ?_⟩
  · exact (nodup_rootPlaces _).sublist hsub
  · intro p hp
    have hmem := hsub.subset hp
    simp only [List.mem_append, List.mem_cons, List.not_mem_nil, or_false] at hmem
    rcases hmem with (rfl | rfl | rfl) | rfl
    · exact ⟨rfl, isSourceName_append _ (by decide) (by decide)⟩
    · exact ⟨rfl, isSourceName_append _ (by decide) (by decide)⟩
    · exact ⟨rfl, isSourceName_append _ (by decide) (by decide)⟩
    · exact ⟨rfl, isSourceName_packageFile⟩

/-- Every file is a source file, at the root or in the package of models. -/
lemma place_of_mem_generate {writer : ContractWriter} {config : Configuration}
    {files : List SourceFile} (h : generate writer config = .ok files) {file : SourceFile}
    (hf : file ∈ files) :
    IsSourceName file.name ∧ (file.directory = "" ∨ file.directory = "models") := by
  obtain ⟨root, hplaces, -, hroot⟩ := places_generate h
  have hmem : place file ∈ (modelPart config).map place ++ root := by
    rw [← hplaces]
    exact List.mem_map_of_mem hf
  rcases List.mem_append.1 hmem with hm | hr
  · obtain ⟨hd, hn⟩ := place_of_mem_modelPart hm
    exact ⟨hn, .inr hd⟩
  · obtain ⟨hd, hn⟩ := hroot _ hr
    exact ⟨hn, .inl hd⟩

/-- Files are different as long as the modules of records are. -/
lemma nodup_places_iff {writer : ContractWriter} {config : Configuration} {files : List SourceFile}
    (h : generate writer config = .ok files) :
    (files.map place).Nodup ↔ HasDistinctModules config := by
  obtain ⟨root, hplaces, hroot, hfst⟩ := places_generate h
  have hdisjoint : ((modelPart config).map place).Disjoint root := by
    intro p hp hr
    have hmodels := (place_of_mem_modelPart hp).1
    rw [(hfst p hr).1] at hmodels
    exact absurd hmodels (by decide)
  rw [hplaces, List.nodup_append', nodup_places_modelPart_iff]
  exact ⟨fun hn => hn.1, fun hn => ⟨hn, hroot, hdisjoint⟩⟩

/-! ## Paths in the file tree -/

lemma path_placeOf_generate {writer : ContractWriter} {config : Configuration}
    {files : List SourceFile} (h : generate writer config = .ok files) (output : String)
    {file : SourceFile} (hf : file ∈ files) :
    (Run.placeOf output file).path = (Location.ofString output).path ++ Run.namesBelow file := by
  obtain ⟨hname, hd⟩ := place_of_mem_generate h hf
  have hmodels : IsName "models" := by constructor <;> decide
  refine Run.path_placeOf output hname.isName (hd.imp_right fun he => ?_)
  rwa [he]

/-- Different places lead to different paths. -/
lemma nodup_pathsOf_iff {writer : ContractWriter} {config : Configuration} {files : List SourceFile}
    (h : generate writer config = .ok files) (output : String) :
    (Run.pathsOf output files).Nodup ↔ (files.map place).Nodup := by
  rw [Run.pathsOf, List.Nodup, List.Nodup, List.pairwise_map, List.pairwise_map]
  refine List.Pairwise.iff_of_mem fun {file other} hf hg => not_congr ?_
  have hd := (place_of_mem_generate h hf).2
  have hd' := (place_of_mem_generate h hg).2
  rw [path_placeOf_generate h output hf, path_placeOf_generate h output hg, place, place,
    Prod.mk.injEq]
  rcases hd with hd | hd <;> rcases hd' with hd' | hd' <;> simp [Run.namesBelow, hd, hd']

/-- The report is no source file. -/
lemma reportPath_notMem {writer : ContractWriter} {config : Configuration} {files : List SourceFile}
    (h : generate writer config = .ok files) (output : String) :
    Run.reportPath output ∉ Run.pathsOf output files := by
  intro hm
  obtain ⟨file, hf, he⟩ := List.mem_map.1 hm
  have hreport : IsName Report.fileName := by constructor <;> decide
  have hname := (place_of_mem_generate h hf).1
  rw [path_placeOf_generate h output hf, Run.reportPath, hreport.path_join,
    List.append_right_inj] at he
  have hlast := congrArg List.getLast? he
  simp only [Run.namesBelow, List.getLast?_append, List.getLast?_singleton, Option.some_or,
    Option.some.injEq] at hlast
  rw [hlast] at hname
  exact absurd hname.ends (by decide)

lemma nodup_writtenPaths {writer : ContractWriter} {config : Configuration} {files : List SourceFile}
    (h : generate writer config = .ok files) (withReport : Bool) (output : String)
    (hpaths : (Run.pathsOf output files).Nodup) :
    (Run.writtenPaths withReport output files).Nodup := by
  rw [Run.writtenPaths, List.nodup_append']
  refine ⟨hpaths, ?_, ?_⟩
  · split
    · exact List.nodup_singleton _
    · exact List.nodup_nil
  · intro path hp hr
    split at hr
    · rw [List.mem_singleton.1 hr] at hp
      exact reportPath_notMem h output hp
    · exact absurd hr List.not_mem_nil

/-- The files of a generation are different exactly when the records have different modules.  A delivery
writes to as many paths as it reports in that case only, and then all files are there in the end. -/
theorem places_nodup_iff {writer : ContractWriter} {config : Configuration}
    {files : List SourceFile} (h : generate writer config = .ok files) :
    ((files.map place).Nodup ↔ HasDistinctModules config) ∧
      ∀ withReport tree written result,
        Run.deliver withReport config files tree = (.ok written, result) →
          (written = (Run.pathsOf config.outputPath files).dedup.length ↔
            HasDistinctModules config) ∧
          (HasDistinctModules config → Run.HasFiles config.outputPath files result) := by
  refine ⟨nodup_places_iff h, fun withReport tree written result hdeliver => ?_⟩
  obtain ⟨rfl, -, hfiles⟩ := Run.deliver_ok hdeliver
  rw [← nodup_places_iff h, ← nodup_pathsOf_iff h config.outputPath]
  have hlength : files.length = (Run.pathsOf config.outputPath files).length := by
    simp [Run.pathsOf]
  refine ⟨?_, fun hpaths => hfiles (nodup_writtenPaths h withReport _ hpaths)⟩
  rw [hlength, ← List.dedup_eq_self]
  constructor
  · intro he
    exact (List.dedup_sublist _).eq_of_length he.symm
  · intro he
    rw [he]

/-- Users with an address each. -/
def usersConfig : Configuration :=
  inferredFrom "/users" "[\x7b\"id\": 1, \"address\": \x7b\"city\": \"Rome\"\x7d\x7d]"

/-- The files for users are different, and all of them are in an empty tree when they have been delivered. -/
theorem nodup_places_usersConfig :
    ∃ files written result, generate standardWriter usersConfig = .ok files ∧
      Run.deliver true usersConfig files {} = (.ok written, result) ∧
      (files.map place).Nodup ∧ written = (Run.pathsOf usersConfig.outputPath files).dedup.length ∧
      Run.HasFiles usersConfig.outputPath files result := by
  obtain ⟨files, h⟩ := exists_generate_standardWriter usersConfig
  have hdelivered : (generate standardWriter usersConfig).toOption.bind (fun files =>
      (Run.deliver true usersConfig files {}).1.toOption) = some 7 := by
    decide +kernel
  rw [h] at hdelivered
  have hdistinct : HasDistinctModules usersConfig := by decide +kernel
  obtain ⟨hplaces, hdeliver⟩ := places_nodup_iff h
  cases hd : Run.deliver true usersConfig files {} with
  | mk outcome result =>
    cases outcome with
    | error fault => simp [Except.toOption, hd] at hdelivered
    | ok written =>
      obtain ⟨hwritten, hfiles⟩ := hdeliver true {} written result hd
      exact ⟨files, written, result, h, hd, hplaces.2 hdistinct, hwritten.2 hdistinct,
        hfiles hdistinct⟩

/-- Two keys that differ only in the case of their letters give two records one module. -/
theorem case_variants_share_module :
    (generate standardWriter (inferredFrom "/data"
      ("\x7b\"HTTPResponse\": \x7b\"a\": 1\x7d, " ++
        "\"HttpResponse\": \x7b\"b\": 2\x7d\x7d"))).toOption.map (·.map place) =
      some [("models", "data.py"), ("models", "http_response.py"), ("models", "http_response.py"),
        ("models", "__init__.py"), ("", "my_api_api.py"), ("", "my_api_client.py"),
        ("", "my_api_registration.py"), ("", "__init__.py")] := by
  decide +kernel

end RestConnector.Generation
