import RestConnector.Proofs.Generation.Files
import RestConnector.Proofs.Name.Pascal

/-!
# Names of generated files

A generated file lies at the root of the connector or in its package of models, and there are few kinds of
them (`mem_places_generate`).  What their names are formed from may be any text: a key of some document, a
segment of a path, the name that a user gives to an API.  But names are formed in snake case, which leaves
nothing of a text but its letters, made small, and its decimal digits; so no generated name has another
character in front of its ending than these and underscores (`isModuleFile_of_mem_generate`), and the place
of a generated file is the output directory with at most one directory below it (`names_placeOf_generate`).
-/

namespace RestConnector.Generation

open RestConnector.Emit RestConnector.Name RestConnector.Disk RestConnector.Text

/-! ## Module files -/

/-- Whether the name of a file has the ending of a module, and before it nothing but small letters, decimal
digits and underscores. -/
def IsModuleFile (name : String) : Prop :=
  ∃ stem : String, name = stem ++ ".py" ∧ ∀ c ∈ stem.toList, c.isLower ∨ isDecimal c ∨ c = '_'

/-- A word character in small letters is a small letter or a decimal digit. -/
lemma isLower_or_isDecimal_toLower {c : Char} (h : isWordChar c) :
    c.toLower.isLower ∨ isDecimal c.toLower := by
  rcases isWordChar_iff.1 h with (hupper | hlower) | hdecimal
  · exact .inl (isLower_toLower hupper)
  · have hsame : c.toLower = c := by
      apply toLower_of_not_isUpper
      rw [isUpper_iff]
      rw [isLower_iff] at hlower
      omega
    exact .inl (by rwa [hsame])
  · have hsame : c.toLower = c := by
      apply toLower_of_not_isUpper
      intro hupper
      rw [IsLetter.not_isDecimal (.inl hupper)] at hdecimal
      cases hdecimal
    exact .inr (by rwa [hsame])

/-- A name in snake case can stand in front of the name of a module file. -/
lemma IsModuleFile.snakeCase_append {ending : String} (h : IsModuleFile ending) (name : String) :
    IsModuleFile (snakeCase name ++ ending) := by
  obtain ⟨stem, rfl, hstem⟩ := h
  refine ⟨snakeCase name ++ stem, by rw [String.append_assoc], fun c hc => ?_⟩
  rw [String.toList_append, List.mem_append] at hc
  rcases hc with hname | hrest
  · rcases mem_snakeCase hname with rfl | ⟨d, -, hd, rfl⟩
    · exact .inr (.inr rfl)
    · exact (isLower_or_isDecimal_toLower hd).imp id .inl
  · exact hstem c hrest

/-- The characters in front of the ending are checked one after the other. -/
lemma IsModuleFile.of_all {stem : String}
    (h : stem.toList.all fun c => c.isLower || (isDecimal c || c = '_')) :
    IsModuleFile (stem ++ ".py") := by
  refine ⟨stem, rfl, fun c hc => ?_⟩
  have hall := List.all_eq_true.1 h c hc
  rwa [Bool.or_eq_true, Bool.or_eq_true, decide_eq_true_iff] at hall

lemma isModuleFile_packageFile : IsModuleFile packageFile := by
  have hstem : packageFile = "__init__" ++ ".py" := rfl
  rw [hstem]
  exact .of_all (by decide)

/-- There is no null character in the name of a module file. -/
lemma IsModuleFile.null_notMem {name : String} (h : IsModuleFile name) : '\x00' ∉ name.toList := by
  obtain ⟨stem, rfl, hstem⟩ := h
  rw [String.toList_append, List.mem_append, not_or]
  refine ⟨fun hnull => ?_, by decide⟩
  have hchar := hstem _ hnull
  revert hchar
  decide

/-! ## Places -/

/-- The places of the files at the root, whichever of them are there. -/
def rootPlaces (stem : String) : List (String × String) :=
  [("", stem ++ "_api.py"), ("", stem ++ "_client.py"), ("", stem ++ "_registration.py"),
    ("", packageFile)]

variable {writer : ContractWriter} {config : Configuration} {files : List SourceFile}
  {file : SourceFile}

/-- Where generated files are: modules of records and the package that they are in, and the files at the
root. -/
lemma mem_places_generate (h : generate writer config = .ok files) (hf : file ∈ files) :
    (∃ model ∈ modelsOf config, place file = recordPlace (recordModuleName model)) ∨
      place file = ("models", packageFile) ∨ place file ∈ rootPlaces (stemOf config) := by
  obtain ⟨rest, hrest, rfl⟩ := generate_ok h
  have hplace : place file ∈ (modelPart config ++ rest ++
      rootFile (apiNameOf config) (stemOf config) (modelPart config ++ rest)).map place :=
    List.mem_map_of_mem hf
  rw [List.map_append, List.map_append, List.mem_append, List.mem_append] at hplace
  rcases hplace with (hmodels | hoperations) | hroot
  · rcases places_modelPart config with ⟨hnone, -⟩ | hplaces
    · rw [hnone] at hmodels
      exact absurd hmodels List.not_mem_nil
    · rw [hplaces, List.map_map, List.mem_append, List.mem_singleton] at hmodels
      rcases hmodels with hrecord | hpackage
      · obtain ⟨model, hmodel, he⟩ := List.mem_map.1 hrecord
        exact .inl ⟨model, hmodel, he.symm⟩
      · exact .inr (.inl hpackage)
  · have hmem := (places_operationFiles hrest).subset hoperations
    exact .inr (.inr (List.mem_append_left [("", packageFile)] hmem))
  · have hmem := (places_rootFile _ _ _).subset hroot
    rw [List.mem_singleton] at hmem
    rw [hmem]
    exact .inr (.inr (by simp [rootPlaces]))

/-- The name of a generated file is that of a module, whatever it has been formed from. -/
theorem isModuleFile_of_mem_generate (h : generate writer config = .ok files) (hf : file ∈ files) :
    IsModuleFile file.name := by
  have hapi : IsModuleFile ("_api" ++ ".py") := .of_all (by decide)
  have hclient : IsModuleFile ("_client" ++ ".py") := .of_all (by decide)
  have hregistration : IsModuleFile ("_registration" ++ ".py") := .of_all (by decide)
  rcases mem_places_generate h hf with ⟨model, -, he⟩ | he | hroot
  · have hname : file.name = recordModuleName model ++ ".py" := (Prod.mk.inj he).2
    rw [hname]
    exact IsModuleFile.snakeCase_append ⟨"", rfl, nofun⟩ _
  · have hname : file.name = packageFile := (Prod.mk.inj he).2
    rw [hname]
    exact isModuleFile_packageFile
  · simp only [rootPlaces, place, List.mem_cons, List.not_mem_nil, or_false, Prod.mk.injEq] at hroot
    rcases hroot with ⟨-, hname⟩ | ⟨-, hname⟩ | ⟨-, hname⟩ | ⟨-, hname⟩
    · rw [hname]
      exact hapi.snakeCase_append _
    · rw [hname]
      exact hclient.snakeCase_append _
    · rw [hname]
      exact hregistration.snakeCase_append _
    · rw [hname]
      exact isModuleFile_packageFile

/-- The place of a generated file is a name in the output directory, or in its directory of models. -/
lemma names_placeOf_generate (h : generate writer config = .ok files) (hf : file ∈ files)
    (output : String) :
    (Run.placeOf output file).anchor = (Location.ofString output).anchor ∧
      (Run.placeOf output file).names = (Location.ofString output).names ++ Run.namesBelow file := by
  obtain ⟨hname, hdirectory⟩ := place_of_mem_generate h hf
  have hmodels : IsName "models" := by constructor <;> decide
  rcases hdirectory with hd | hd <;>
    simp [Run.placeOf, Run.namesBelow, hd, Location.join, hname.isName.ofString_eq, hmodels.ofString_eq]

end RestConnector.Generation
