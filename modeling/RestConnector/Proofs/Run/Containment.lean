import RestConnector.Proofs.Disk.Saving
import RestConnector.Proofs.Generation.FileNames
import RestConnector.Proofs.Run.Course

/-!
# What a run writes, and where

A run writes files one after another, so that at each path the last of them counts, and a path that none of
them has keeps the content that it had (`content?_write`).  With a report there is one more file at the end
(`content?_deliver`).

Generated files lie in the output directory, or in its directory of models, and their names are those of
modules, whatever the API, its records and its endpoints are called.  Hence nothing that a remote API says,
and no name that a user gives, makes a run write anywhere else: where the content of a file has changed
when a run has ended with success, the file is one of the connector's, and it has exactly the content that
was generated last for its path, or it is the report (`changes_contained`).
-/

namespace RestConnector.Run

open RestConnector.Disk RestConnector.Generation

/-! ## The last file of a path -/

/-- The last of some files that is written to a path. -/
def lastAt? (output : String) (path : Path) (files : List SourceFile) : Option SourceFile :=
  files.reverse.find? fun file => (placeOf output file).path = path

section Writing

variable {output : String} {path : Path} {files others : List SourceFile} {file : SourceFile}
  {tree result : FileTree} {targets : List Location}

lemma lastAt?_cons :
    lastAt? output path (file :: files) =
      (lastAt? output path files).or (if (placeOf output file).path = path then some file else none) := by
  rw [lastAt?, List.reverse_cons, List.find?_append, List.find?_singleton, lastAt?]
  simp only [decide_eq_true_eq]

lemma lastAt?_append :
    lastAt? output path (files ++ others) =
      (lastAt? output path others).or (lastAt? output path files) := by
  rw [lastAt?, List.reverse_append, List.find?_append, lastAt?, lastAt?]

lemma lastAt?_eq_some (h : lastAt? output path files = some file) :
    file ∈ files ∧ (placeOf output file).path = path :=
  ⟨List.mem_reverse.1 (List.mem_of_find?_eq_some h), by simpa using List.find?_some h⟩

/-- Writing files leaves the last one at every path that has any, and what was there at the others. -/
theorem content?_write (h : write output files tree = (.ok targets, result)) (path : Path) :
    result.content? path =
      ((lastAt? output path files).map SourceFile.content).or (tree.content? path) := by
  induction files generalizing tree targets with
  | nil =>
    obtain rfl := (Prod.mk.inj h).2
    rfl
  | cons file rest ih =>
    obtain ⟨middle, later, hsave, hrest, -⟩ := write_cons_ok_iff.1 h
    have hmiddle : middle.content? path =
        ((if (placeOf output file).path = path then some file else none).map
          SourceFile.content).or (tree.content? path) := by
      split
      · next hpath =>
        subst hpath
        exact Action.content?_save_self hsave
      · next hpath =>
        have hkeep : (Action.save (placeOf output file) file.content tree).2.content? path =
            tree.content? path := Action.content?_save_of_ne file.content (Ne.symm hpath)
        rwa [hsave] at hkeep
    rw [ih hrest, hmiddle, lastAt?_cons, Option.map_or, Option.or_assoc]

/-- A delivery leaves the last file of every path, the report coming after all others. -/
lemma content?_deliver {withReport : Bool} {config : Configuration} {written : Nat}
    (h : deliver withReport config files tree = (.ok written, result)) (path : Path) :
    result.content? path =
      ((lastAt? config.outputPath path (deliveredFiles withReport config files)).map
        SourceFile.content).or (tree.content? path) := by
  obtain ⟨-, targets, hwrite⟩ := deliver_ok_iff.1 h
  exact content?_write hwrite path

lemma lastAt?_eq_none_iff : lastAt? output path files = none ↔ path ∉ pathsOf output files := by
  simp only [lastAt?, List.find?_eq_none, List.mem_reverse, decide_eq_true_eq, pathsOf, List.mem_map,
    not_exists, not_and]

end Writing

/-! ## Where files are -/

lemma reportPath_eq (output : String) :
    reportPath output = (Location.ofString output).path ++ [Report.fileName] := by
  have hname : IsName Report.fileName := by constructor <;> decide
  rw [reportPath, hname.path_join]

lemma path_reportFile (config : Configuration) (output : String) :
    (placeOf output (reportFile config)).path = reportPath output := by
  rw [placeOf_reportFile, reportPath]

/-- Nothing replaces the report, which is written last. -/
lemma lastAt?_deliveredFiles (withReport : Bool) (config : Configuration) (files : List SourceFile)
    (output : String) (path : Path) :
    lastAt? output path (deliveredFiles withReport config files) =
      if withReport ∧ path = reportPath output then some (reportFile config)
      else lastAt? output path files := by
  have hnil : lastAt? output path [] = none := rfl
  rw [deliveredFiles, lastAt?_append]
  cases withReport with
  | false => simp [hnil]
  | true =>
    rw [if_pos rfl, lastAt?_cons, hnil, Option.none_or, path_reportFile]
    by_cases hpath : path = reportPath output
    · simp [hpath]
    · simp [hpath, Ne.symm hpath]

lemma mem_writtenPaths {withReport : Bool} {output : String} {files : List SourceFile} {path : Path} :
    path ∈ writtenPaths withReport output files ↔
      path ∈ pathsOf output files ∨ withReport ∧ path = reportPath output := by
  rw [writtenPaths, List.mem_append]
  cases withReport <;> simp

/-- Whether a path is that of a module file right below a directory, or in its directory of models. -/
def IsInConnector (root : Path) (name : String) (path : Path) : Prop :=
  IsModuleFile name ∧ (path = root ++ [name] ∨ path = root ++ ["models", name])

lemma isInConnector_of_mem_generate {writer : ContractWriter} {config : Configuration}
    {files : List SourceFile} {file : SourceFile} (h : generate writer config = .ok files)
    (hf : file ∈ files) (output : String) :
    IsInConnector (Location.ofString output).path file.name (placeOf output file).path := by
  refine ⟨isModuleFile_of_mem_generate h hf, ?_⟩
  rw [path_placeOf_generate h output hf, namesBelow]
  rcases (place_of_mem_generate h hf).2 with hroot | hmodels
  · left
    simp [hroot]
  · right
    simp [hmodels]

/-! ## Runs -/

section Runs

variable {writer : ContractWriter} {network : Survey.Network} {settings : Settings} {withReport : Bool}
  {config : Configuration} {journal : Survey.Journal} {tree : FileTree} {summary : Summary}

/-- After a run that has succeeded, each path has the report, if it is wanted, or the last generated file
of that path, which is a module file of the connector, or what it had before. -/
theorem changes_contained
    (h : (run writer network settings withReport config journal tree).result = .ok summary) :
    let outcome := run writer network settings withReport config journal tree
    let output := outcome.config.outputPath
    let root := (Location.ofString output).path
    ∃ files, generate writer outcome.config = .ok files ∧ ∀ path,
      (withReport ∧ path = root ++ [Report.fileName] ∧
        outcome.tree.content? path = some (Report.text outcome.config)) ∨
      (∃ file, lastAt? output path files = some file ∧ IsInConnector root file.name path ∧
        outcome.tree.content? path = some file.content) ∨
      (path ∉ writtenPaths withReport output files ∧
        outcome.tree.content? path = tree.content? path) := by
  intro outcome output root
  have hcourse : Course writer network settings withReport config journal tree outcome :=
    course_run writer network settings withReport config journal tree
  obtain ⟨files, written, hgenerate, hdeliver⟩ :
      ∃ files written, generate writer outcome.config = .ok files ∧
        deliver withReport outcome.config files tree = (.ok written, outcome.tree) := by
    cases hcourse with
    | delivered _ _ _ hgenerate hdeliver houtcome =>
      rw [houtcome]
      exact ⟨_, _, hgenerate, hdeliver⟩
    | unprepared _ houtcome | lost _ _ houtcome | unsampled _ _ _ houtcome
    | ungenerated _ _ _ _ houtcome | unwritten _ _ _ _ _ houtcome =>
      exact absurd (h.symm.trans (congrArg Outcome.result houtcome)) nofun
  refine ⟨files, hgenerate, fun path => ?_⟩
  have hcontent := content?_deliver hdeliver path
  rw [lastAt?_deliveredFiles] at hcontent
  split at hcontent
  · next hreport =>
    left
    exact ⟨hreport.1, hreport.2.trans (reportPath_eq output), hcontent⟩
  · next hreport =>
    right
    cases hlast : lastAt? output path files with
    | some file =>
      left
      obtain ⟨hfile, hpath⟩ := lastAt?_eq_some hlast
      refine ⟨file, rfl, ?_, by rw [hcontent, hlast]; rfl⟩
      rw [← hpath]
      exact isInConnector_of_mem_generate hgenerate hfile output
    | none =>
      right
      refine ⟨?_, by rw [hcontent, hlast]; rfl⟩
      rw [mem_writtenPaths, not_or]
      exact ⟨lastAt?_eq_none_iff.1 hlast, hreport⟩

end Runs

/-- An API whose name and whose path lead upwards. -/
def climbingConfig : Configuration where
  baseUrl := "https://shop.example"
  apiName := "../../etc/Passwd"
  outputPath := "out"
  endpoints := [{ method := "GET", path := "/../../users" }]

/-- An output directory with a note in it, and with a module that will be replaced. -/
def keptTree : FileTree where
  entries := [(["out"], .directory), (["out", "notes.txt"], .file "mine"),
    (["out", "__init__.py"], .file "old")]

/-- What a run says that has written a connector for the six operations on users. -/
def climbingSummary : Summary where
  endpointsFound := 6
  schemasInferred := 0
  filesWritten := 4
  outputPath := "out"
  connectivity := { isSuccess := true, statusCode := 404, content := some "" }

/-- What is left of a run for this API in this tree. -/
def climbingOutcome : Outcome :=
  run standardWriter (Survey.Script.network {}) {} true climbingConfig {} keptTree

/-- Names that lead upwards lead to files in the output directory, where the note stays. -/
theorem climbing_names_contained :
    climbingOutcome.result = .ok climbingSummary ∧
      climbingOutcome.tree.content? ["out", "notes.txt"] = some "mine" ∧
      ∀ path, climbingOutcome.tree.content? path ≠ keptTree.content? path →
        path = ["out", Report.fileName] ∨ ∃ name, IsInConnector ["out"] name path := by
  have hresult : climbingOutcome.result = .ok climbingSummary := by decide +kernel
  have hroot : (Location.ofString climbingOutcome.config.outputPath).path = ["out"] := by
    decide +kernel
  have hnote : climbingOutcome.tree.content? ["out", "notes.txt"] = some "mine" := by
    decide +kernel
  obtain ⟨files, -, hcontents⟩ := changes_contained hresult
  rw [← climbingOutcome] at hcontents
  refine ⟨hresult, hnote, fun path hchanged => ?_⟩
  rcases hcontents path with ⟨-, hreport, -⟩ | ⟨file, -, hin, -⟩ | ⟨-, hkept⟩
  · left
    rwa [hroot] at hreport
  · right
    rw [hroot] at hin
    exact ⟨file.name, hin⟩
  · exact absurd hkept hchanged

end RestConnector.Run
