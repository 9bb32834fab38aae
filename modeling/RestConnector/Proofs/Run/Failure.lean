import RestConnector.Proofs.Disk.NullCharacter
import RestConnector.Proofs.Generation.FileNames
import RestConnector.Proofs.Run.Course

/-!
# How a run fails

A run without a base URL does nothing at all.  Any other one opens a session and closes it again, however it
ends.  If the network does nothing unexpected and the files can be written, there is one way left to fail:
a contract is wanted, there are endpoints for it, and its writer fails; the message of the writer is then
what the run says.

A failed run has not touched the file tree, unless it was the operating system that refused one of its
files.  A null character in the output path is no exception to this, though it is the writing of files that
it makes fail: it is in the place of the first file already, whose directory is asked for before anything is
done (`write_null`).  All of this is put together in `run_failure`.
-/

namespace RestConnector.Run

open RestConnector.Disk RestConnector.Generation RestConnector.Survey RestConnector.Survey.Exchange
  RestConnector.Text

/-! ## Null characters in the output path -/

section Writing

variable {output : String} {files others : List SourceFile} {tree result : FileTree} {fault : Fault}

/-- Whether a null character in the place of a file can only come from the output directory, and is in the
place of the directory that the file is in then. -/
def AddNoNull (output : String) (files : List SourceFile) : Prop :=
  ∀ file ∈ files, ((placeOf output file).HasNull → (Location.ofString output).HasNull) ∧
    ((Location.ofString output).HasNull → (placeOf output file).parent.HasNull)

lemma addNoNull_of_names
    (hnames : ∀ file ∈ files, (placeOf output file).anchor = (Location.ofString output).anchor ∧
      (placeOf output file).names = (Location.ofString output).names ++ namesBelow file)
    (hnull : ∀ file ∈ files, ∀ name ∈ namesBelow file, '\x00' ∉ name.toList) :
    AddNoNull output files := by
  intro file hf
  obtain ⟨hanchor, hbelow⟩ := hnames file hf
  constructor
  · intro h
    rw [Location.hasNull_iff] at h ⊢
    rw [hanchor, hbelow] at h
    refine h.imp id ?_
    rintro ⟨name, hname, hmem⟩
    rcases List.mem_append.1 hname with hroot | hadded
    · exact ⟨name, hroot, hmem⟩
    · exact absurd hmem (hnull file hf name hadded)
  · intro h
    have hne : namesBelow file ≠ [] := by simp [namesBelow]
    rw [Location.hasNull_iff] at h ⊢
    rw [Location.parent, hanchor, hbelow, List.dropLast_append_of_ne_nil hne]
    refine h.imp id ?_
    rintro ⟨name, hname, hmem⟩
    exact ⟨name, List.mem_append_left _ hname, hmem⟩

lemma write_cons_error_iff {file : SourceFile} :
    write output (file :: files) tree = (.error fault, result) ↔
      Action.save (placeOf output file) file.content tree = (.error fault, result) ∨
        ∃ middle, Action.save (placeOf output file) file.content tree = (.ok (), middle) ∧
          write output files middle = (.error fault, result) := by
  rw [write, Action.bind_apply]
  rcases Action.save (placeOf output file) file.content tree with ⟨_ | _, middle⟩
  · simp
  · simp only [Action.bind_apply]
    rcases hlater : write output files middle with ⟨_ | later, last⟩
    · simp [hlater]
    · simp [hlater, Action.pure_apply]

lemma write_append_error_iff :
    write output (files ++ others) tree = (.error fault, result) ↔
      write output files tree = (.error fault, result) ∨
        ∃ first middle, write output files tree = (.ok first, middle) ∧
          write output others middle = (.error fault, result) := by
  induction files generalizing tree with
  | nil =>
    constructor
    · exact fun h => .inr ⟨[], tree, rfl, h⟩
    · rintro (h | ⟨first, middle, ⟨⟩, h⟩)
      · cases h
      · exact h
  | cons file rest ih =>
    simp only [List.cons_append, write_cons_error_iff, write_cons_ok_iff, ih]
    constructor
    · rintro (h | ⟨saved, hsave, h | ⟨first, middle, hfirst, h⟩⟩)
      · exact .inl (.inl h)
      · exact .inl (.inr ⟨saved, hsave, h⟩)
      · exact .inr ⟨_, middle, ⟨saved, first, hsave, hfirst, rfl⟩, h⟩
    · rintro ((h | ⟨saved, hsave, h⟩) | ⟨_, middle, ⟨saved, first, hsave, hfirst, rfl⟩, h⟩)
      · exact .inl h
      · exact .inr ⟨saved, hsave, .inl h⟩
      · exact .inr ⟨saved, hsave, .inr ⟨first, middle, hfirst, h⟩⟩

/-- When files cannot be written, one of them cannot be saved. -/
lemma exists_save_of_write_error (h : write output files tree = (.error fault, result)) :
    ∃ file ∈ files, ∃ middle,
      Action.save (placeOf output file) file.content middle = (.error fault, result) := by
  induction files generalizing tree with
  | nil => cases h
  | cons file rest ih =>
    rcases write_cons_error_iff.1 h with hfirst | ⟨middle, -, hrest⟩
    · exact ⟨file, List.mem_cons_self, tree, hfirst⟩
    · obtain ⟨other, hother, later, hsave⟩ := ih hrest
      exact ⟨other, List.mem_cons_of_mem _ hother, later, hsave⟩

/-- If a null character makes the writing of files fail, nothing has been written. -/
theorem write_null (hfiles : AddNoNull output files)
    (h : write output files tree = (.error fault, result)) (hkind : fault.kind = .nullCharacter) :
    result = tree := by
  -- The file that fails shows that the output path has the character, and so the first one fails.
  obtain ⟨failing, hfailing, middle, hsave⟩ := exists_save_of_write_error h
  have hplace : (placeOf output failing).HasNull := by
    by_contra hnone
    exact Action.kind_of_save hnone hsave hkind
  have hroot := (hfiles failing hfailing).1 hplace
  cases files with
  | nil => exact absurd hfailing List.not_mem_nil
  | cons file rest =>
    have hfirst : Action.save (placeOf output file) file.content tree = (.error _, tree) :=
      Action.save_of_hasNull ((hfiles file List.mem_cons_self).2 hroot) file.content
    rcases write_cons_error_iff.1 h with hfault | ⟨later, hsaved, -⟩
    · exact (Prod.mk.inj (hfirst.symm.trans hfault)).2.symm
    · exact absurd (hfirst.symm.trans hsaved) (by simp)

variable {withReport : Bool} {config : Configuration}

/-- A delivery that fails has failed to write its files, the report among them. -/
lemma write_of_deliver_error (h : deliver withReport config files tree = (.error fault, result)) :
    write config.outputPath (deliveredFiles withReport config files) tree = (.error fault, result) := by
  rw [deliver, Action.bind_apply] at h
  rw [deliveredFiles, write_append_error_iff]
  rcases hfiles : write config.outputPath files tree with ⟨fault' | first, middle⟩
  · simp only [hfiles, Prod.mk.injEq, Except.error.injEq] at h
    left
    simpa using h
  · right
    refine ⟨first, middle, rfl, ?_⟩
    rw [hfiles] at h
    cases withReport with
    | false => cases h
    | true =>
      simp only [if_true, Action.bind_apply, Report.save] at h
      refine write_cons_error_iff.2 (.inl ?_)
      rw [placeOf_reportFile]
      rcases hsave : Action.save ((Location.ofString config.outputPath).join Report.fileName)
        (Report.text config) middle with ⟨fault' | _, last⟩
      · simpa [reportFile, hsave] using h
      · simp [hsave, Action.pure_apply] at h

end Writing

/-! ## Generated files -/

/-- A writer of contracts that always fails, if it is given a message to fail with. -/
def writerFailing : Option String → ContractWriter
  | none => standardWriter
  | some message => fun _ _ _ => .error message

/-- A generation with such a writer fails exactly when the writer fails and its contract is wanted. -/
lemma generate_writerFailing_eq_error_iff {contractError : Option String} {config : Configuration}
    {message : String} :
    generate (writerFailing contractError) config = .error message ↔
      config.options.contract ∧ config.endpoints ≠ [] ∧ contractError = some message := by
  rw [generate_eq_error_iff]
  cases contractError with
  | none => simp [writerFailing, standardWriter]
  | some text => simp [writerFailing]

/-- The names of generated files, and of the report, have no null character. -/
lemma addNoNull_deliveredFiles {writer : ContractWriter} {config : Configuration}
    {files : List SourceFile} (h : generate writer config = .ok files) (withReport : Bool) :
    AddNoNull config.outputPath (deliveredFiles withReport config files) := by
  have hreport : IsName Report.fileName := by constructor <;> decide
  apply addNoNull_of_names
  · intro file hf
    rcases mem_deliveredFiles.1 hf with hgenerated | ⟨-, rfl⟩
    · exact names_placeOf_generate h hgenerated config.outputPath
    · rw [placeOf_reportFile]
      simp [Location.join, hreport.ofString_eq, namesBelow, reportFile]
  · intro file hf name hname
    rcases mem_deliveredFiles.1 hf with hgenerated | ⟨-, rfl⟩
    · obtain rfl | rfl : name = file.name ∨ name = "models" := by
        rcases (place_of_mem_generate h hgenerated).2 with hd | hd
        · exact .inl (by simpa [namesBelow, hd] using hname)
        · exact .symm (by simpa [namesBelow, hd] using hname)
      · exact (isModuleFile_of_mem_generate h hgenerated).null_notMem
      · decide
    · obtain rfl : name = Report.fileName := by simpa [namesBelow, reportFile] using hname
      decide

/-! ## Runs -/

/-- Whether a failure is one that the operating system has reported, under a number. -/
def IsSystemFault : RunFault → Prop
  | .notWritten fault => (Fault.wording fault.kind).isSome
  | _ => False

section Runs

variable (writer : ContractWriter) (network : Network) (settings : Settings) (withReport : Bool)
  (config : Configuration) (journal : Journal) (tree : FileTree)

/-- Every run that has a base URL opens one session, and closes it. -/
lemma session_run (hblank : ¬ isAllBlank config.baseUrl) :
    let outcome := run writer network settings withReport config journal tree
    outcome.journal.opened = journal.opened ++ [Session.create config.credentials settings] ∧
      outcome.journal.closed = journal.closed + 1 := by
  intro outcome
  have hcourse : Course writer network settings withReport config journal tree outcome :=
    course_run writer network settings withReport config journal tree
  cases hcourse with
  | unprepared h => exact absurd h hblank
  | lost hprepare _ houtcome | unsampled hprepare _ _ houtcome | ungenerated hprepare _ _ _ houtcome
  | unwritten hprepare _ _ _ _ houtcome | delivered hprepare _ _ _ _ houtcome =>
    obtain ⟨_, _, _, rfl⟩ := prepare_frame hprepare
    rw [houtcome]
    exact ⟨rfl, rfl⟩

/-- A run that fails leaves the file tree as it is, unless the operating system has refused a file. -/
lemma tree_run {fault : RunFault}
    (h : (run writer network settings withReport config journal tree).result = .error fault)
    (hfault : ¬ IsSystemFault fault) :
    (run writer network settings withReport config journal tree).tree = tree := by
  cases course_run writer network settings withReport config journal tree with
  | unprepared _ houtcome | lost _ _ houtcome | unsampled _ _ _ houtcome
  | ungenerated _ _ _ _ houtcome => rw [houtcome]
  | delivered _ _ _ _ _ houtcome =>
    rw [houtcome] at h
    cases h
  | @unwritten _ _ _ _ _ reported _ _ _ _ hgenerate hdeliver houtcome =>
    rw [houtcome] at h
    obtain rfl := Except.error.inj h
    have hkind : reported.kind = .nullCharacter := by
      cases hkind : reported.kind with
      | nullCharacter => rfl
      | _ => simp [IsSystemFault, Fault.wording, hkind] at hfault
    rw [houtcome]
    exact write_null (addNoNull_deliveredFiles hgenerate withReport) (write_of_deliver_error hdeliver)
      hkind

/-- A build whose files can be written fails exactly when its contract does. -/
lemma result_build (contractError : Option String) (connectivity : Probe) :
    let outcome := build (writerFailing contractError) withReport connectivity config journal tree
    (∀ fault, outcome.result ≠ .error (.notWritten fault)) →
      ((∃ fault, outcome.result = .error fault) ↔
        contractError.isSome ∧ config.options.contract ∧ config.endpoints ≠ []) ∧
      ∀ fault, outcome.result = .error fault →
        ∃ message, contractError = some message ∧ fault = .generationFailed message := by
  intro outcome hwritten
  rcases hgenerate : generate (writerFailing contractError) config with message | files
  · obtain ⟨hcontract, hendpoints, hmessage⟩ := generate_writerFailing_eq_error_iff.1 hgenerate
    have hresult : outcome.result = .error (.generationFailed message) := by
      simp only [outcome, build, hgenerate]
    rw [hresult, hmessage]
    exact ⟨iff_of_true ⟨_, rfl⟩ ⟨rfl, hcontract, hendpoints⟩,
      fun fault hfault => ⟨message, rfl, (Except.error.inj hfault).symm⟩⟩
  · rcases hdeliver : deliver withReport config files tree with ⟨fault | written, last⟩
    · exact absurd (by simp only [outcome, build, hgenerate, hdeliver]) (hwritten fault)
    · have hunwanted :
          ¬ (contractError.isSome ∧ config.options.contract ∧ config.endpoints ≠ []) := by
        rintro ⟨hsome, hcontract, hendpoints⟩
        obtain ⟨message, hmessage⟩ := Option.isSome_iff_exists.1 hsome
        have hfails := generate_writerFailing_eq_error_iff.2 ⟨hcontract, hendpoints, hmessage⟩
        rw [hgenerate] at hfails
        cases hfails
      have hoks : ∀ fault, outcome.result ≠ .error fault := by
        intro fault
        rw [show outcome = _ from build_eq hgenerate hdeliver]
        rintro ⟨⟩
      refine ⟨iff_of_false ?_ hunwanted, fun fault h => absurd h (hoks fault)⟩
      rintro ⟨fault, h⟩
      exact hoks fault h

variable {network config} in
/-- Without crashes, and if the files can be written, a run that has a base URL fails exactly when a
contract is wanted for what has been discovered and cannot be written. -/
lemma result_run (contractError : Option String) (hblank : ¬ isAllBlank config.baseUrl)
    (hnetwork : NeverCrashes network) :
    let outcome := run (writerFailing contractError) network settings withReport config journal tree
    (∀ fault, outcome.result ≠ .error (.notWritten fault)) →
      (∃ probe first last,
        connectivity settings.timeout (onChars trim config.baseUrl) network journal.sent =
          (.ok probe, first) ∧
        discover settings.timeout (onChars trim config.baseUrl) config.endpoints network first =
          (.ok outcome.config.endpoints, last)) ∧
      ((∃ fault, outcome.result = .error fault) ↔
        contractError.isSome ∧ config.options.contract ∧ outcome.config.endpoints ≠ []) ∧
      ∀ fault, outcome.result = .error fault → ∃ message, contractError = some message ∧
        fault = .generationFailed message := by
  intro outcome hwritten
  obtain ⟨prepared, probe, endpoints, models, first, second, last, hprepare, hprobe, hfound, -, hrun⟩ :=
    exists_run_eq_build (writerFailing contractError) settings withReport journal tree hblank hnetwork
  have hoptions : prepared.options = config.options := by
    obtain ⟨_, _, _, rfl⟩ := prepare_frame hprepare
    rfl
  have hendpoints : outcome.config.endpoints = endpoints := by
    rw [show outcome = _ from hrun, (build_keeps _ _ _ _ _ _).2]
  rw [show outcome = _ from hrun] at hwritten
  have hresult := result_build withReport _ _ tree contractError probe hwritten
  rw [← hrun] at hresult
  rw [hendpoints, ← hoptions]
  exact ⟨⟨probe, first, second, hprobe, hfound⟩, hresult⟩

end Runs

end RestConnector.Run
