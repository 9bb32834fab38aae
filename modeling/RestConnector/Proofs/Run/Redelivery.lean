import RestConnector.Proofs.Disk.Resaving
import RestConnector.Proofs.Run.Delivery

/-!
# Delivering again

A delivery writes its files one after another and the report last, as one more file (`deliver_ok_iff`).
Where it has succeeded, every place that it has written to holds a file, so the same delivery succeeds
again and touches no other place (`write_again`).  Two deliveries of the same files leave the same contents
at their places, in whatever order places may repeat (`write_agree`).  Together: a second delivery leaves
everything in the tree as it is (`deliver_again`).
-/

namespace RestConnector.Run

open RestConnector.Disk

variable {output : String} {files others : List SourceFile} {tree result : FileTree}
  {targets : List Location}

lemma write_cons_ok_iff {file : SourceFile} :
    write output (file :: files) tree = (.ok targets, result) ↔
      ∃ middle later, Action.save (placeOf output file) file.content tree = (.ok (), middle) ∧
        write output files middle = (.ok later, result) ∧ targets = placeOf output file :: later := by
  rw [write, Action.bind_apply]
  rcases Action.save (placeOf output file) file.content tree with ⟨_ | _, middle⟩
  · simp
  · simp only [Action.bind_apply]
    rcases hlater : write output files middle with ⟨_ | later, last⟩
    · simp [hlater]
    · simp [hlater, Action.pure_apply, eq_comm, and_comm]

lemma write_append_ok_iff :
    write output (files ++ others) tree = (.ok targets, result) ↔
      ∃ first middle later, write output files tree = (.ok first, middle) ∧
        write output others middle = (.ok later, result) ∧ targets = first ++ later := by
  induction files generalizing tree targets with
  | nil =>
    constructor
    · exact fun h => ⟨[], tree, targets, rfl, h, rfl⟩
    · rintro ⟨first, middle, later, ⟨⟩, h, rfl⟩
      exact h
  | cons file rest ih =>
    simp only [List.cons_append, write_cons_ok_iff, ih]
    constructor
    · rintro ⟨saved, _, hsave, ⟨first, middle, later, hfirst, hlater, rfl⟩, rfl⟩
      exact ⟨_, middle, later, ⟨saved, first, hsave, hfirst, rfl⟩, hlater, rfl⟩
    · rintro ⟨_, middle, later, ⟨saved, first, hsave, hfirst, rfl⟩, hlater, rfl⟩
      exact ⟨saved, _, hsave, ⟨first, middle, later, hfirst, hlater, rfl⟩, rfl⟩

/-! ## The same files once more -/

lemma grows_write (output : String) (files : List SourceFile) (tree : FileTree) :
    Grows tree (write output files tree).2 := by
  induction files generalizing tree with
  | nil => exact Grows.refl tree
  | cons file rest ih =>
    have hsave := Action.grows_save (placeOf output file) file.content tree
    rw [write, Action.bind_apply]
    rcases hfirst : Action.save (placeOf output file) file.content tree with ⟨outcome, middle⟩
    rw [hfirst] at hsave
    cases outcome with
    | error fault => exact hsave
    | ok =>
      have hrest := ih middle
      simp only [Action.bind_apply]
      rcases hlater : write output rest middle with ⟨later, last⟩
      rw [hlater] at hrest
      cases later <;> exact hsave.trans hrest

lemma isSaved_of_write (h : write output files tree = (.ok targets, result)) :
    ∀ file ∈ files, IsSaved result (placeOf output file) := by
  induction files generalizing tree targets with
  | nil => exact fun _ hf => absurd hf List.not_mem_nil
  | cons file rest ih =>
    obtain ⟨middle, later, hsave, hrest, -⟩ := write_cons_ok_iff.1 h
    have hgrows := grows_write output rest middle
    rw [hrest] at hgrows
    exact List.forall_mem_cons.2 ⟨(Action.isSaved_of_save hsave).mono hgrows, ih hrest⟩

/-- Files can be written where there are files, and nothing changes elsewhere. -/
lemma write_again (h : ∀ file ∈ files, IsSaved tree (placeOf output file)) :
    ∃ targets result, write output files tree = (.ok targets, result) ∧
      ∀ path ∉ pathsOf output files, result.node? path = tree.node? path := by
  induction files generalizing tree with
  | nil => exact ⟨[], tree, rfl, fun _ _ => rfl⟩
  | cons file rest ih =>
    obtain ⟨hfile, hrest⟩ := List.forall_mem_cons.1 h
    have hsave := Action.save_of_isSaved hfile file.content
    have hgrows := Action.grows_save (placeOf output file) file.content tree
    rw [hsave] at hgrows
    obtain ⟨later, result, hwrite, hkeep⟩ := ih fun other ho => (hrest other ho).mono hgrows
    refine ⟨_, result, write_cons_ok_iff.2 ⟨_, later, hsave, hwrite, rfl⟩, fun path hpath => ?_⟩
    obtain ⟨hne, hnot⟩ := not_or.1 (mt List.mem_cons.2 hpath)
    rw [hkeep path hnot, FileTree.node?_put_of_ne _ hne]

/-- Whatever the trees were before, the same files leave the same contents at their places. -/
lemma write_agree {tree' result' : FileTree} {targets' : List Location}
    (h : write output files tree = (.ok targets, result))
    (h' : write output files tree' = (.ok targets', result')) :
    ∀ path ∈ pathsOf output files, result.node? path = result'.node? path := by
  induction files generalizing tree tree' targets targets' with
  | nil => exact fun _ hp => absurd hp List.not_mem_nil
  | cons file rest ih =>
    obtain ⟨middle, later, hsave, hrest, -⟩ := write_cons_ok_iff.1 h
    obtain ⟨middle', later', hsave', hrest', -⟩ := write_cons_ok_iff.1 h'
    intro path hpath
    by_cases hagain : path ∈ pathsOf output rest
    · exact ih hrest hrest' path hagain
    · -- Nothing is written to this place after the first file.
      obtain rfl : path = (placeOf output file).path :=
        (List.mem_cons.1 hpath).resolve_right hagain
      rw [(write_ok hrest).2.1 _ hagain _ (Action.save_ok hsave).1,
        (write_ok hrest').2.1 _ hagain _ (Action.save_ok hsave').1]

/-! ## Deliveries -/

/-- The report as one of the files in the output directory. -/
def reportFile (config : Configuration) : SourceFile :=
  { name := Report.fileName, content := Report.text config }

lemma placeOf_reportFile (config : Configuration) (output : String) :
    placeOf output (reportFile config) = (Location.ofString output).join Report.fileName := by
  simp [placeOf, reportFile]

/-- The files that a delivery writes. -/
def deliveredFiles (withReport : Bool) (config : Configuration) (files : List SourceFile) :
    List SourceFile :=
  files ++ if withReport then [reportFile config] else []

lemma mem_deliveredFiles {withReport : Bool} {config : Configuration} {file : SourceFile} :
    file ∈ deliveredFiles withReport config files ↔
      file ∈ files ∨ withReport ∧ file = reportFile config := by
  cases withReport <;> simp [deliveredFiles]

lemma save_report_ok_iff (config : Configuration) (output : String) (tree result : FileTree) :
    (∃ target, Report.save config output tree = (.ok target, result)) ↔
      ∃ targets, write output [reportFile config] tree = (.ok targets, result) := by
  have hcontent : (reportFile config).content = Report.text config := rfl
  simp only [Report.save, Action.bind_apply, write_cons_ok_iff, placeOf_reportFile,
    hcontent]
  rcases Action.save ((Location.ofString output).join Report.fileName) (Report.text config)
    tree with ⟨_ | _, last⟩
  · simp
  · simp [write, Action.pure_apply]

/-- A delivery succeeds if its files can be written, the report among them. -/
lemma deliver_ok_iff {withReport : Bool} {config : Configuration} {written : Nat} :
    deliver withReport config files tree = (.ok written, result) ↔
      written = files.length ∧ ∃ targets,
        write config.outputPath (deliveredFiles withReport config files) tree =
          (.ok targets, result) := by
  rw [deliver, Action.bind_apply]
  rcases hfiles : write config.outputPath files tree with ⟨_ | first, middle⟩
  · cases withReport <;> simp [deliveredFiles, write_append_ok_iff, hfiles]
  · have hlength : first.length = files.length := (write_ok hfiles).1
    cases withReport with
    | false => simp [deliveredFiles, hfiles, Action.pure_apply, hlength, eq_comm]
    | true =>
      have hreport := save_report_ok_iff config config.outputPath middle result
      simp only [if_true, Action.bind_apply, deliveredFiles, write_append_ok_iff, hfiles]
      rcases hsave : Report.save config config.outputPath middle with ⟨_ | target, last⟩
      · simpa [hsave] using fun _ => hreport
      · simpa [hsave, Action.pure_apply, hlength, eq_comm] using fun _ => hreport

/-- What has been delivered can be delivered once more, and everything stays as it is. -/
theorem deliver_again {withReport : Bool} {config : Configuration} {written : Nat}
    (h : deliver withReport config files tree = (.ok written, result)) :
    ∃ last, deliver withReport config files result = (.ok written, last) ∧
      ∀ path, last.node? path = result.node? path := by
  obtain ⟨hlength, targets, hwrite⟩ := deliver_ok_iff.1 h
  obtain ⟨targets', last, hwrite', hkeep⟩ := write_again (isSaved_of_write hwrite)
  refine ⟨last, deliver_ok_iff.2 ⟨hlength, targets', hwrite'⟩, fun path => ?_⟩
  by_cases hpath : path ∈ pathsOf config.outputPath (deliveredFiles withReport config files)
  · exact write_agree hwrite' hwrite path hpath
  · exact hkeep path hpath

end RestConnector.Run
