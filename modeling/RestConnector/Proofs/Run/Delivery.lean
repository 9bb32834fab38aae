import Mathlib.Data.List.Nodup
import RestConnector.Proofs.Disk.Saving
import RestConnector.Run

/-!
# Delivering files

`Run.write` saves the files of a connector one after the other, and `Run.deliver` tells how many there are.
A delivery that succeeds has written to the paths of its files and perhaps to that of the report
(`writtenPaths`), and no other file is changed (`deliver_ok`).  A later file replaces an earlier one at the
same path; so all of them are there in the end as long as their paths are different.
-/

namespace RestConnector.Run

open RestConnector.Disk

/-- The paths of files below an output directory, in order. -/
def pathsOf (output : String) (files : List SourceFile) : List Path :=
  files.map fun file => (placeOf output file).path

/-- Whether every one of some files is in a tree, with its content. -/
def HasFiles (output : String) (files : List SourceFile) (tree : FileTree) : Prop :=
  ∀ file ∈ files, tree.node? (placeOf output file).path = some (.file file.content)

/-- The directories and the name of a file, below the output directory. -/
def namesBelow (file : SourceFile) : List String :=
  (if file.directory = "" then [] else [file.directory]) ++ [file.name]

lemma path_placeOf (output : String) {file : SourceFile} (hname : IsName file.name)
    (hdirectory : file.directory = "" ∨ IsName file.directory) :
    (placeOf output file).path = (Location.ofString output).path ++ namesBelow file := by
  unfold placeOf namesBelow
  by_cases hd : file.directory = ""
  · simp [hd, hname.path_join]
  · have hdir := hdirectory.resolve_left hd
    simp [hd, hname.path_join, hdir.path_join]

/-- Files that have been written stay, unless something is written to their paths. -/
lemma HasFiles.mono {output : String} {files : List SourceFile} {written : List Path}
    {tree result : FileTree} (h : HasFiles output files tree) (hk : KeepsFiles written tree result)
    (hd : (pathsOf output files).Disjoint written) : HasFiles output files result := by
  intro file hf
  exact hk _ (hd (List.mem_map_of_mem hf)) _ (h file hf)

/-- What has been written, if nothing went wrong. -/
theorem write_ok {output : String} {files : List SourceFile} {tree result : FileTree}
    {targets : List Location} (h : write output files tree = (.ok targets, result)) :
    targets.length = files.length ∧ KeepsFiles (pathsOf output files) tree result ∧
      ((pathsOf output files).Nodup → HasFiles output files result) := by
  induction files generalizing tree targets with
  | nil =>
    obtain ⟨htargets, rfl⟩ := Prod.mk.inj h
    obtain rfl := Except.ok.inj htargets
    exact ⟨rfl, KeepsFiles.refl _, fun _ file hf => absurd hf List.not_mem_nil⟩
  | cons file rest ih =>
    rw [write, Action.bind_apply] at h
    split at h
    · next saved middle hsave =>
      obtain ⟨hfile, hkeep⟩ := Action.save_ok hsave
      rw [Action.bind_apply] at h
      split at h
      · next others last hrest =>
        obtain ⟨hothers, rfl⟩ := Prod.mk.inj h
        obtain rfl := Except.ok.inj hothers
        obtain ⟨hlength, hkeep', hfiles⟩ := ih hrest
        refine ⟨by simp [hlength], hkeep.trans hkeep', fun hnodup => ?_⟩
        obtain ⟨hnew, hnodup'⟩ := List.nodup_cons.1 hnodup
        refine List.forall_mem_cons.2 ⟨?_, hfiles hnodup'⟩
        exact hkeep' _ hnew _ hfile
      · exact absurd h (by simp)
    · exact absurd h (by simp)

/-! ## With the report -/

/-- The path of the report below an output directory. -/
def reportPath (output : String) : Path :=
  ((Location.ofString output).join Report.fileName).path

lemma save_report_ok {config : Configuration} {output : String} {tree result : FileTree}
    {target : Location} (h : Report.save config output tree = (.ok target, result)) :
    KeepsFiles [reportPath output] tree result := by
  rw [Report.save, Action.bind_apply] at h
  split at h
  · next saved last hsave =>
    obtain rfl := (Prod.mk.inj h).2
    exact (Action.save_ok hsave).2
  · exact absurd h (by simp)

/-- The paths that a delivery writes to, in order. -/
def writtenPaths (withReport : Bool) (output : String) (files : List SourceFile) : List Path :=
  pathsOf output files ++ if withReport then [reportPath output] else []

/-- What a delivery has done, if nothing went wrong. -/
theorem deliver_ok {withReport : Bool} {config : Configuration} {files : List SourceFile}
    {tree result : FileTree} {written : Nat}
    (h : deliver withReport config files tree = (.ok written, result)) :
    written = files.length ∧
      KeepsFiles (writtenPaths withReport config.outputPath files) tree result ∧
      ((writtenPaths withReport config.outputPath files).Nodup →
        HasFiles config.outputPath files result) := by
  rw [deliver, Action.bind_apply] at h
  split at h
  · next targets middle hwrite =>
    obtain ⟨hlength, hkeep, hfiles⟩ := write_ok hwrite
    cases withReport with
    | false =>
      obtain ⟨hwritten, rfl⟩ := Prod.mk.inj h
      obtain rfl := Except.ok.inj hwritten
      rw [writtenPaths, if_neg Bool.false_ne_true, List.append_nil]
      exact ⟨hlength, hkeep, hfiles⟩
    | true =>
      simp only [if_true, Action.bind_apply] at h
      split at h
      · next saved last hsave =>
        obtain ⟨hwritten, rfl⟩ := Prod.mk.inj h
        obtain rfl := Except.ok.inj hwritten
        have hkeep' := save_report_ok hsave
        refine ⟨hlength, hkeep.trans hkeep', fun hnodup => ?_⟩
        obtain ⟨hpaths, -, hdisjoint⟩ := List.nodup_append'.1 hnodup
        exact (hfiles hpaths).mono hkeep' hdisjoint
      · exact absurd h (by simp)
  · exact absurd h (by simp)

end RestConnector.Run
