import Mathlib.Data.List.Basic
import RestConnector.Disk.FileTree
import RestConnector.Proofs.Text.Separators

/-!
# What saving does to the file tree

Where a place leads is a matter of its names alone: if it can be resolved in some tree, the path is
`Location.path`, which looks at no tree (`resolve_ok`).

All that a later reader of the tree can see of its files is which content is at which path
(`FileTree.content?`).  Directories have no content, and they are made only where there is nothing, so making
them changes nothing here, and neither does an action that fails.  What remains is one path: saving a file
leaves the content at every other path as it was, whether it succeeds or not (`content?_save_of_ne`), and a
file that is saved is there afterwards, together with every file that was there before at another path
(`save_ok`).
-/

namespace RestConnector.Disk

open RestConnector.Text

/-! ## Where places lead -/

/-- The path that the names of a location lead to. -/
def Location.path (location : Location) : Path :=
  location.names.foldl step (if location.anchor.isEmpty then [] else ["/"])

lemma follow_ok {tree : FileTree} {here path : Path} {names : List String}
    (h : follow tree here names = .ok path) : path = names.foldl step here := by
  induction names generalizing here with
  | nil => exact (Except.ok.inj h).symm
  | cons name rest ih =>
    rw [follow] at h
    split at h
    · exact absurd h (by simp)
    · exact absurd h (by simp)
    · split at h
      · exact absurd h (by simp)
      · exact ih h

/-- A place that can be resolved leads where its names say. -/
theorem resolve_ok {tree : FileTree} {location : Location} {path : Path}
    (h : resolve tree location = .ok path) : path = location.path := by
  unfold resolve at h
  split at h
  · exact absurd h (by simp)
  · split at h
    · exact absurd h (by simp)
    · exact follow_ok h

/-- A name that leads from a directory to something in it. -/
structure IsName (name : String) : Prop where
  no_slash : '/' ∉ name.toList
  ne_empty : name ≠ ""
  ne_dot : name ≠ "."
  ne_parent : name ≠ ".."

lemma IsName.ofString_eq {name : String} (h : IsName name) :
    Location.ofString name = { anchor := "", names := [name] } := by
  have hne : name.toList ≠ [] := String.toList_eq_nil_iff.not.2 h.ne_empty
  have hdot : name.toList ≠ ['.'] := fun he => h.ne_dot (String.toList_inj.1 he)
  have hslashes : name.toList.takeWhile (· = '/') = [] := by
    cases hl : name.toList with
    | nil => rfl
    | cons c cs =>
      have hc : c ≠ '/' := by
        rintro rfl
        exact h.no_slash (by rw [hl]; exact List.mem_cons_self)
      simp [hc]
  simp [Location.ofString, hslashes, cutAt_of_notMem h.no_slash, hne, hdot]

/-- A name leads one step down. -/
lemma IsName.path_join {name : String} (h : IsName name) (location : Location) :
    (location.join name).path = location.path ++ [name] := by
  simp [Location.join, h.ofString_eq, Location.path, step, h.ne_parent]

/-! ## Trees before and after -/

namespace FileTree

lemma lookup_put_go (path p : Path) (node : Node) (entries : List (Path × Node)) :
    (put.go path node entries).lookup p = if p = path then some node else entries.lookup p := by
  induction entries with
  | nil => by_cases h : p = path <;> simp [put.go, h]
  | cons entry rest ih =>
    obtain ⟨q, n⟩ := entry
    rw [put.go]
    by_cases hq : q = path
    · subst hq
      by_cases h : p = q
      · simp [h]
      · simp [List.lookup_cons, h, beq_eq_false_iff_ne.2 h]
    · rw [if_neg hq, List.lookup_cons, List.lookup_cons, ih]
      by_cases h : p = path
      · subst h
        simp [beq_eq_false_iff_ne.2 (Ne.symm hq)]
      · simp [h]

lemma node?_put_of_ne {tree : FileTree} {path p : Path} (node : Node) (h : p ≠ path) :
    (tree.put path node).node? p = tree.node? p := by
  unfold node?
  split
  · rfl
  · rfl
  · rfl
  · rw [put, lookup_put_go, if_neg h]

/-- What is put where no directory is can be found there. -/
lemma node?_put_self {tree : FileTree} {path : Path} (node : Node)
    (h : tree.node? path ≠ some .directory) : (tree.put path node).node? path = some node := by
  unfold node? at h ⊢
  split at h
  · exact absurd rfl h
  · exact absurd rfl h
  · exact absurd rfl h
  · rw [put, lookup_put_go, if_pos rfl]

/-- The content of the file at a path, if there is a file. -/
def content? (tree : FileTree) (path : Path) : Option String :=
  match tree.node? path with
  | some (.file content) => some content
  | some .directory | none => none

lemma content?_eq_some_iff {tree : FileTree} {path : Path} {content : String} :
    tree.content? path = some content ↔ tree.node? path = some (.file content) := by
  unfold content?
  cases tree.node? path with
  | none => simp
  | some node => cases node <;> simp

lemma content?_congr {tree other : FileTree} {path : Path} (h : tree.node? path = other.node? path) :
    tree.content? path = other.content? path := by
  rw [content?, content?, h]

lemma content?_put_of_ne {tree : FileTree} {path p : Path} (node : Node) (h : p ≠ path) :
    (tree.put path node).content? p = tree.content? p :=
  content?_congr (node?_put_of_ne node h)

/-- A directory where nothing was has no content either. -/
lemma content?_put_directory {tree : FileTree} {path : Path} (h : tree.node? path = none) (p : Path) :
    (tree.put path .directory).content? p = tree.content? p := by
  by_cases hp : p = path
  · subst hp
    have hnew : (tree.put p .directory).node? p = some .directory :=
      node?_put_self .directory (by rw [h]; exact nofun)
    simp only [content?, h, hnew]
  · exact content?_put_of_ne .directory hp

end FileTree

/-- Whether the files of a tree are in another one, but for those at the paths that were written to. -/
def KeepsFiles (written : List Path) (tree result : FileTree) : Prop :=
  ∀ path ∉ written, ∀ content, tree.node? path = some (.file content) →
    result.node? path = some (.file content)

lemma KeepsFiles.refl (tree : FileTree) : KeepsFiles [] tree tree :=
  fun _ _ _ h => h

lemma KeepsFiles.trans {written others : List Path} {tree middle result : FileTree}
    (h : KeepsFiles written tree middle) (h' : KeepsFiles others middle result) :
    KeepsFiles (written ++ others) tree result := by
  intro path hpath content hfile
  rw [List.mem_append, not_or] at hpath
  exact h' path hpath.2 content (h path hpath.1 content hfile)

lemma KeepsFiles.of_content? {written : List Path} {tree result : FileTree}
    (h : ∀ path ∉ written, result.content? path = tree.content? path) :
    KeepsFiles written tree result := by
  intro path hpath content hfile
  rw [← FileTree.content?_eq_some_iff] at hfile ⊢
  exact (h path hpath).trans hfile

namespace Action

open FileTree

/-! ## Making directories -/

section Directories

variable (location : Location) (tree : FileTree) (path : Path)

lemma content?_makeDirectory : (makeDirectory location tree).2.content? path = tree.content? path := by
  unfold makeDirectory
  split
  · rfl
  · split
    · rfl
    · next hnone => exact content?_put_directory hnone path

lemma content?_ensureDirectory :
    (ensureDirectory location tree).2.content? path = tree.content? path := by
  have hmake := content?_makeDirectory location tree path
  unfold ensureDirectory
  split
  · next fault result hresult =>
    rw [hresult] at hmake
    split <;> exact hmake
  · exact hmake

lemma content?_ensureDirectories (levels : Nat) :
    (ensureDirectories levels location tree).2.content? path = tree.content? path := by
  induction levels generalizing location tree with
  | zero => exact content?_ensureDirectory location tree path
  | succ levels ih =>
    have hfirst := content?_ensureDirectory location tree path
    unfold ensureDirectories
    split
    · next fault result hresult =>
      rw [hresult] at hfirst
      split
      · -- The directories above are made first, and then this one once more.
        have habove := ih location.parent result
        rw [bind_apply]
        split
        · next made hmade =>
          rw [hmade] at habove
          rw [content?_ensureDirectory, habove, hfirst]
        · next hmade =>
          rw [hmade] at habove
          exact habove.trans hfirst
      · exact hfirst
    · exact hfirst

end Directories

/-! ## Saving -/

variable {location : Location} {content : String} {tree result : FileTree} {path : Path}

lemma node?_writeFile (h : writeFile location content tree = (.ok (), result)) :
    result.node? location.path = some (.file content) := by
  unfold writeFile at h
  split at h
  · exact absurd h (by simp [fail])
  · next hresolve =>
    obtain rfl := resolve_ok hresolve
    split at h
    · exact absurd h (by simp [fail])
    · next hnode =>
      obtain rfl := (Prod.mk.inj h).2
      exact node?_put_self _ fun hdirectory => hnode hdirectory

lemma content?_writeFile_of_ne (content : String) (h : path ≠ location.path) :
    (writeFile location content tree).2.content? path = tree.content? path := by
  unfold writeFile
  split
  · rfl
  · next target hresolve =>
    obtain rfl := resolve_ok hresolve
    split
    · rfl
    · exact content?_put_of_ne _ h

/-- Whatever comes of saving a file, every other one has the content that it had. -/
theorem content?_save_of_ne (content : String) (h : path ≠ location.path) :
    (save location content tree).2.content? path = tree.content? path := by
  have hmake :=
    content?_ensureDirectories location.parent tree path location.parent.names.length
  rw [save, bind_apply]
  split
  · next made hmade =>
    rw [hmade] at hmake
    rw [content?_writeFile_of_ne content h, hmake]
  · next hmade =>
    rw [hmade] at hmake
    exact hmake

/-- A file that is saved is there with its content, and the files at other paths are as they were. -/
theorem save_ok (h : save location content tree = (.ok (), result)) :
    result.node? location.path = some (.file content) ∧
      KeepsFiles [location.path] tree result := by
  refine ⟨?_, .of_content? fun path hpath => ?_⟩
  · rw [save, bind_apply] at h
    split at h
    · exact node?_writeFile h
    · cases h
  · have hkeep : (save location content tree).2.content? path = tree.content? path :=
      content?_save_of_ne content (by simpa using hpath)
    rwa [h] at hkeep

/-- A file that is saved has its content. -/
theorem content?_save_self (h : save location content tree = (.ok (), result)) :
    result.content? location.path = some content :=
  content?_eq_some_iff.2 (save_ok h).1

end Action

end RestConnector.Disk
