import RestConnector.Proofs.Disk.Saving

/-!
# Saving again

Nothing that is done to the file tree takes anything away: a directory stays a directory, and a file stays
a file (`Grows`).  So a place that could be resolved can be resolved ever after, and the directories that
were made for a file need not be made again.

A place to which a file has been saved is `IsSaved`, and stays so.  To save a file there again cannot fail,
and it changes the content of that one file only (`save_of_isSaved`).
-/

namespace RestConnector.Disk

/-! ## Growth of a tree -/

/-- Whether what there is in one tree is in another, but for the contents of files. -/
structure Grows (tree result : FileTree) : Prop where
  directory : ∀ path, tree.node? path = some .directory → result.node? path = some .directory
  file : ∀ path content, tree.node? path = some (.file content) →
    ∃ later, result.node? path = some (.file later)

lemma Grows.refl (tree : FileTree) : Grows tree tree :=
  ⟨fun _ h => h, fun _ content h => ⟨content, h⟩⟩

lemma Grows.trans {tree middle result : FileTree} (h : Grows tree middle) (h' : Grows middle result) :
    Grows tree result := by
  refine ⟨fun path hd => h'.directory path (h.directory path hd), fun path content hf => ?_⟩
  obtain ⟨later, hlater⟩ := h.file path content hf
  exact h'.file path later hlater

/-- A directory that is put where there is nothing. -/
lemma grows_put_directory {tree : FileTree} {path : Path} (h : tree.node? path = none) :
    Grows tree (tree.put path .directory) := by
  have hne {p : Path} {node : Node} (hp : tree.node? p = some node) : p ≠ path := by
    rintro rfl
    rw [h] at hp
    cases hp
  constructor
  · intro p hp
    rw [FileTree.node?_put_of_ne _ (hne hp), hp]
  · intro p content hp
    exact ⟨content, by rw [FileTree.node?_put_of_ne _ (hne hp), hp]⟩

/-- A file that is put where there is no directory. -/
lemma grows_put_file {tree : FileTree} {path : Path} (content : String)
    (h : tree.node? path ≠ some .directory) : Grows tree (tree.put path (.file content)) := by
  constructor
  · intro p hp
    have hne : p ≠ path := by
      rintro rfl
      exact h hp
    rw [FileTree.node?_put_of_ne _ hne, hp]
  · intro p earlier hp
    by_cases hpath : p = path
    · subst hpath
      exact ⟨content, FileTree.node?_put_self _ h⟩
    · exact ⟨earlier, by rw [FileTree.node?_put_of_ne _ hpath, hp]⟩

section Growth

variable {tree result : FileTree} {location : Location}

lemma Grows.follow_ok (h : Grows tree result) {here path : Path} {names : List String}
    (hfollow : follow tree here names = .ok path) : follow result here names = .ok path := by
  induction names generalizing here with
  | nil => exact hfollow
  | cons name rest ih =>
    rw [follow] at hfollow ⊢
    cases hnode : tree.node? here with
    | none => simp [hnode] at hfollow
    | some node =>
      cases node with
      | file content => simp [hnode] at hfollow
      | directory =>
        simp only [hnode] at hfollow
        simp only [h.directory here hnode]
        split at hfollow
        · cases hfollow
        · next hlength =>
          rw [if_neg hlength]
          exact ih hfollow

/-- What could be resolved can be resolved, to the same path. -/
lemma Grows.resolve_ok (h : Grows tree result) {path : Path}
    (hresolve : resolve tree location = .ok path) : resolve result location = .ok path := by
  unfold resolve at hresolve ⊢
  split at hresolve
  · cases hresolve
  · next hnull =>
    rw [if_neg hnull]
    split at hresolve
    · cases hresolve
    · next hlength =>
      rw [if_neg hlength]
      exact h.follow_ok hresolve

lemma isDirectory_iff :
    isDirectory tree location ↔
      ∃ path, resolve tree location = .ok path ∧ tree.node? path = some .directory := by
  unfold isDirectory
  cases resolve tree location <;> simp

lemma Grows.isDirectory (h : Grows tree result) (hd : isDirectory tree location) :
    isDirectory result location := by
  obtain ⟨path, hresolve, hnode⟩ := isDirectory_iff.1 hd
  exact isDirectory_iff.2 ⟨path, h.resolve_ok hresolve, h.directory path hnode⟩

end Growth

/-! ## Directories -/

namespace Action

/-- What an action on a place has done to a tree if it was to make a directory there. -/
structure Directs (location : Location) (action : Action Unit) (tree : FileTree) : Prop where
  grows : Grows tree (action tree).2
  there : (action tree).1 = .ok () → isDirectory (action tree).2 location

lemma directs_makeDirectory (location : Location) (tree : FileTree) :
    Directs location (makeDirectory location) tree := by
  unfold makeDirectory
  constructor
  · cases resolve tree location with
    | error kind => exact Grows.refl tree
    | ok path =>
      cases hnode : tree.node? path with
      | some node => simpa only [hnode, fail] using Grows.refl tree
      | none => simpa only [hnode] using grows_put_directory hnode
  · cases hresolve : resolve tree location with
    | error kind => simp [fail]
    | ok path =>
      cases hnode : tree.node? path with
      | some node => simp [fail, hnode]
      | none =>
        simp only [hnode, forall_const]
        refine isDirectory_iff.2 ⟨path, (grows_put_directory hnode).resolve_ok hresolve, ?_⟩
        exact FileTree.node?_put_self _ (by simp [hnode])

lemma directs_ensureDirectory (location : Location) (tree : FileTree) :
    Directs location (ensureDirectory location) tree := by
  obtain ⟨hgrows, hthere⟩ := directs_makeDirectory location tree
  unfold ensureDirectory
  rcases hmake : makeDirectory location tree with ⟨outcome, result⟩
  rw [hmake] at hgrows hthere
  cases outcome with
  | ok => exact ⟨by simpa only [hmake] using hgrows, by simpa only [hmake] using hthere⟩
  | error fault =>
    by_cases hfault : fault.kind ≠ .missing ∧ isDirectory result location
    · constructor
      · simpa only [hmake, if_pos hfault] using hgrows
      · simpa only [hmake, if_pos hfault] using fun _ => hfault.2
    · constructor
      · simpa only [hmake, if_neg hfault] using hgrows
      · simp [hmake, if_neg hfault]

lemma directs_ensureDirectories (levels : Nat) (location : Location) (tree : FileTree) :
    Directs location (ensureDirectories levels location) tree := by
  induction levels generalizing location tree with
  | zero => exact directs_ensureDirectory location tree
  | succ levels ih =>
    obtain ⟨hgrows, hthere⟩ := directs_ensureDirectory location tree
    unfold ensureDirectories
    rcases hfirst : ensureDirectory location tree with ⟨outcome, result⟩
    rw [hfirst] at hgrows hthere
    cases outcome with
    | ok => exact ⟨by simpa only [hfirst] using hgrows, by simpa only [hfirst] using hthere⟩
    | error fault =>
      by_cases hfault : fault.kind = .missing
      · -- The directory above is made first, and then this one once more.
        have hparent := (ih location.parent result).grows
        rcases habove : ensureDirectories levels location.parent result with ⟨outcome, middle⟩
        rw [habove] at hparent
        cases outcome with
        | error fault' =>
          constructor
          · simpa only [hfirst, if_pos hfault, bind_apply, habove] using hgrows.trans hparent
          · simp [hfirst, hfault, bind_apply, habove]
        | ok =>
          obtain ⟨hlast, hthere'⟩ := directs_ensureDirectory location middle
          constructor
          · simpa only [hfirst, if_pos hfault, bind_apply, habove] using
              (hgrows.trans hparent).trans hlast
          · simpa only [hfirst, if_pos hfault, bind_apply, habove] using hthere'
      · constructor
        · simpa only [hfirst, if_neg hfault] using hgrows
        · simp [hfirst, hfault]

/-- A directory that is there already need not be made. -/
lemma ensureDirectory_of_isDirectory {location : Location} {tree : FileTree}
    (h : isDirectory tree location) : ensureDirectory location tree = (.ok (), tree) := by
  obtain ⟨path, hresolve, hnode⟩ := isDirectory_iff.1 h
  simp [ensureDirectory, makeDirectory, hresolve, hnode, fail, h]

lemma ensureDirectories_of_isDirectory (levels : Nat) {location : Location} {tree : FileTree}
    (h : isDirectory tree location) : ensureDirectories levels location tree = (.ok (), tree) := by
  cases levels with
  | zero => exact ensureDirectory_of_isDirectory h
  | succ levels => simp only [ensureDirectories, ensureDirectory_of_isDirectory h]

end Action

/-! ## Files -/

/-- Whether there is a file at a place, in a directory. -/
structure IsSaved (tree : FileTree) (location : Location) : Prop where
  directory : isDirectory tree location.parent
  resolves : resolve tree location = .ok location.path
  file : ∃ content, tree.node? location.path = some (.file content)

lemma IsSaved.mono {tree result : FileTree} {location : Location} (h : IsSaved tree location)
    (hg : Grows tree result) : IsSaved result location := by
  obtain ⟨content, hfile⟩ := h.file
  exact ⟨hg.isDirectory h.directory, hg.resolve_ok h.resolves, hg.file _ content hfile⟩

namespace Action

lemma grows_writeFile (location : Location) (content : String) (tree : FileTree) :
    Grows tree (writeFile location content tree).2 := by
  unfold writeFile
  cases resolve tree location with
  | error kind => exact Grows.refl tree
  | ok path =>
    dsimp only
    split
    · exact Grows.refl tree
    · next hnode => exact grows_put_file content hnode

lemma grows_save (location : Location) (content : String) (tree : FileTree) :
    Grows tree (save location content tree).2 := by
  have hmake := (directs_ensureDirectories location.parent.names.length location.parent tree).grows
  rw [save, bind_apply]
  rcases hrun : ensureDirectories location.parent.names.length location.parent tree with
    ⟨outcome, made⟩
  rw [hrun] at hmake
  cases outcome with
  | error fault => exact hmake
  | ok => exact hmake.trans (grows_writeFile location content made)

/-- Where a file has been saved there is one. -/
lemma isSaved_of_save {location : Location} {content : String} {tree result : FileTree}
    (h : save location content tree = (.ok (), result)) : IsSaved result location := by
  have hfile := (save_ok h).1
  have hmake := (directs_ensureDirectories location.parent.names.length location.parent tree).there
  rw [save, bind_apply] at h
  rcases hrun : ensureDirectories location.parent.names.length location.parent tree with
    ⟨outcome, made⟩
  rw [hrun] at h hmake
  cases outcome with
  | error fault => cases h
  | ok =>
    have hwrite : writeFile location content made = (.ok (), result) := h
    have hgrows := grows_writeFile location content made
    rw [hwrite] at hgrows
    refine ⟨hgrows.isDirectory (hmake rfl), ?_, content, hfile⟩
    unfold writeFile at hwrite
    cases hresolve : resolve made location with
    | error kind => simp [hresolve, fail] at hwrite
    | ok path =>
      obtain rfl := resolve_ok hresolve
      exact hgrows.resolve_ok hresolve

/-- Saving where there is a file already replaces its content, and does nothing else. -/
theorem save_of_isSaved {location : Location} {tree : FileTree} (h : IsSaved tree location)
    (content : String) :
    save location content tree = (.ok (), tree.put location.path (.file content)) := by
  obtain ⟨earlier, hfile⟩ := h.file
  rw [save, bind_apply, ensureDirectories_of_isDirectory _ h.directory]
  simp only [writeFile, h.resolves, hfile]

end Action

end RestConnector.Disk
