import RestConnector.Proofs.Disk.Saving
import RestConnector.Proofs.Name.Words

/-!
# Null characters in places

All faults but one are reported by the operating system and have a number there.  The one is a null
character: a place that is written with it is refused before any tree is looked at, and no other place is
refused for that reason (`resolve_eq_null_iff`).  To save a file in a directory whose place has such a
character fails before anything is done (`save_of_hasNull`); and where there is none in the whole place,
saving may fail for other reasons only (`kind_of_save`).
-/

namespace RestConnector.Disk

/-! ## Places -/

namespace Location

/-- Whether a place is written with a null character. -/
def HasNull (location : Location) : Prop :=
  '\x00' ∈ location.toString.toList

/-- A null character of a place is in its anchor or in one of its names. -/
lemma hasNull_iff {location : Location} :
    location.HasNull ↔
      '\x00' ∈ location.anchor.toList ∨ ∃ name ∈ location.names, '\x00' ∈ name.toList := by
  have hnames : '\x00' ∈ (String.intercalate "/" location.names).toList ↔
      ∃ name ∈ location.names, '\x00' ∈ name.toList := by
    rw [String.toList_intercalate]
    constructor
    · intro hmem
      rcases Name.mem_intercalate hmem with hslash | hname
      · exact absurd hslash (by decide)
      · simpa using hname
    · rintro ⟨name, hname, hnull⟩
      exact Name.mem_intercalate_of_mem_flatten
        (List.mem_flatten.2 ⟨name.toList, List.mem_map_of_mem hname, hnull⟩)
  rw [← hnames, ← List.mem_append, ← String.toList_append, HasNull, toString]
  split
  · next hempty =>
    rw [String.isEmpty_iff.1 hempty]
    decide
  · rfl

/-- A directory has no null character that the places in it do not have. -/
lemma HasNull.of_parent {location : Location} (h : location.parent.HasNull) : location.HasNull := by
  rw [hasNull_iff] at h ⊢
  exact h.imp id fun ⟨name, hname, hnull⟩ => ⟨name, List.dropLast_subset _ hname, hnull⟩

end Location

section Resolution

variable {tree : FileTree} {location : Location}

lemma kind_of_follow {here : Path} {names : List String} {kind : FaultKind}
    (h : follow tree here names = .error kind) : kind ≠ .nullCharacter := by
  induction names generalizing here with
  | nil => cases h
  | cons name rest ih =>
    rw [follow] at h
    split at h
    · cases h
      rintro ⟨⟩
    · cases h
      rintro ⟨⟩
    · split at h
      · cases h
        rintro ⟨⟩
      · exact ih h

/-- Null characters are found out first, and nowhere else. -/
theorem resolve_eq_null_iff :
    resolve tree location = .error .nullCharacter ↔ location.HasNull := by
  rw [Location.HasNull, ← List.contains_iff_mem, resolve]
  constructor
  · intro h
    split at h
    · assumption
    · split at h
      · cases h
      · exact absurd rfl (kind_of_follow h)
  · intro h
    rw [if_pos h]

end Resolution

/-! ## Saving -/

namespace Action

variable {location : Location} {tree : FileTree}

lemma ensureDirectory_of_hasNull (h : location.HasNull) :
    ensureDirectory location tree =
      (.error { kind := .nullCharacter, place := location.toString }, tree) := by
  have hresolve : resolve tree location = .error .nullCharacter := resolve_eq_null_iff.2 h
  have hnowhere : isDirectory tree location = false := by
    simp only [isDirectory, hresolve]
  simp [ensureDirectory, makeDirectory, hresolve, fail, hnowhere]

lemma ensureDirectories_of_hasNull (levels : Nat) (h : location.HasNull) :
    ensureDirectories levels location tree =
      (.error { kind := .nullCharacter, place := location.toString }, tree) := by
  cases levels with
  | zero => exact ensureDirectory_of_hasNull h
  | succ levels => simp [ensureDirectories, ensureDirectory_of_hasNull h]

/-- Nothing is done for a file in a directory that cannot be. -/
theorem save_of_hasNull (h : location.parent.HasNull) (content : String) :
    save location content tree =
      (.error { kind := .nullCharacter, place := location.parent.toString }, tree) := by
  rw [save, bind_apply, ensureDirectories_of_hasNull _ h]

variable {fault : Fault} {result : FileTree}

lemma kind_of_makeDirectory (hnull : ¬ location.HasNull)
    (h : makeDirectory location tree = (.error fault, result)) : fault.kind ≠ .nullCharacter := by
  unfold makeDirectory at h
  split at h
  · next kind hresolve =>
    obtain rfl := Except.error.inj (Prod.mk.inj h).1
    rintro rfl
    exact hnull (resolve_eq_null_iff.1 hresolve)
  · split at h
    · obtain rfl := Except.error.inj (Prod.mk.inj h).1
      exact nofun
    · cases h

lemma kind_of_ensureDirectory (hnull : ¬ location.HasNull)
    (h : ensureDirectory location tree = (.error fault, result)) : fault.kind ≠ .nullCharacter := by
  unfold ensureDirectory at h
  split at h
  · next fault' made hmake =>
    split at h
    · cases h
    · obtain rfl := Except.error.inj (Prod.mk.inj h).1
      exact kind_of_makeDirectory hnull hmake
  · exact kind_of_makeDirectory hnull h

lemma kind_of_ensureDirectories {levels : Nat} (hnull : ¬ location.HasNull)
    (h : ensureDirectories levels location tree = (.error fault, result)) :
    fault.kind ≠ .nullCharacter := by
  induction levels generalizing location tree fault result with
  | zero => exact kind_of_ensureDirectory hnull h
  | succ levels ih =>
    unfold ensureDirectories at h
    split at h
    · next fault' made hfirst =>
      split at h
      · rw [bind_apply] at h
        split at h
        · exact kind_of_ensureDirectory hnull h
        · next habove =>
          obtain rfl := Except.error.inj (Prod.mk.inj h).1
          exact ih (mt Location.HasNull.of_parent hnull) habove
      · obtain rfl := Except.error.inj (Prod.mk.inj h).1
        exact kind_of_ensureDirectory hnull hfirst
    · exact kind_of_ensureDirectory hnull h

lemma kind_of_writeFile {content : String} (hnull : ¬ location.HasNull)
    (h : writeFile location content tree = (.error fault, result)) : fault.kind ≠ .nullCharacter := by
  unfold writeFile at h
  split at h
  · next kind hresolve =>
    obtain rfl := Except.error.inj (Prod.mk.inj h).1
    rintro rfl
    exact hnull (resolve_eq_null_iff.1 hresolve)
  · split at h
    · obtain rfl := Except.error.inj (Prod.mk.inj h).1
      exact nofun
    · cases h

/-- A place without null characters is never refused for one. -/
theorem kind_of_save {content : String} (hnull : ¬ location.HasNull)
    (h : save location content tree = (.error fault, result)) : fault.kind ≠ .nullCharacter := by
  rw [save, bind_apply] at h
  split at h
  · exact kind_of_writeFile hnull h
  · next hmake =>
    obtain rfl := Except.error.inj (Prod.mk.inj h).1
    exact kind_of_ensureDirectories (mt Location.HasNull.of_parent hnull) hmake

end Action

end RestConnector.Disk
