import Mathlib.Data.List.Nodup
import RestConnector.Proofs.Survey.Requests

/-!
# Completing a list of endpoints

`Survey.complete` adds to a list of endpoints the siblings that go by convention with those that list
something, and keeps the first endpoint of every key.  Keys are all that counts here: two endpoints of one
key are listing endpoints of one path or neither is (`isListing_eq_of_key_eq`), so that what is dropped for
its key is not missed.

The siblings of a listing endpoint list nothing themselves.  One expansion is therefore enough: in a
completed list every listing endpoint has its siblings (`isComplete_complete`), a list in which they all
are is its own completion, and a completion that is put in place of the list it came from is found again
(`complete_complete_append`).
-/

namespace RestConnector.Endpoint

/-- The keys of endpoints, in order. -/
def keys (endpoints : List Endpoint) : List (String × String) :=
  endpoints.map key

@[simp] lemma keys_nil : keys [] = [] := rfl

@[simp] lemma keys_cons (endpoint : Endpoint) (rest : List Endpoint) :
    keys (endpoint :: rest) = endpoint.key :: keys rest := rfl

@[simp] lemma keys_append (endpoints others : List Endpoint) :
    keys (endpoints ++ others) = keys endpoints ++ keys others :=
  List.map_append

lemma key_mem_keys {endpoint : Endpoint} {endpoints : List Endpoint} (h : endpoint ∈ endpoints) :
    endpoint.key ∈ keys endpoints :=
  List.mem_map_of_mem h

/-! ## The first of every key -/

lemma mem_keys_keepNew {seen : List (String × String)} {endpoints : List Endpoint}
    {k : String × String} : k ∈ keys (keepNew seen endpoints) ↔ k ∉ seen ∧ k ∈ keys endpoints := by
  induction endpoints generalizing seen with
  | nil => simp [keepNew]
  | cons first rest ih =>
    rw [keepNew]
    split
    · next hseen =>
      have hne (hk : k ∉ seen) : k ≠ first.key := fun he => hk (he ▸ hseen)
      rw [ih, keys_cons, List.mem_cons]
      exact and_congr_right fun hk => (or_iff_right (hne hk)).symm
    · next hnew =>
      rw [keys_cons, keys_cons, List.mem_cons, List.mem_cons, ih, List.mem_cons, not_or]
      constructor
      · rintro (rfl | ⟨⟨-, hk⟩, hrest⟩)
        · exact ⟨hnew, .inl rfl⟩
        · exact ⟨hk, .inr hrest⟩
      · rintro ⟨hk, he | hrest⟩
        · exact .inl he
        · exact or_iff_not_imp_left.2 fun hne => ⟨⟨hne, hk⟩, hrest⟩

lemma nodup_keys_keepNew (seen : List (String × String)) (endpoints : List Endpoint) :
    (keys (keepNew seen endpoints)).Nodup := by
  induction endpoints generalizing seen with
  | nil => exact List.nodup_nil
  | cons first rest ih =>
    rw [keepNew]
    split
    · exact ih seen
    · refine List.nodup_cons.2 ⟨fun hm => ?_, ih _⟩
      exact (mem_keys_keepNew.1 hm).1 List.mem_cons_self

/-- Of what has been seen, only which keys there are matters. -/
lemma keepNew_congr {seen others : List (String × String)} (h : ∀ k, k ∈ seen ↔ k ∈ others)
    (endpoints : List Endpoint) : keepNew seen endpoints = keepNew others endpoints := by
  induction endpoints generalizing seen others with
  | nil => rfl
  | cons first rest ih =>
    have hcons : ∀ k, k ∈ first.key :: seen ↔ k ∈ first.key :: others := fun k => by
      rw [List.mem_cons, List.mem_cons, h]
    rw [keepNew, keepNew, ih h, ih hcons]
    exact if_congr (h _) rfl rfl

lemma keepNew_append (seen : List (String × String)) (endpoints others : List Endpoint) :
    keepNew seen (endpoints ++ others) =
      keepNew seen endpoints ++ keepNew (keys endpoints ++ seen) others := by
  induction endpoints generalizing seen with
  | nil => rfl
  | cons first rest ih =>
    rw [List.cons_append, keepNew, keepNew, ih, ih]
    split
    · next hseen =>
      congr 1
      apply keepNew_congr
      intro k
      rw [keys_cons, List.cons_append, List.mem_cons, List.mem_append]
      constructor
      · exact .inr
      · rintro (rfl | hk)
        · exact .inr hseen
        · exact hk
    · rw [List.cons_append]
      congr 2
      apply keepNew_congr
      intro k
      simp only [keys_cons, List.cons_append, List.mem_append, List.mem_cons]
      exact or_left_comm

lemma keepNew_eq_nil_iff {seen : List (String × String)} {endpoints : List Endpoint} :
    keepNew seen endpoints = [] ↔ ∀ endpoint ∈ endpoints, endpoint.key ∈ seen := by
  induction endpoints with
  | nil => simp [keepNew]
  | cons first rest ih =>
    rw [keepNew, List.forall_mem_cons]
    split
    · next hseen => rw [ih, and_iff_right hseen]
    · next hnew => simp [hnew]

/-- Endpoints of new and different keys are all kept. -/
lemma keepNew_eq_self {seen : List (String × String)} {endpoints : List Endpoint}
    (hnodup : (keys endpoints).Nodup) (hnew : ∀ k ∈ keys endpoints, k ∉ seen) :
    keepNew seen endpoints = endpoints := by
  induction endpoints generalizing seen with
  | nil => rfl
  | cons first rest ih =>
    obtain ⟨hfirst, hrest⟩ := List.nodup_cons.1 hnodup
    rw [keys_cons, List.forall_mem_cons] at hnew
    rw [keepNew, if_neg hnew.1, ih hrest]
    intro k hk
    rw [List.mem_cons, not_or]
    exact ⟨fun he => hfirst (he ▸ hk), hnew.2 k hk⟩

lemma mem_keys_distinct {endpoints : List Endpoint} {k : String × String} :
    k ∈ keys (distinct endpoints) ↔ k ∈ keys endpoints := by
  simp [distinct, mem_keys_keepNew]

lemma nodup_keys_distinct (endpoints : List Endpoint) : (keys (distinct endpoints)).Nodup :=
  nodup_keys_keepNew [] endpoints

lemma distinct_eq_self {endpoints : List Endpoint} (h : (keys endpoints).Nodup) :
    distinct endpoints = endpoints :=
  keepNew_eq_self h fun _ _ => List.not_mem_nil

lemma distinct_append (endpoints others : List Endpoint) :
    distinct (endpoints ++ others) = distinct endpoints ++ keepNew (keys endpoints) others := by
  rw [distinct, keepNew_append, List.append_nil, distinct]

/-! ## Siblings -/

/-- The path of one resource among those that are listed at a path. -/
def itemPath (path : String) : String :=
  Survey.withoutSlashes path ++ "/\x7bid\x7d"

/-- The keys of the endpoints that go with one that lists the resource at a path. -/
def siblingKeys (path : String) : List (String × String) :=
  ("POST", path) :: ["GET", "PUT", "PATCH", "DELETE"].map fun method => (method, itemPath path)

lemma keys_siblings (path : String) : keys (siblings path) = siblingKeys path := by
  have hupper : ∀ method ∈ supportedMethods, Text.upper method = method := by decide
  simp only [supportedMethods, List.mem_cons, List.not_mem_nil, or_false, forall_eq_or_imp,
    forall_eq] at hupper
  obtain ⟨hget, hpost, hput, hpatch, hdelete⟩ := hupper
  simp [keys, key, siblings, siblingKeys, itemPath, Survey.withoutSlashes, hget, hpost, hput, hpatch,
    hdelete]

/-- Whether an endpoint lists something can be told from its key. -/
lemma isListing_eq_of_key_eq {endpoint other : Endpoint} (h : endpoint.key = other.key) :
    endpoint.isListing = other.isListing ∧ endpoint.path = other.path := by
  obtain ⟨hmethod, hpath⟩ := Prod.mk.inj h
  exact ⟨by rw [isListing, isListing, hmethod, hpath], hpath⟩

lemma isListing_iff {endpoint : Endpoint} :
    endpoint.isListing ↔ Text.upper endpoint.method = "GET" ∧ '\x7b' ∉ endpoint.path.toList ∧
      ':' ∉ endpoint.path.toList := by
  simp [isListing, Path.hasParameters]

/-- The keys of all siblings that endpoints call for. -/
def impliedKeys (endpoints : List Endpoint) : List (String × String) :=
  (endpoints.filter isListing).flatMap fun endpoint => siblingKeys endpoint.path

lemma mem_impliedKeys {endpoints : List Endpoint} {k : String × String} :
    k ∈ impliedKeys endpoints ↔
      ∃ endpoint ∈ endpoints, endpoint.isListing ∧ k ∈ siblingKeys endpoint.path := by
  simp [impliedKeys, List.mem_flatMap, and_assoc]

lemma keys_flatMap_siblings (endpoints : List Endpoint) :
    keys ((endpoints.filter isListing).flatMap fun endpoint => siblings endpoint.path) =
      impliedKeys endpoints := by
  simp only [keys, impliedKeys, List.map_flatMap]
  exact congrArg (List.flatMap · _) (funext fun endpoint => keys_siblings endpoint.path)

lemma mem_keys_expansion {endpoints : List Endpoint} {k : String × String} :
    k ∈ keys (expansion endpoints) ↔ k ∉ keys endpoints ∧ k ∈ impliedKeys endpoints := by
  rw [expansion, mem_keys_keepNew, keys_flatMap_siblings, keys]

/-- Whether the siblings of all listing endpoints are there. -/
def IsComplete (endpoints : List Endpoint) : Prop :=
  ∀ k ∈ impliedKeys endpoints, k ∈ keys endpoints

lemma expansion_eq_nil_iff {endpoints : List Endpoint} :
    expansion endpoints = [] ↔ IsComplete endpoints := by
  rw [expansion, keepNew_eq_nil_iff, IsComplete, ← keys_flatMap_siblings, keys]
  exact List.forall_mem_map.symm

/-- Endpoints of the same keys call for the same siblings. -/
lemma impliedKeys_subset {endpoints others : List Endpoint}
    (h : ∀ k ∈ keys endpoints, k ∈ keys others) :
    ∀ k ∈ impliedKeys endpoints, k ∈ impliedKeys others := by
  intro k hk
  obtain ⟨endpoint, hmem, hlisting, hsibling⟩ := mem_impliedKeys.1 hk
  obtain ⟨other, hother, hkey⟩ := List.mem_map.1 (h _ (key_mem_keys hmem))
  obtain ⟨hlists, hpath⟩ := isListing_eq_of_key_eq hkey
  refine mem_impliedKeys.2 ⟨other, hother, ?_, ?_⟩
  · rwa [hlists]
  · rwa [hpath]

/-! ## Completion -/

open Survey

/-- Nothing that an expansion adds is there before, so only the given endpoints are looked through. -/
lemma complete_eq (endpoints : List Endpoint) :
    complete endpoints = distinct endpoints ++ expansion endpoints := by
  rw [complete, distinct_append, keepNew_eq_self]
  · exact nodup_keys_keepNew _ _
  · exact fun k hk => (mem_keys_expansion.1 hk).1

lemma nodup_keys_complete (endpoints : List Endpoint) : (keys (complete endpoints)).Nodup :=
  nodup_keys_distinct _

lemma mem_keys_complete {endpoints : List Endpoint} {k : String × String} :
    k ∈ keys (complete endpoints) ↔ k ∈ keys endpoints ∨ k ∈ impliedKeys endpoints := by
  rw [complete_eq, keys_append, List.mem_append, mem_keys_distinct, mem_keys_expansion]
  tauto

/-- One expansion is enough: no endpoint that it adds calls for a sibling. -/
theorem isComplete_complete (endpoints : List Endpoint) : IsComplete (complete endpoints) := by
  intro k hk
  obtain ⟨endpoint, hmem, hlisting, hsibling⟩ := mem_impliedKeys.1 hk
  have hgiven : endpoint ∈ endpoints := mem_of_mem_complete hmem hlisting
  exact mem_keys_complete.2 (.inr (mem_impliedKeys.2 ⟨endpoint, hgiven, hlisting, hsibling⟩))

/-- The first endpoints of a completion are the given ones, each once. -/
lemma distinct_prefix_complete (endpoints others : List Endpoint) :
    distinct endpoints <+: complete (endpoints ++ others) := by
  rw [complete, List.append_assoc, distinct_append]
  exact List.prefix_append _ _

/-- A completion to which endpoints are added that were completed with it stays as it is. -/
theorem complete_complete_append {endpoints others : List Endpoint}
    (h : ∀ k ∈ keys others, k ∈ keys endpoints) :
    complete (complete endpoints ++ others) = complete endpoints := by
  have hothers : ∀ k ∈ keys others, k ∈ keys (complete endpoints) := fun k hk =>
    mem_keys_complete.2 (.inl (h k hk))
  have hkeys : ∀ k ∈ keys (complete endpoints ++ others), k ∈ keys (complete endpoints) := by
    rw [keys_append]
    exact List.forall_mem_append.2 ⟨fun _ hk => hk, hothers⟩
  have hexpansion : expansion (complete endpoints ++ others) = [] := by
    rw [expansion_eq_nil_iff]
    intro k hk
    rw [keys_append]
    exact List.mem_append_left _ (isComplete_complete endpoints k (impliedKeys_subset hkeys k hk))
  have hnone : keepNew (keys (complete endpoints)) others = [] :=
    keepNew_eq_nil_iff.2 fun endpoint he => hothers _ (key_mem_keys he)
  rw [complete_eq (complete endpoints ++ others), hexpansion, List.append_nil, distinct_append,
    hnone, List.append_nil, distinct_eq_self (nodup_keys_complete endpoints)]

end RestConnector.Endpoint
