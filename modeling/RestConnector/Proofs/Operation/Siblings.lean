import RestConnector.Proofs.Endpoint.Expansion
import RestConnector.Proofs.Name.Plural
import RestConnector.Proofs.Operation.Names
import RestConnector.Proofs.Path.Segments

/-!
# Operations on one resource

By convention five endpoints go with the one that lists a resource: one that creates an element at the same
path, and four that read, change and delete an element at the path behind it.  The path of an element has
the segments of the list and one placeholder more, so all six operations are on one resource and find the
same schema for it.  Their names differ before any of them is numbered (`siblings_share_resource`): most
begin with different words, and where `get_all_` and `get_` begin alike, the plural would have to be three
characters shorter than the singular.
-/

namespace RestConnector.Operation

open RestConnector.Endpoint RestConnector.Name RestConnector.Path RestConnector.Schema
open RestConnector.Text

/-! ## Paths of elements -/

section Paths

variable {path : String}

lemma toList_itemPath (path : String) :
    (itemPath path).toList = trimRight (· = '/') path.toList ++ '/' :: "\x7bid\x7d".toList := by
  rw [itemPath, Survey.withoutSlashes, String.toList_append, toList_onChars]
  rfl

lemma segments_itemPath (path : String) : segments (itemPath path) = segments path :=
  segments_append_placeholder (toList_itemPath path) (by decide)

/-- An element belongs to the resource that is listed. -/
lemma resourceName_itemPath (path : String) : resourceName (itemPath path) = resourceName path := by
  rw [resourceName, resourceName, resourceSegment, resourceSegment, segments_itemPath]

/-- The path of an element has one placeholder more than that of the list. -/
lemma placeholders_itemPath (h : ∀ c ∈ path.toList, c ≠ '\x7b' ∧ c ≠ ':') :
    placeholders (itemPath path) = ["id"] := by
  have hfront : ∀ c ∈ trimRight (· = '/') path.toList, c ≠ '\x7b' ∧ c ≠ ':' := fun c hc =>
    h c ((List.rdropWhile_prefix _ _).subset hc)
  rw [placeholders_append (toList_itemPath path) hfront]
  decide

lemma parametersOf_itemPath (h : ∀ c ∈ path.toList, c ≠ '\x7b' ∧ c ≠ ':') :
    parametersOf (itemPath path) = [{ name := "id", typeText := "int", placeholder := "id" }] := by
  rw [parametersOf, placeholders_itemPath h]
  decide +kernel

end Paths

/-! ## Names -/

/-- What the names of a list's siblings begin with, in the order of the siblings. -/
def siblingVerbs : List String :=
  ["create_", "get_", "update_", "update_partial_", "delete_"]

/-- The names of the operations on a resource: on all of it, and on one element each. -/
def siblingNames (resource : String) : List String :=
  ("get_all_" ++ snakeCase (pluralize resource)) ::
    siblingVerbs.map fun verb => verb ++ snakeCase (singularize resource)

/-- The plural of a resource is not so much shorter than its singular that it could stand behind a longer
verb. -/
lemma get_all_ne_get (resource : String) :
    "get_all_" ++ snakeCase (pluralize resource) ≠ "get_" ++ snakeCase (singularize resource) := by
  intro h
  have hlength := wordLength_singularize_le resource
  have hwords := congrArg wordLength h
  have hall : wordLength "get_all_" = 6 := by decide
  have hget : wordLength "get_" = 3 := by decide
  rw [wordLength_append, wordLength_append, wordLength_snakeCase, wordLength_snakeCase] at hwords
  omega

lemma nodup_siblingNames (resource : String) : (siblingNames resource).Nodup := by
  refine List.nodup_cons.2 ⟨fun hm => ?_, ?_⟩
  · obtain ⟨verb, hverb, heq⟩ := List.mem_map.1 hm
    by_cases hget : verb = "get_"
    · subst hget
      exact get_all_ne_get resource heq.symm
    · -- The other verbs begin with another letter.
      have hheads : ∀ verb ∈ siblingVerbs, verb ≠ "get_" →
          verb ≠ "" ∧ verb.toList.head? ≠ some 'g' := by decide
      obtain ⟨hne, hhead⟩ := hheads verb hverb hget
      have hchars := congrArg (List.head? ·.toList) heq
      rw [String.toList_append, String.toList_append,
        List.head?_append_of_ne_nil _ (String.toList_eq_nil_iff.not.2 hne)] at hchars
      exact hhead hchars
  · have hverbs : siblingVerbs.Nodup := by decide
    exact hverbs.map fun _ _ heq => (String.append_left_inj _).1 heq

/-! ## Plans -/

variable {schemas : List (String × Model)} {endpoint : Endpoint} {operations : List Operation}

/-- Operations whose names differ are not numbered. -/
lemma numberFrom_eq_self {taken : List String} (hnodup : (operations.map Operation.name).Nodup)
    (hnew : ∀ operation ∈ operations, operation.name ∉ taken) :
    numberFrom taken operations = operations := by
  induction operations generalizing taken with
  | nil => rfl
  | cons first rest ih =>
    obtain ⟨hfirst, hrest⟩ := List.nodup_cons.1 hnodup
    obtain ⟨hfree, hothers⟩ := List.forall_mem_cons.1 hnew
    have hname : freshName taken first.name = first.name := if_neg hfree
    have hfollow : ∀ operation ∈ rest, operation.name ∉ first.name :: taken := by
      intro operation hm
      rw [List.mem_cons, not_or]
      exact ⟨fun heq => hfirst (heq ▸ List.mem_map_of_mem hm), hothers operation hm⟩
    rw [numberFrom, hname, ih hrest hfollow]

/-- The model of an operation is a matter of its resource. -/
lemma model_plan_congr {other : Endpoint}
    (h : resourceName endpoint.path = resourceName other.path) :
    (plan schemas endpoint).model = (plan schemas other).model := by
  simp only [plan, h]

/-- An endpoint that lists a resource, and those that go with it by convention. -/
def withSiblings (listing : Endpoint) : List Endpoint :=
  listing :: expansion [listing]

lemma notMem_of_isListing {listing : Endpoint} (h : listing.isListing) :
    ∀ c ∈ listing.path.toList, c ≠ '\x7b' ∧ c ≠ ':' := by
  obtain ⟨-, hbrace, hcolon⟩ := isListing_iff.1 h
  exact fun c hc => ⟨fun heq => hbrace (heq ▸ hc), fun heq => hcolon (heq ▸ hc)⟩

/-- The path of an element is not one that can be listed. -/
lemma itemPath_ne {path : String} (h : ∀ c ∈ path.toList, c ≠ '\x7b' ∧ c ≠ ':') :
    itemPath path ≠ path := by
  intro heq
  have hbrace : '\x7b' ∈ (itemPath path).toList := by
    rw [toList_itemPath]
    simp
  rw [heq] at hbrace
  exact (h _ hbrace).1 rfl

/-- An endpoint that lists a resource is followed by five others. -/
lemma keys_withSiblings {listing : Endpoint} (h : listing.isListing) :
    keys (withSiblings listing) = ("GET", listing.path) :: siblingKeys listing.path := by
  have hkey : listing.key = ("GET", listing.path) := by rw [key, (isListing_iff.1 h).1]
  have hmethods : ((siblingKeys listing.path).map Prod.fst).Nodup := by
    simp [siblingKeys]
  have hnodup : (keys (siblings listing.path)).Nodup := by
    rw [keys_siblings]
    exact hmethods.of_map
  have hnew : ∀ k ∈ keys (siblings listing.path), k ∉ [listing.key] := by
    rw [keys_siblings, hkey]
    have hpath := itemPath_ne (notMem_of_isListing h)
    simp [siblingKeys, hpath]
  have hexpansion : expansion [listing] = siblings listing.path := by
    have hfilter : [listing].filter isListing = [listing] := by simp [h]
    rw [expansion, hfilter, List.flatMap_singleton]
    exact keepNew_eq_self hnodup hnew
  rw [withSiblings, keys_cons, hkey, hexpansion, keys_siblings]

lemma path_of_mem_withSiblings {listing : Endpoint} (h : listing.isListing)
    (hm : endpoint ∈ withSiblings listing) :
    endpoint.path = listing.path ∨ endpoint.path = itemPath listing.path := by
  have hkey : endpoint.key ∈ keys (withSiblings listing) := key_mem_keys hm
  rw [keys_withSiblings h] at hkey
  have hpath : endpoint.key.2 = endpoint.path := rfl
  rw [← hpath]
  simp only [siblingKeys, List.map_cons, List.map_nil, List.mem_cons, List.not_mem_nil,
    or_false] at hkey
  rcases hkey with h | h | h | h | h | h <;> simp [h]

/-- The name of an operation is a matter of the key of its endpoint. -/
lemma names_plan (schemas : List (String × Model)) (endpoints : List Endpoint) :
    endpoints.map (fun endpoint => (plan schemas endpoint).name) =
      (keys endpoints).map fun k => baseName k.1 (resourceName k.2) (!(placeholders k.2).isEmpty) := by
  rw [keys, List.map_map]
  refine List.map_congr_left fun endpoint _ => ?_
  rw [name_plan, Function.comp_apply, key]

lemma names_withSiblings {listing : Endpoint} (h : listing.isListing)
    (schemas : List (String × Model)) :
    (withSiblings listing).map (fun endpoint => (plan schemas endpoint).name) =
      siblingNames (resourceName listing.path) := by
  have hplain := notMem_of_isListing h
  have hpost := baseName_verb (show ("POST", "create") ∈ verbs by decide)
  have hput := baseName_verb (show ("PUT", "update") ∈ verbs by decide)
  have hpatch := baseName_verb (show ("PATCH", "update_partial") ∈ verbs by decide)
  have hdelete := baseName_verb (show ("DELETE", "delete") ∈ verbs by decide)
  rw [names_plan, keys_withSiblings h]
  simp only [siblingKeys, List.map_cons, List.map_nil, placeholders_eq_nil hplain,
    placeholders_itemPath hplain, resourceName_itemPath, List.isEmpty_nil, List.isEmpty_cons,
    Bool.not_true, Bool.not_false, baseName_get_all, baseName_get, hpost, hput, hpatch, hdelete]
  rfl

/-- The operations on a resource that go together by convention have one name for the resource and one
schema.  Those on an element take its number as their only path parameter, and those on the list take
none.  No two of the six have one name, so that none of them is numbered. -/
theorem siblings_share_resource {listing : Endpoint} (h : listing.isListing)
    (schemas : List (String × Model)) :
    keys (withSiblings listing) = ("GET", listing.path) :: siblingKeys listing.path ∧
      (∀ endpoint ∈ withSiblings listing,
        resourceName endpoint.path = resourceName listing.path ∧
          (plan schemas endpoint).model = (plan schemas listing).model ∧
          (endpoint.path = listing.path ∧ (plan schemas endpoint).pathParameters = [] ∨
            endpoint.path = itemPath listing.path ∧ (plan schemas endpoint).pathParameters =
              [{ name := "id", typeText := "int", placeholder := "id" }])) ∧
      ((withSiblings listing).map fun endpoint => (plan schemas endpoint).name).Nodup ∧
      planAll (withSiblings listing) schemas = (withSiblings listing).map (plan schemas) := by
  have hplain := notMem_of_isListing h
  have hnames : ((withSiblings listing).map fun endpoint => (plan schemas endpoint).name).Nodup := by
    rw [names_withSiblings h]
    exact nodup_siblingNames _
  refine ⟨keys_withSiblings h, fun endpoint hm => ?_, hnames, ?_⟩
  · have hparameters : (plan schemas endpoint).pathParameters = parametersOf endpoint.path := by
      rw [plan]
    have hpaths := path_of_mem_withSiblings h hm
    have hresource : resourceName endpoint.path = resourceName listing.path := by
      rcases hpaths with hpath | hpath
      · rw [hpath]
      · rw [hpath, resourceName_itemPath]
    refine ⟨hresource, model_plan_congr hresource, ?_⟩
    rw [hparameters]
    rcases hpaths with hpath | hpath
    · refine .inl ⟨hpath, ?_⟩
      rw [hpath, parametersOf, placeholders_eq_nil hplain, List.map_nil]
    · refine .inr ⟨hpath, ?_⟩
      rw [hpath]
      exact parametersOf_itemPath hplain
  · refine numberFrom_eq_self ?_ fun _ _ => List.not_mem_nil
    rw [List.map_map]
    exact hnames

theorem paged_user_siblings_share_resource :
    let listing : Endpoint := { method := "get", path := "/v1/users/?page=1/" }
    listing.isListing ∧
      keys (withSiblings listing) = ("GET", "/v1/users/?page=1/") ::
        ("POST", "/v1/users/?page=1/") :: ["GET", "PUT", "PATCH", "DELETE"].map
          (fun method => (method, "/v1/users/?page=1/\x7bid\x7d")) ∧
      resourceName "/v1/users/?page=1/\x7bid\x7d" = "Users" ∧
      ((withSiblings listing).map fun endpoint => (plan [] endpoint).name).Nodup := by
  intro listing
  have hlisting : listing.isListing := by decide +kernel
  obtain ⟨hkeys, -, hnodup, -⟩ := siblings_share_resource hlisting []
  have hitem : itemPath "/v1/users/?page=1/" = "/v1/users/?page=1/\x7bid\x7d" := by decide
  refine ⟨hlisting, ?_, by decide +kernel, hnodup⟩
  rw [hkeys, siblingKeys, hitem]

end RestConnector.Operation
