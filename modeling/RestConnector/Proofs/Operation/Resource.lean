import RestConnector.Proofs.Name.Inflection
import RestConnector.Proofs.Operation.Plan
import RestConnector.Proofs.Schema.Inference

/-!
# Operations and the schemas of their paths

A path names a resource twice: the model that is inferred from its responses is named for it, and so is
the operation that reads it, which looks for a schema of this name.  Both take the name from the same
segment, and if the first word of the segment begins with a letter they agree: the schema that was
inferred from a path is found again by the operation on that path.  Otherwise each of them falls back on
a word of its own, and the schema is missed (`model_plan_eq_some_iff`).

A segment that begins with a number is enough for that (`schema_of_numbered_segment_is_missed`).
-/

namespace RestConnector.Operation

open RestConnector.Name RestConnector.Path RestConnector.Schema RestConnector.Text

/-! ## Names of one path -/

lemma segments_ne_nil_of_letter {path : String} (h : HasInitialLetter (resourceSegment path)) :
    segments path ≠ [] := by
  intro hnil
  obtain ⟨c, hc, -⟩ := h
  have hempty : resourceSegment path = "" := by rw [resourceSegment, hnil]; rfl
  rw [hempty] at hc
  cases hc

/-- A segment that begins with a letter gives the model and the operation one name. -/
lemma modelName_eq_resourceName {path : String} (h : HasInitialLetter (resourceSegment path)) :
    modelName path = resourceName path := by
  have hne : ¬ (segments path).isEmpty := by
    rw [List.isEmpty_iff]
    exact segments_ne_nil_of_letter h
  unfold modelName resourceName
  rw [if_neg hne, typeName_of_letter "Item" h, typeName_of_letter "Resource" h]

lemma typeName_modelName {path : String} (h : HasInitialLetter (resourceSegment path)) :
    typeName (modelName path) "Item" = resourceName path := by
  rw [modelName_eq_resourceName h, resourceName, typeName_typeName "Resource" "Item" h]

/-- Otherwise a model has one of two beginnings that no operation has. -/
lemma exists_modelName_eq_append {path : String} (h : ¬ HasInitialLetter (resourceSegment path)) :
    ∃ front ∈ ["ApiResponse", "Item"], ∃ rest, modelName path = front ++ rest ∧
      ∀ c, rest.toList.head? = some c → isDecimal c := by
  unfold modelName
  split
  · exact ⟨"ApiResponse", by simp, "", by simp, by simp⟩
  · exact ⟨"Item", by simp, exists_typeName_eq_append "Item" h⟩

/-! ## Looking for a schema -/

/-- What the name of a schema is compared with, in small letters. -/
def spellings (resource : String) : List String :=
  [lower resource, lower (singularize resource), lower (pluralize resource)]

/-- The only schema there is serves a resource if it has one of its spellings. -/
lemma find?_singleton {resource : String} (hr : resource ≠ "") (key : String) (model : Model) :
    find? resource [(key, model)] =
      if lower model.name ∈ spellings resource then some model else none := by
  have hfind : find? resource [(key, model)] =
      ([(key, model)].find? fun schema => lower schema.2.name ∈ spellings resource).map (·.2) := by
    rw [find?, if_neg (by simpa using hr)]
    rfl
  rw [hfind]
  by_cases hm : lower model.name ∈ spellings resource
  · rw [if_pos hm, List.find?_cons_of_pos (by simpa using hm)]
    rfl
  · rw [if_neg hm, List.find?_cons_of_neg (by simpa using hm)]
    rfl

/-! ## The schema of a path -/

/-- The names that the model of a response can have: that of its path, or the plural of it. -/
lemma name_of_infer? {content path : String} {model : Model} (h : infer? content path = some model) :
    model.name = typeName (modelName path) "Item" ∨ model.name = pluralize (modelName path) := by
  rcases infer?_eq_some h with ⟨members, -, rfl⟩ | ⟨members, rest, -, rfl⟩
  · exact .inl (name_modelOf _ _)
  · exact .inr rfl

lemma resourceName_ne_empty (path : String) : resourceName path ≠ "" :=
  typeName_ne_empty (by decide) (resourceSegment path)

/-- A model that is named for its path has a spelling of the resource. -/
lemma name_mem_spellings {content path : String} {model : Model}
    (h : infer? content path = some model) (hletter : HasInitialLetter (resourceSegment path)) :
    lower model.name ∈ spellings (resourceName path) := by
  rcases name_of_infer? h with hname | hname
  · rw [hname, typeName_modelName hletter]
    simp [spellings]
  · rw [hname, modelName_eq_resourceName hletter]
    simp [spellings]

/-- In small letters, the spellings of a resource that falls back begin with an r. -/
lemma head?_of_mem_spellings {path spelling : String}
    (h : ¬ HasInitialLetter (resourceSegment path))
    (hs : spelling ∈ spellings (resourceName path)) : spelling.toList.head? = some 'r' := by
  obtain ⟨rest, hname, hrest⟩ := exists_typeName_eq_append "Resource" h
  have hresource : (resourceName path).toList = "Resource".toList ++ rest.toList := by
    rw [resourceName, hname, String.toList_append]
  have hlast : ∀ d, "Resource".toList.getLast? = some d → IsLetter d := by
    rintro d ⟨⟩
    decide
  have hinflected (rule : List Char → List Char)
      (hrule : (mapLastWord rule "Resource".toList).head? = some 'R') :
      (onChars (mapLastWord rule) (resourceName path)).toList.head? = some 'R' := by
    rw [toList_onChars, hresource]
    exact head?_mapLastWord_append rule hrule rfl hlast hrest
  have hletter : IsLetter 'R' := by decide
  simp only [spellings, List.mem_cons, List.not_mem_nil, or_false] at hs
  rcases hs with rfl | rfl | rfl
  · refine head?_lower ?_ hletter
    rw [hresource]
    rfl
  · exact head?_lower (hinflected singularOf (by decide)) hletter
  · exact head?_lower (hinflected pluralOf (by decide)) hletter

/-- A model whose path falls back on a word begins as this word does. -/
lemma head?_name_of_append {content path front rest : String} {model : Model} {c : Char}
    (h : infer? content path = some model) (hname : modelName path = front ++ rest)
    (hrest : ∀ d, rest.toList.head? = some d → isDecimal d) (hc : front.toList.head? = some c)
    (hupper : c.isUpper) (hlast : ∀ d, front.toList.getLast? = some d → IsLetter d)
    (hplural : (mapLastWord pluralOf front.toList).head? = some c) :
    model.name.toList.head? = some c := by
  have hhead : (modelName path).toList.head? = some c := by
    rw [hname, String.toList_append, List.head?_append, hc]
    rfl
  rcases name_of_infer? h with hmodel | hmodel
  · have hinitial := initial?_of_head? hhead (isWordChar_iff.2 (.inl (.inl hupper)))
    have hcapital : c.toUpper = c := by
      apply toUpper_of_not_isLower
      have := isUpper_iff.1 hupper
      rw [isLower_iff]
      omega
    rw [hmodel, head?_typeName_of_letter "Item" hinitial (.inl hupper), hcapital]
  · rw [hmodel, pluralize, toList_onChars, hname, String.toList_append]
    exact head?_mapLastWord_append pluralOf hplural hc hlast hrest

/-- In small letters, a model whose path falls back on a word begins with an a or an i. -/
lemma head?_lower_name {content path : String} {model : Model} (h : infer? content path = some model)
    (hletter : ¬ HasInitialLetter (resourceSegment path)) :
    (lower model.name).toList.head? = some 'a' ∨ (lower model.name).toList.head? = some 'i' := by
  obtain ⟨front, hfront, rest, hname, hrest⟩ := exists_modelName_eq_append hletter
  simp only [List.mem_cons, List.not_mem_nil, or_false] at hfront
  rcases hfront with rfl | rfl
  · left
    have hlast : ∀ d, "ApiResponse".toList.getLast? = some d → IsLetter d := by
      rintro d ⟨⟩
      decide
    have hhead := head?_name_of_append (c := 'A') h hname hrest rfl (by decide) hlast (by decide)
    exact head?_lower hhead (by decide)
  · right
    have hlast : ∀ d, "Item".toList.getLast? = some d → IsLetter d := by
      rintro d ⟨⟩
      decide
    have hhead := head?_name_of_append (c := 'I') h hname hrest rfl (by decide) hlast (by decide)
    exact head?_lower hhead (by decide)

/-! ## Found and missed -/

/-- An operation looks for the schema of the resource that its path serves. -/
lemma model_plan (schemas : List (String × Model)) (endpoint : Endpoint) :
    (plan schemas endpoint).model = find? (resourceName endpoint.path) schemas := by
  rw [plan]

/-- The model of a plan is that of a schema. -/
lemma exists_schema_of_model_plan {schemas : List (String × Model)} {endpoint : Endpoint}
    {model : Model} (h : (plan schemas endpoint).model = some model) :
    ∃ entry ∈ schemas, entry.2 = model := by
  rw [model_plan] at h
  unfold find? at h
  split at h
  · cases h
  · obtain ⟨entry, hentry, rfl⟩ := Option.map_eq_some_iff.1 h
    exact ⟨entry, List.mem_of_find?_eq_some hentry, rfl⟩

lemma model_plan_singleton (endpoint : Endpoint) (model : Model) :
    (plan [(model.name, model)] endpoint).model =
      if lower model.name ∈ spellings (resourceName endpoint.path) then some model else none := by
  rw [model_plan, find?_singleton (resourceName_ne_empty endpoint.path)]

lemma model_plan_of_letter {endpoint : Endpoint} {content : String} {model : Model}
    (h : infer? content endpoint.path = some model)
    (hletter : HasInitialLetter (resourceSegment endpoint.path)) :
    (plan [(model.name, model)] endpoint).model = some model := by
  rw [model_plan_singleton, if_pos (name_mem_spellings h hletter)]

lemma model_plan_of_no_letter {endpoint : Endpoint} {content : String} {model : Model}
    (h : infer? content endpoint.path = some model)
    (hletter : ¬ HasInitialLetter (resourceSegment endpoint.path)) :
    (plan [(model.name, model)] endpoint).model = none := by
  have hmissed : lower model.name ∉ spellings (resourceName endpoint.path) := by
    intro hs
    have hr := head?_of_mem_spellings hletter hs
    rcases head?_lower_name h hletter with ha | hi
    · rw [hr] at ha
      exact absurd ha (by decide)
    · rw [hr] at hi
      exact absurd hi (by decide)
  rw [model_plan_singleton, if_neg hmissed]

/-- The operation on a path finds the schema that was inferred from a response of the path exactly when
the first word of the segment that names the resource begins with a letter. -/
theorem model_plan_eq_some_iff {endpoint : Endpoint} {content : String} {model : Model}
    (h : infer? content endpoint.path = some model) :
    (plan [(model.name, model)] endpoint).model = some model ↔
      HasInitialLetter (resourceSegment endpoint.path) := by
  constructor
  · intro hfound
    by_contra hletter
    rw [model_plan_of_no_letter h hletter] at hfound
    cases hfound
  · exact model_plan_of_letter h

/-- The schema that is inferred from a list of users serves the operation that reads it. -/
theorem model_plan_users :
    ∃ endpoint : Endpoint, endpoint.path = "/v2/users" ∧
      ∃ model, infer? "[\x7b\"id\": 1\x7d]" endpoint.path = some model ∧
        (plan [(model.name, model)] endpoint).model = some model := by
  have hsome : (infer? "[\x7b\"id\": 1\x7d]" "/v2/users").isSome := by decide +kernel
  have hletter : HasInitialLetter (resourceSegment "/v2/users") :=
    ⟨'u', by decide +kernel, by decide⟩
  let endpoint : Endpoint := { method := "GET", path := "/v2/users" }
  obtain ⟨model, h⟩ := Option.isSome_iff_exists.1 hsome
  have h' : infer? "[\x7b\"id\": 1\x7d]" endpoint.path = some model := h
  exact ⟨endpoint, rfl, model, h', (model_plan_eq_some_iff h').2 hletter⟩

/-- A segment that begins with a number gives the model the name `Item2fa`, and the operation on the path
looks for `Resource2fa`. -/
theorem schema_of_numbered_segment_is_missed :
    ∃ model, infer? "\x7b\"enabled\": true\x7d" "/2fa" = some model ∧
      (plan [(model.name, model)] { method := "GET", path := "/2fa" }).model = none := by
  have hsome : (infer? "\x7b\"enabled\": true\x7d" "/2fa").isSome := by decide +kernel
  have hdigit : initial? (resourceSegment "/2fa") = some '2' := by decide +kernel
  have hletter : ¬ HasInitialLetter (resourceSegment "/2fa") := by
    rintro ⟨c, hc, hl⟩
    rw [hdigit] at hc
    cases hc
    exact absurd hl (by decide)
  obtain ⟨model, h⟩ := Option.isSome_iff_exists.1 hsome
  exact ⟨model, h, model_plan_of_no_letter h hletter⟩

end RestConnector.Operation
