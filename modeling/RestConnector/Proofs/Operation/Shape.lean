import RestConnector.Emit.Contract
import RestConnector.Proofs.Operation.Plan
import RestConnector.Proofs.Schema.Inference

/-!
# The shape of responses

A response is an array or a single object, and inference records which: the model of an array is a
collection.  A planned operation takes its shape from elsewhere.  Reading a path without placeholders
lists what is there, by convention, so such an operation returns a list and goes through the response item
by item whatever the schema of the path was inferred from.  It reads responses in the shape of the sampled
one exactly when that was an array (`readsInShape_iff_isArray`).

A status that is a single object is read as a list (`single_status_is_listed`).
-/

namespace RestConnector.Operation

open RestConnector.Emit RestConnector.Json RestConnector.Path RestConnector.Schema RestConnector.Text

/-- Whether a text is a JSON array. -/
def IsArray (content : String) : Prop :=
  (read? content).map Value.kind = some .array

instance (content : String) : Decidable (IsArray content) :=
  inferInstanceAs (Decidable (_ = _))

/-- Whether an operation returns a list exactly if a response is an array. -/
def ReadsInShape (operation : Operation) (content : String) : Prop :=
  operation.returnsList ↔ IsArray content

/-! ## What inference records -/

/-- A model is a collection exactly if the response that it was inferred from is an array. -/
lemma isCollection_iff_isArray {content path : String} {model : Model}
    (h : infer? content path = some model) : model.isCollection ↔ IsArray content := by
  rcases infer?_eq_some h with ⟨members, hread, rfl⟩ | ⟨members, rest, hread, rfl⟩
  · have hsingle : (modelOf (modelName path) members).isCollection = false := by
      rw [modelOf, withProperties]
    have hobject : ¬ IsArray content := by
      simp [IsArray, hread, Value.kind]
    rw [hsingle]
    exact iff_of_false Bool.false_ne_true hobject
  · have harray : IsArray content := by
      simp [IsArray, hread, Value.kind]
    exact iff_of_true rfl harray

/-! ## What is planned -/

lemma startsWith_listOf (typeText : String) : startsWith "List[" (listOf typeText) := by
  rw [startsWith, listOf, String.toList_append, String.toList_append, List.append_assoc,
    List.isPrefixOf_iff_prefix]
  exact List.prefix_append _ _

/-- One endpoint is planned under the name of its own plan. -/
lemma planAll_singleton (endpoint : Endpoint) (schemas : List (String × Model)) :
    planAll [endpoint] schemas = [plan schemas endpoint] := by
  simp [planAll, numberFrom, Name.freshName]

lemma resultType_list (model : Option Model) :
    resultType "GET" false model = listOf ((model.map Model.recordName).getD "Any") := by
  have hget : upper "GET" = "GET" := by decide
  simp [resultType, hget]

/-- Reading a path without placeholders returns a list of what the schema describes. -/
lemma returnType_plan {endpoint : Endpoint} (hget : upper endpoint.method = "GET")
    (hpath : placeholders endpoint.path = []) (schemas : List (String × Model)) :
    (plan schemas endpoint).returnType =
      listOf (((plan schemas endpoint).model.map Model.recordName).getD "Any") := by
  rw [resultType_plan, hget, hpath]
  exact resultType_list _

lemma returnsList_plan {endpoint : Endpoint} (hget : upper endpoint.method = "GET")
    (hpath : placeholders endpoint.path = []) (schemas : List (String × Model)) :
    (plan schemas endpoint).returnsList := by
  rw [returnsList, returnType_plan hget hpath]
  exact startsWith_listOf _

/-- One operation is planned for reading a path without placeholders, and it returns a list. -/
lemma exists_planned_list {path : String} (hpath : placeholders path = [])
    (schemas : List (String × Model)) :
    ∃ operation, planAll [{ method := "GET", path }] schemas = [operation] ∧
      operation.returnsList := by
  have hget : upper "GET" = "GET" := by decide
  have hlist : (plan schemas { method := "GET", path }).returnsList := by
    apply returnsList_plan
    · exact hget
    · exact hpath
  exact ⟨_, planAll_singleton _ _, hlist⟩

/-- An operation that returns a list of records goes through the items of the response. -/
lemma returnLine_of_returnsList {operation : Operation} (h : operation.returnsList) {model : Model}
    (hm : operation.model = some model) :
    returnLine operation = "        return [" ++ model.recordName ++
      ".model_validate(item) for item in response.json()]" := by
  simp [returnLine, hm, h]

/-! ## Shapes -/

/-- The operation that reads a path without placeholders returns a list, item by item if it knows the
records, whatever its schema was inferred from; so it reads responses in the shape of the sampled one
exactly when that was an array. -/
theorem readsInShape_iff_isArray {content path : String} {model : Model}
    (hpath : placeholders path = []) (h : infer? content path = some model) :
    ∃ operation, planAll [{ method := "GET", path }] [(model.name, model)] = [operation] ∧
      operation.returnsList ∧
      (∀ found, operation.model = some found →
        returnLine operation = "        return [" ++ found.recordName ++
          ".model_validate(item) for item in response.json()]") ∧
      (model.isCollection ↔ IsArray content) ∧
      (ReadsInShape operation content ↔ IsArray content) := by
  obtain ⟨operation, hplan, hlist⟩ := exists_planned_list hpath [(model.name, model)]
  refine ⟨operation, hplan, hlist, ?_, ?_, ?_⟩
  · intro found hfound
    exact returnLine_of_returnsList hlist hfound
  · exact isCollection_iff_isArray h
  · exact ⟨fun hshape => hshape.1 hlist, fun harray => iff_of_true hlist harray⟩

theorem readsInShape_users :
    placeholders "/users" = [] ∧
      ∃ model operation, infer? "[\x7b\"id\": 1\x7d]" "/users" = some model ∧
        planAll [{ method := "GET", path := "/users" }] [(model.name, model)] = [operation] ∧
        ReadsInShape operation "[\x7b\"id\": 1\x7d]" := by
  have hpath : placeholders "/users" = [] := by decide +kernel
  have harray : IsArray "[\x7b\"id\": 1\x7d]" := by decide +kernel
  have hsome : (infer? "[\x7b\"id\": 1\x7d]" "/users").isSome := by decide +kernel
  obtain ⟨model, hmodel⟩ := Option.isSome_iff_exists.1 hsome
  obtain ⟨operation, hplan, -, -, -, hshape⟩ := readsInShape_iff_isArray hpath hmodel
  exact ⟨hpath, model, operation, hmodel, hplan, hshape.2 harray⟩

/-- The schema of a status is that of a single object; the operation that reads it returns a list. -/
theorem single_status_is_listed :
    placeholders "/status" = [] ∧
      ∃ model operation, infer? "\x7b\"up\": true\x7d" "/status" = some model ∧
        planAll [{ method := "GET", path := "/status" }] [(model.name, model)] = [operation] ∧
        operation.returnsList ∧ ¬ IsArray "\x7b\"up\": true\x7d" := by
  have hpath : placeholders "/status" = [] := by decide +kernel
  have hobject : ¬ IsArray "\x7b\"up\": true\x7d" := by decide +kernel
  have hsome : (infer? "\x7b\"up\": true\x7d" "/status").isSome := by decide +kernel
  obtain ⟨model, hmodel⟩ := Option.isSome_iff_exists.1 hsome
  obtain ⟨operation, hplan, hlist⟩ := exists_planned_list hpath [(model.name, model)]
  exact ⟨hpath, model, operation, hmodel, hplan, hlist, hobject⟩

end RestConnector.Operation
