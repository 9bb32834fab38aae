import RestConnector.Endpoint
import RestConnector.Proofs.Name.Wordy
import RestConnector.Proofs.Operation.Resource
import RestConnector.Proofs.Path.Parameter

/-!
# What an operation is written with

The name of a planned operation, the names and types of its parameters and the record type that it refers to
are words with underscores between them, whatever the path and the description of its endpoint
(`isWritable_of_mem_planAll`).  Two things are taken for granted: that the method is one of the supported
ones, for another would be part of the name as it stands, and that the record types of the schemas are
words, as those of inferred schemas are.
-/

namespace RestConnector.Operation

open RestConnector.Name RestConnector.Path RestConnector.Schema RestConnector.Text

/-- What can be relied on when an operation is written down. -/
structure IsWritable (operation : Operation) : Prop where
  method : operation.method ∈ Endpoint.supportedMethods
  name : IsWordy operation.name
  parameters : ∀ parameter ∈ operation.parameters, IsWordy parameter.1 ∧ IsWordy parameter.2
  named : ∀ parameter ∈ operation.parameters, parameter.1 ≠ ""
  returnType : IsInline operation.returnType
  model : ∀ model, operation.model = some model → IsWordy model.recordName

/-! ## Plans -/

lemma upper_of_supported : ∀ method ∈ Endpoint.supportedMethods, upper method = method := by decide

lemma isWordy_baseName {method : String} (h : method ∈ Endpoint.supportedMethods)
    (resource : String) (hasPlaceholder : Bool) :
    IsWordy (baseName method resource hasPlaceholder) := by
  have hsnake := isWordy_snakeCase
  have hverbs : ∀ method ∈ Endpoint.supportedMethods, method ≠ "GET" →
      IsWordy ((verbs.lookup method).getD (lower method)) := by decide
  unfold baseName
  dsimp only
  rw [upper_of_supported method h]
  split
  · split
    · exact isWordy_append.2 ⟨by decide, hsnake _⟩
    · exact isWordy_append.2 ⟨by decide, hsnake _⟩
  · next hget =>
    exact isWordy_append.2 ⟨isWordy_append.2 ⟨hverbs method h hget, by decide⟩, hsnake _⟩

lemma isWordy_parameterName (placeholder : String) : IsWordy (parameterName placeholder) := by
  intro c hc
  exact isWordChar_of_mem_parameterName hc

lemma isWordy_parameterType (placeholder : String) : IsWordy (parameterType placeholder) := by
  unfold parameterType
  dsimp only
  split
  · decide
  · split <;> decide

lemma isWordy_bodyName : IsWordy bodyName := by
  decide

/-- The type of a record, or the type of anything. -/
lemma isWordy_recordType {model : Option Model}
    (h : ∀ found, model = some found → IsWordy found.recordName) :
    IsWordy ((model.map Model.recordName).getD "Any") := by
  cases model with
  | none => decide
  | some found => exact h found rfl

lemma isInline_resultType {model : Option Model}
    (h : ∀ found, model = some found → IsWordy found.recordName) (method : String)
    (hasPlaceholder : Bool) : IsInline (resultType method hasPlaceholder model) := by
  have hitem := (isWordy_recordType h).isInline
  unfold resultType
  dsimp only
  split
  · decide
  · split
    · exact isInline_append.2 ⟨isInline_append.2 ⟨by decide, hitem⟩, by decide⟩
    · exact hitem

variable {schemas : List (String × Model)} {endpoint : Endpoint}

lemma method_plan (schemas : List (String × Model)) (endpoint : Endpoint) :
    (plan schemas endpoint).method = upper endpoint.method := by
  rw [plan]

lemma name_plan (schemas : List (String × Model)) (endpoint : Endpoint) :
    (plan schemas endpoint).name = baseName (upper endpoint.method) (resourceName endpoint.path)
      (!(placeholders endpoint.path).isEmpty) := by
  rw [plan]

/-- The parameters of a plan stand for placeholders, but for a last one that may take the body. -/
lemma mem_parameters_plan {parameter : String × String}
    (h : parameter ∈ (plan schemas endpoint).parameters) :
    (∃ placeholder, parameter.1 = parameterName placeholder ∧
        parameter.2 = parameterType placeholder) ∨
      parameter.1 = bodyName ∧
        parameter.2 = ((plan schemas endpoint).model.map Model.recordName).getD "Any" := by
  have hpath : (plan schemas endpoint).pathParameters = parametersOf endpoint.path := by rw [plan]
  have hbody : ∀ type, (plan schemas endpoint).bodyType = some type →
      type = ((plan schemas endpoint).model.map Model.recordName).getD "Any" := by
    intro type htype
    rw [plan] at htype ⊢
    dsimp only at htype ⊢
    split at htype
    · exact (Option.some.inj htype).symm
    · cases htype
  rw [parameters, hpath, List.mem_append, List.mem_map, List.mem_map] at h
  rcases h with ⟨named, hnamed, rfl⟩ | ⟨type, htype, rfl⟩
  · obtain ⟨placeholder, -, rfl⟩ := List.mem_map.1 hnamed
    -- By `rfl`, the name would be computed.
    exact .inl ⟨placeholder, by dsimp only, by dsimp only⟩
  · exact .inr ⟨rfl, hbody type (Option.mem_toList.1 htype)⟩

lemma parameters_plan_wordy
    (hmodel : ∀ model, (plan schemas endpoint).model = some model → IsWordy model.recordName)
    {parameter : String × String} (h : parameter ∈ (plan schemas endpoint).parameters) :
    IsWordy parameter.1 ∧ IsWordy parameter.2 ∧ parameter.1 ≠ "" := by
  rcases mem_parameters_plan h with ⟨placeholder, hname, htype⟩ | ⟨hname, htype⟩
  · rw [hname, htype]
    exact ⟨isWordy_parameterName placeholder, isWordy_parameterType placeholder,
      parameterName_ne_empty placeholder⟩
  · rw [hname, htype]
    exact ⟨isWordy_bodyName, isWordy_recordType hmodel, by decide⟩

lemma isWritable_plan (hmethod : upper endpoint.method ∈ Endpoint.supportedMethods)
    (hschemas : ∀ entry ∈ schemas, IsWordy entry.2.recordName) :
    IsWritable (plan schemas endpoint) := by
  have hmodel : ∀ model, (plan schemas endpoint).model = some model → IsWordy model.recordName := by
    intro model hm
    obtain ⟨entry, hentry, rfl⟩ := exists_schema_of_model_plan hm
    exact hschemas entry hentry
  constructor
  case method =>
    rw [method_plan]
    exact hmethod
  case name =>
    rw [name_plan]
    exact isWordy_baseName hmethod (resourceName endpoint.path) (!(placeholders endpoint.path).isEmpty)
  case parameters =>
    intro parameter hp
    obtain ⟨hname, htype, -⟩ := parameters_plan_wordy hmodel hp
    exact ⟨hname, htype⟩
  case named =>
    intro parameter hp
    exact (parameters_plan_wordy hmodel hp).2.2
  case returnType =>
    rw [resultType_plan]
    exact isInline_resultType hmodel (upper endpoint.method) (!(placeholders endpoint.path).isEmpty)
  case model => exact hmodel

lemma IsWritable.rename {operation : Operation} (h : IsWritable operation) {name : String}
    (hname : IsWordy name) : IsWritable { operation with name := name } :=
  ⟨h.method, hname, h.parameters, h.named, h.returnType, h.model⟩

/-- All operations of endpoints with supported methods can be written. -/
theorem isWritable_of_mem_planAll {endpoints : List Endpoint}
    (hmethods : ∀ endpoint ∈ endpoints, upper endpoint.method ∈ Endpoint.supportedMethods)
    (hschemas : ∀ entry ∈ schemas, IsWordy entry.2.recordName) :
    ∀ operation ∈ planAll endpoints schemas, IsWritable operation := by
  refine forall_numberFrom (P := IsWritable) (fun operation taken hw => ?_) (fun operation hm => ?_) []
  · exact hw.rename (isWordy_freshName hw.name taken)
  · obtain ⟨endpoint, he, rfl⟩ := List.mem_map.1 hm
    exact isWritable_plan (hmethods endpoint he) hschemas

/-! ## Descriptions -/

/-- An operation without what is said about it. -/
def undescribed (operation : Operation) : Operation :=
  { operation with description := "" }

lemma undescribed_numberFrom (taken : List String) (operations : List Operation) :
    (numberFrom taken operations).map undescribed = numberFrom taken (operations.map undescribed) := by
  induction operations generalizing taken with
  | nil => rfl
  | cons first rest ih =>
    simp only [numberFrom, List.map_cons, ih]
    rfl

lemma undescribed_plan (schemas : List (String × Model)) (endpoint : Endpoint) :
    undescribed (plan schemas endpoint) =
      undescribed (plan schemas { method := endpoint.method, path := endpoint.path }) := by
  simp only [plan, undescribed]

/-- Nothing but the description of an operation comes from that of its endpoint. -/
lemma undescribed_planAll {endpoints others : List Endpoint}
    (h : endpoints.map (fun endpoint => (endpoint.method, endpoint.path)) =
      others.map fun endpoint => (endpoint.method, endpoint.path)) :
    (planAll endpoints schemas).map undescribed = (planAll others schemas).map undescribed := by
  have hplans : ∀ list : List Endpoint, (list.map (plan schemas)).map undescribed =
      (list.map fun endpoint => (endpoint.method, endpoint.path)).map
        fun called => undescribed (plan schemas { method := called.1, path := called.2 }) := by
    intro list
    rw [List.map_map, List.map_map]
    exact List.map_congr_left fun endpoint _ => undescribed_plan schemas endpoint
  rw [planAll, planAll, undescribed_numberFrom, undescribed_numberFrom, hplans, hplans, h]

end RestConnector.Operation
