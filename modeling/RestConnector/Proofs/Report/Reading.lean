import RestConnector.Proofs.Disk.Saving
import RestConnector.Proofs.Json.RoundTrip
import RestConnector.Report

/-!
# Reading the report

The report is a document in ASCII, and what is read from it is what was reported (`text_read_back`): the
endpoints in order, the schemas under their keys, and how many there are of both.

This asks two things of a configuration (`Configuration.IsReportable`).  Names are distinct where each of them
has one entry: those of the schemas, and those of the properties of each model, also of the models in it
(`Model.HasDistinctNames`).  And the statuses and counts have no more digits than one number may have in a
document; such a number could not be printed either.  Nothing is asked of the texts.
-/

namespace RestConnector

open RestConnector.Disk RestConnector.Json RestConnector.Text

/-! ## Models -/

namespace Schema

/-- A model that has one property under each name, as have all models that are nested in it. -/
inductive Model.HasDistinctNames : Model → Prop where
  | intro {model : Model} (distinct : (model.properties.map Prod.fst).Nodup)
    (nested : ∀ inner ∈ model.nestedModels, HasDistinctNames inner) : HasDistinctNames model

lemma propertiesToJson_eq_map (properties : List (String × Property)) :
    propertiesToJson properties = properties.map fun entry => (entry.1, entry.2.toJson) := by
  induction properties with
  | nil => rfl
  | cons entry rest ih => rw [propertiesToJson, ih, List.map_cons]

lemma isReadable_textOrNull (text : Option String) : (textOrNull text).IsReadable := by
  cases text with
  | none => exact .null
  | some text => exact .string text

lemma isReadable_toJson_property {property : Property}
    (h : ∀ inner, property.nested = some inner → inner.toJson.IsReadable) :
    property.toJson.IsReadable := by
  have hnested : (nestedToJson property.nested).IsReadable := by
    cases hinner : property.nested with
    | none => exact .null
    | some inner => exact h inner hinner
  cases property
  rw [Property.toJson]
  refine .object (by simp +decide) ?_
  simp only [List.forall_mem_cons]
  exact ⟨.string _, .string _, .string _, .string _, .bool _, .bool _, isReadable_textOrNull _,
    isReadable_textOrNull _, hnested, List.forall_mem_nil _⟩

/-- The description of a model can be read back if its properties have distinct names. -/
lemma Model.HasDistinctNames.isReadable_toJson {model : Model} (h : model.HasDistinctNames) :
    model.toJson.IsReadable := by
  induction h with
  | @intro model distinct _ ih =>
    have hproperties : (Value.object (propertiesToJson model.properties)).IsReadable := by
      rw [propertiesToJson_eq_map]
      refine .object ?_ (List.forall_mem_map.2 fun entry hentry => ?_)
      · rw [List.map_map]
        exact distinct
      · exact isReadable_toJson_property fun inner hinner =>
          ih inner (mem_nestedModels.2 ⟨entry, hentry, hinner⟩)
    cases model
    rw [Model.toJson]
    refine .object (by simp +decide) ?_
    simp only [List.forall_mem_cons]
    exact ⟨.string _, .string _, .bool _, isReadable_textOrNull _, isReadable_textOrNull _,
      hproperties, List.forall_mem_nil _⟩

end Schema

/-! ## Configurations -/

/-- A configuration that can be reported: each schema has a key of its own, each property of a model a name
of its own, and no status or count is too long for a number. -/
structure Configuration.IsReportable (config : Configuration) : Prop where
  endpointCount : IsShort config.endpoints.length
  schemaCount : IsShort config.schemas.length
  statusCodes : ∀ endpoint ∈ config.endpoints, ∀ status ∈ endpoint.statusCode, IsShort status
  keys : (config.schemas.map Prod.fst).Nodup
  names : ∀ entry ∈ config.schemas, entry.2.HasDistinctNames

lemma Endpoint.isReadable_toJson {endpoint : Endpoint}
    (h : ∀ status ∈ endpoint.statusCode, IsShort status) : endpoint.toJson.IsReadable := by
  have hdescription : ((endpoint.description.map Value.string).getD .null).IsReadable := by
    cases endpoint.description with
    | none => exact .null
    | some text => exact .string text
  have hstatus : ((endpoint.statusCode.map Value.integer).getD .null).IsReadable := by
    cases hcode : endpoint.statusCode with
    | none => exact .null
    | some status => exact .integer (h status hcode)
  refine .object (by simp +decide) ?_
  simp only [List.forall_mem_cons]
  exact ⟨.string _, .string _, hdescription, hstatus, List.forall_mem_nil _⟩

namespace Report

lemma isReadable_value {config : Configuration} (h : config.IsReportable) :
    (value config).IsReadable := by
  have hmetadata : (Value.object [
      ("api_name", .string config.apiName),
      ("base_url", .string config.baseUrl),
      ("endpoints", .integer config.endpoints.length),
      ("schemas", .integer config.schemas.length)]).IsReadable := by
    refine .object (by simp +decide) ?_
    simp only [List.forall_mem_cons]
    exact ⟨.string _, .string _, .integer h.endpointCount, .integer h.schemaCount,
      List.forall_mem_nil _⟩
  have hendpoints : (Value.array (config.endpoints.map Endpoint.toJson)).IsReadable :=
    .array (List.forall_mem_map.2 fun endpoint hendpoint =>
      Endpoint.isReadable_toJson (h.statusCodes endpoint hendpoint))
  have hschemas :
      (Value.object (config.schemas.map fun entry => (entry.1, entry.2.toJson))).IsReadable := by
    refine .object ?_ (List.forall_mem_map.2 fun entry hentry => ?_)
    · rw [List.map_map]
      exact h.keys
    · exact (h.names entry hentry).isReadable_toJson
  refine .object (by simp +decide) ?_
  simp only [List.forall_mem_cons]
  exact ⟨hmetadata, hendpoints, hschemas, List.forall_mem_nil _⟩

/-- A report that is saved is in the file of its name below the output directory. -/
lemma saved_of_save {config : Configuration} {output : String} {tree saved : FileTree} {target : Location}
    (h : save config output tree = (.ok target, saved)) :
    target = (Location.ofString output).join fileName ∧
      saved.content? ((Location.ofString output).path ++ [fileName]) = some (text config) := by
  have hname : IsName fileName := by constructor <;> decide
  rw [save, Action.bind_apply] at h
  split at h
  · next result hsave =>
    rw [Action.pure_apply] at h
    cases h
    have hcontent := Action.content?_save_self hsave
    rw [hname.path_join] at hcontent
    exact ⟨rfl, hcontent⟩
  · cases h

/-- An order has a customer, of which nothing is known. -/
def orderModel : Schema.Model where
  name := "Order"
  givenName := "order"
  properties := [("customer", {
    name := "customer", key := "customer", kind := .object, typeText := "Customer"
    nested := some { name := "Customer", givenName := "customer" } })]

/-- What is known about a shop, with a description on two lines and a name outside the basic plane. -/
def orderConfig : Configuration where
  baseUrl := "https://shop.example"
  apiName := "🛒"
  endpoints :=
    [{ method := "GET", path := "/orders", description := some "All \"orders\",\nof Zo\u00EB" },
      { method := "GET", path := "/health", statusCode := some 200 }]
  schemas := [("Order", orderModel), ("", { name := "", givenName := "" })]

lemma hasDistinctNames_orderModel : orderModel.HasDistinctNames := by
  refine .intro (by simp +decide) ?_
  simp only [orderModel, Schema.Model.nestedModels, Schema.Model.fields, List.map_cons, List.map_nil,
    List.filterMap_cons, List.filterMap_nil, List.forall_mem_singleton]
  exact .intro .nil (List.forall_mem_nil _)

lemma isReportable_orderConfig : orderConfig.IsReportable := by
  constructor
  case endpointCount => decide
  case schemaCount => decide
  case statusCodes =>
    simp only [orderConfig, List.forall_mem_cons]
    refine ⟨by simp, ?_, List.forall_mem_nil _⟩
    rintro status ⟨⟩
    decide
  case keys => simp +decide
  case names =>
    simp only [orderConfig, List.forall_mem_cons]
    exact ⟨hasDistinctNames_orderModel, .intro .nil (List.forall_mem_nil _), List.forall_mem_nil _⟩

end Report

end RestConnector
