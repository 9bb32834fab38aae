import RestConnector.Proofs.Survey.Trace
import RestConnector.Settings

/-!
# The limit of sampling

Sampling is given a limit, which is any integer that the environment holds.  The limit is meant to bound what
sampling costs: how many requests it makes, and how many models it finds.  A limit below zero allows nothing,
so the bound is `limit.toNat`.

The samples are always an initial part of the listing endpoints, whatever the limit is
(`samples_prefix_listing`), and no more models are found than requests are made (`makes_inferEach_length`).  But a negative limit is not read as a
bound: it leaves so many endpoints out at the end, and all others are asked for (`length_samples`).  So the bound
is kept for limits that are not negative, and for negative ones only where there are no endpoints besides those
that are left out (`keepsTo_inferModels_iff`).
-/

namespace RestConnector.Survey

open Exchange

/-! ## Two judgements on one exchange -/

section Judgements

variable {α : Type} {network : Network} {exchange : Exchange α}
  {post other : Except String α → List Request → Prop}

/-- Two judgements on an exchange are about the same requests. -/
lemma Exchange.Makes.and (h : Makes network exchange post) (hother : Makes network exchange other) :
    Makes network exchange fun result requests => post result requests ∧ other result requests := by
  intro sent
  obtain ⟨requests, hsent, hpost⟩ := h sent
  obtain ⟨requests', hsent', hother⟩ := hother sent
  obtain rfl : requests = requests' := List.append_cancel_left (hsent.symm.trans hsent')
  exact ⟨requests, hsent, hpost, hother⟩

end Judgements

/-! ## The samples -/

section Samples

variable (limit : Int) (endpoints : List Endpoint)

/-- Whatever the limit is, it only says where the listing endpoints are cut off. -/
lemma samples_prefix_listing : samples limit endpoints <+: endpoints.filter Endpoint.isListing := by
  rw [samples, upTo]
  split
  · exact List.take_prefix _ _
  · exact List.take_prefix _ _

lemma length_samples :
    (samples limit endpoints).length =
      if 0 ≤ limit then min limit.toNat (endpoints.filter Endpoint.isListing).length
      else (endpoints.filter Endpoint.isListing).length - limit.natAbs := by
  rw [samples, upTo]
  split
  · exact List.length_take
  · rw [List.length_take]
    omega

/-- The samples are within the limit if it is not negative, or if it leaves nothing over. -/
lemma length_samples_le_iff :
    (samples limit endpoints).length ≤ limit.toNat ↔
      0 ≤ limit ∨ (endpoints.filter Endpoint.isListing).length ≤ limit.natAbs := by
  rw [length_samples]
  split <;> omega

end Samples

/-! ## The models -/

lemma length_addSchema_le (found : List (String × Schema.Model)) (model : Schema.Model) :
    (Configuration.addSchema found model).length ≤ found.length + 1 := by
  rw [Configuration.addSchema]
  split
  · exact Nat.le_succ _
  · rw [List.length_append, List.length_singleton]

section Models

variable {network : Network} (timeout : Int)

/-- Every request adds one model at most. -/
lemma makes_inferEach_length (base : String) (found : List (String × Schema.Model))
    (endpoints : List Endpoint) :
    Makes network (inferEach timeout base found endpoints) fun result requests =>
      ∀ models, result = .ok models → models.length ≤ found.length + requests.length := by
  induction endpoints generalizing found with
  | nil =>
    refine makes_pure ?_
    rintro models ⟨⟩
    exact Nat.le_refl _
  | cons endpoint rest ih =>
    refine (makes_fetchBody timeout base endpoint.path).bind (fun _ _ _ => nofun) ?_
    rintro body requests rfl
    -- One request has been made, so there may be one model more.
    have hrest : ∀ more, more.length ≤ found.length + 1 →
        Makes network (inferEach timeout base more rest) fun result later =>
          ∀ models, result = .ok models → models.length ≤ found.length +
            ([Request.ofPath timeout base endpoint.path] ++ later).length := by
      intro more hmore
      refine (ih more).mono fun result later hlength models hresult => ?_
      have hmodels := hlength models hresult
      rw [List.length_append, List.length_singleton]
      omega
    split
    · next model _ => exact hrest _ (length_addSchema_le found model)
    · exact hrest _ (Nat.le_succ _)

/-- Sampling asks for an initial part of the listing endpoints, and finds no more models than it makes
requests. -/
lemma makes_inferModels_length (limit : Int) (baseUrl : String) (endpoints : List Endpoint) :
    Makes network (inferModels timeout limit baseUrl endpoints) fun result requests =>
      (∃ sampled, sampled <+: samples limit endpoints ∧
        requests = (sampled.map Endpoint.path).map
          (Request.ofPath timeout (withoutSlashes baseUrl))) ∧
        ∀ models, result = .ok models → models.length ≤ requests.length := by
  have hmodels : Makes network (inferModels timeout limit baseUrl endpoints) fun result requests =>
      ∀ models, result = .ok models → models.length ≤ requests.length := by
    refine (makes_inferEach_length timeout _ [] (samples limit endpoints)).bind
      (fun _ _ _ => nofun) ?_
    intro found requests hlength
    refine makes_pure ?_
    rintro models ⟨⟩
    simpa using hlength found rfl
  refine ((makes_inferModels timeout limit baseUrl endpoints).and hmodels).mono ?_
  rintro result requests ⟨⟨sampled, hsampled, hrequests, -⟩, hlength⟩
  exact ⟨⟨sampled, hsampled, hrequests⟩, hlength⟩

end Models

/-! ## The limit -/

/-- Whether sampling keeps to a limit: it makes at most so many requests, and finds at most so many models. -/
def KeepsTo (limit : Int) (network : Network) (sampling : Exchange (List Schema.Model)) : Prop :=
  Makes network sampling fun result requests =>
    requests.length ≤ limit.toNat ∧ ∀ models, result = .ok models → models.length ≤ limit.toNat

section Limit

variable (timeout limit : Int) (baseUrl : String) (endpoints : List Endpoint)

/-- Without crashes there is a request for every sample. -/
lemma length_requests_inferModels {network : Network} (h : NeverCrashes network) :
    (inferModels timeout limit baseUrl endpoints network []).2.length =
      (samples limit endpoints).length := by
  obtain ⟨models, log, hrun⟩ :=
    (isComposed_inferModels timeout limit baseUrl endpoints).completes h []
  have hlog := inferModels_trace hrun
  rw [hrun, hlog, List.nil_append, List.length_map, List.length_map]

/-- Whatever the limit, the network and the requests made before, sampling asks for an initial part of the
endpoints that read a path without parameters, and finds at most one model by each request.  It keeps to its
limit in every network just if the limit is not negative, or if there are no more such endpoints than it leaves
out at the end. -/
theorem keepsTo_inferModels_iff :
    (∀ network, Makes network (inferModels timeout limit baseUrl endpoints) fun result requests =>
      (∃ sampled, sampled <+: endpoints.filter Endpoint.isListing ∧
        requests = (sampled.map Endpoint.path).map
          (Request.ofPath timeout (withoutSlashes baseUrl))) ∧
        ∀ models, result = .ok models → models.length ≤ requests.length) ∧
    ((∀ network, KeepsTo limit network (inferModels timeout limit baseUrl endpoints)) ↔
      0 ≤ limit ∨ (endpoints.filter Endpoint.isListing).length ≤ limit.natAbs) := by
  rw [← length_samples_le_iff]
  refine ⟨fun network => ?_, fun hkeeps => ?_, fun hlength network => ?_⟩
  · refine (makes_inferModels_length timeout limit baseUrl endpoints).mono ?_
    rintro result requests ⟨⟨sampled, hsampled, hrequests⟩, hmodels⟩
    exact ⟨⟨sampled, hsampled.trans (samples_prefix_listing limit endpoints), hrequests⟩, hmodels⟩
  · -- A network that answers everything is asked for all samples.
    have hcalm : NeverCrashes fun _ _ => .answered {} := nofun
    obtain ⟨requests, hsent, hrequests, -⟩ := hkeeps (fun _ _ => .answered {}) []
    rw [← length_requests_inferModels timeout limit baseUrl endpoints hcalm, hsent, List.nil_append]
    exact hrequests
  · refine (makes_inferModels_length timeout limit baseUrl endpoints).mono ?_
    rintro result requests ⟨⟨sampled, hsampled, rfl⟩, hmodels⟩
    have hrequests : ((sampled.map Endpoint.path).map
        (Request.ofPath timeout (withoutSlashes baseUrl))).length ≤ limit.toNat := by
      rw [List.length_map, List.length_map]
      exact hsampled.length_le.trans hlength
    exact ⟨hrequests, fun models hresult => (hmodels models hresult).trans hrequests⟩

end Limit

/-- An API that answers with users. -/
def answeringUsers : Network :=
  Script.network
    { routes := [("https://shop.example/users", [.answered { body := "[\x7b\"id\": 1\x7d]" }])] }

/-- The environment may set the limit to -1.  Of two endpoints the first one is then asked for, and a model is
found. -/
theorem negative_limit_samples :
    (Settings.ofEnvironment [("CONNECTOR_GEN_MAX_SAMPLES", "-1")]).map Settings.maxSamples = .ok (-1) ∧
      (inferModels 30 (-1) "https://shop.example"
        [{ method := "GET", path := "/users" }, { method := "GET", path := "/orders" }]
          answeringUsers []).2 = [{ url := "https://shop.example/users", timeout := 30 }] ∧
      ¬ KeepsTo (-1) answeringUsers (inferModels 30 (-1) "https://shop.example"
        [{ method := "GET", path := "/users" }, { method := "GET", path := "/orders" }]) := by
  have hsent : (inferModels 30 (-1) "https://shop.example"
      [{ method := "GET", path := "/users" }, { method := "GET", path := "/orders" }]
        answeringUsers []).2 = [{ url := "https://shop.example/users", timeout := 30 }] := by
    decide +kernel
  refine ⟨by decide +kernel, hsent, fun hkeeps => ?_⟩
  obtain ⟨requests, hrequests, hlength, -⟩ := hkeeps []
  rw [hsent, List.nil_append] at hrequests
  rw [← hrequests] at hlength
  exact absurd hlength (by decide)

end RestConnector.Survey
