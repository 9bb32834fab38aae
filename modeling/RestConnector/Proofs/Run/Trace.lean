import RestConnector.Proofs.Run.Course
import RestConnector.Proofs.Survey.Trace

/-!
# The trace of a run

Where the network does nothing unexpected, the requests of a run are settled by two things only: how far the
search for a document goes, and which endpoints there are in the end.  The run asks for the base URL, for
places of documents up to the first that is answered without an error, for all customary paths, and then for
as many of its listing endpoints as the settings allow, each of them once (`requests_run`).  An answer may
change from request to request; this makes a difference to what is found, but not to how it is asked for.
-/

namespace RestConnector.Run

open RestConnector.Endpoint RestConnector.Survey RestConnector.Survey.Exchange RestConnector.Text

/-! ## Samples -/

section Samples

variable {limit : Int} {endpoints : List Endpoint}

lemma samples_of_nonneg (h : 0 ≤ limit) (endpoints : List Endpoint) :
    samples limit endpoints = (endpoints.filter fun endpoint => upper endpoint.method = "GET" ∧
      '{' ∉ endpoint.path.toList ∧ ':' ∉ endpoint.path.toList).take limit.toNat := by
  have hlisting : ∀ endpoint : Endpoint, endpoint.isListing =
      decide (upper endpoint.method = "GET" ∧ '{' ∉ endpoint.path.toList ∧
        ':' ∉ endpoint.path.toList) := by
    intro endpoint
    rw [Bool.eq_iff_iff, isListing_iff, decide_eq_true_iff]
  rw [samples, upTo, if_pos h, funext hlisting]

lemma samples_sublist (limit : Int) (endpoints : List Endpoint) :
    (samples limit endpoints).Sublist endpoints := by
  have htake : ∀ count, ((endpoints.filter Endpoint.isListing).take count).Sublist endpoints :=
    fun count => (List.take_sublist count _).trans List.filter_sublist
  rw [samples, upTo]
  split
  · exact htake _
  · exact htake _

/-- No path is sampled twice, because all sampled endpoints have the same method. -/
lemma nodup_paths_samples (h : (keys endpoints).Nodup) (limit : Int) :
    ((samples limit endpoints).map Endpoint.path).Nodup := by
  have hkeys : keys (samples limit endpoints) =
      ((samples limit endpoints).map Endpoint.path).map fun path => ("GET", path) := by
    rw [keys, List.map_map]
    apply List.map_congr_left
    intro endpoint hmem
    obtain ⟨hget, -⟩ := isListing_iff.1 (isListing_of_mem_samples hmem).2
    rw [key, hget, Function.comp_apply]
  have hnodup : (keys (samples limit endpoints)).Nodup :=
    h.sublist ((samples_sublist limit endpoints).map Endpoint.key)
  rw [hkeys] at hnodup
  exact hnodup.of_map

end Samples

/-! ## Runs -/

section Runs

variable {writer : ContractWriter} {network : Network} {settings : Settings} {withReport : Bool}
  {config : Configuration} {journal : Journal} {tree : Disk.FileTree}

/-- The requests of a run are the probe, the places of documents up to the first answer without an error,
all customary paths, and the first listing endpoints that have been discovered, each once. -/
theorem requests_run (hblank : ¬ isAllBlank config.baseUrl) (hlimit : 0 ≤ settings.maxSamples)
    (hnetwork : NeverCrashes network) :
    let outcome := run writer network settings withReport config journal tree
    let url := onChars trim config.baseUrl
    let base := withoutSlashes url
    let probe : Request := { url, timeout := settings.timeout }
    let sampled := (outcome.config.endpoints.filter fun endpoint =>
      upper endpoint.method = "GET" ∧ '{' ∉ endpoint.path.toList ∧
        ':' ∉ endpoint.path.toList).take settings.maxSamples.toNat
    ∃ located requests,
      IsSearch network (journal.sent ++ [probe]) settings.timeout base documentLocations located ∧
      outcome.journal.sent = journal.sent ++ requests ∧
      (requests = probe :: (located ++ commonPaths ++ sampled.map Endpoint.path).map
        (Request.ofPath settings.timeout base)) ∧
      commonPaths.Nodup ∧ (sampled.map Endpoint.path).Nodup ∧
      (∀ request ∈ requests, request.timeout = settings.timeout) ∧
      discover settings.timeout url config.endpoints network (journal.sent ++ [probe]) =
        (.ok outcome.config.endpoints, journal.sent ++ probe :: (located ++ commonPaths).map
          (Request.ofPath settings.timeout base)) := by
  intro outcome url base probe sampled
  obtain ⟨prepared, connected, endpoints, models, first, second, last, -, hprobe, hfound, hmodels,
    hrun⟩ := exists_run_eq_build writer settings withReport journal tree hblank hnetwork
  obtain ⟨hjournal, hconfig⟩ := build_keeps writer withReport connected _ _ tree
  rw [← hrun] at hjournal hconfig
  have hlog : outcome.journal.sent = last := congrArg Journal.sent hjournal
  have hendpoints : outcome.config.endpoints = endpoints := congrArg Configuration.endpoints hconfig
  have hsampled : sampled = samples settings.maxSamples endpoints := by
    rw [samples_of_nonneg hlimit, ← hendpoints]
  -- What is asked for, stage by stage.
  obtain ⟨_, hconnect⟩ := connectivity_trace hnetwork settings.timeout url journal.sent
  obtain rfl : first = journal.sent ++ [probe] := (Prod.mk.inj (hprobe.symm.trans hconnect)).2
  obtain ⟨located, _, hsearch, hdiscover⟩ :=
    discover_trace hnetwork settings.timeout url config.endpoints (journal.sent ++ [probe])
  obtain ⟨hresult, rfl⟩ := Prod.mk.inj (hfound.symm.trans hdiscover)
  obtain rfl := Except.ok.inj hresult
  have hlast := inferModels_trace hmodels
  -- What is found has no key twice.
  obtain ⟨_, _, _, _, _, -, -, hagain, hmerged⟩ :=
    discover_isMerged hnetwork settings.timeout url config.endpoints (journal.sent ++ [probe])
  obtain rfl := Except.ok.inj (Prod.mk.inj (hdiscover.symm.trans hagain)).1
  refine ⟨located, _, hsearch, ?_, rfl, by decide, ?_, ?_, ?_⟩
  · rw [hlog, hlast, hsampled]
    simp only [List.map_append, List.append_assoc, List.cons_append, List.nil_append]
    rfl
  · rw [hsampled]
    exact nodup_paths_samples hmerged.nodup settings.maxSamples
  · intro request hrequest
    rcases List.mem_cons.1 hrequest with rfl | hbehind
    · rfl
    · obtain ⟨path, -, rfl⟩ := List.mem_map.1 hbehind
      rfl
  · rw [hendpoints, hdiscover, List.append_assoc]
    rfl

end Runs

/-- An API of which the orders are known beforehand. -/
def ordersConfig : Configuration where
  baseUrl := " https://shop.example/ "
  endpoints := [{ method := "get", path := "/orders" }]

/-- What is left of a run that finds users in the document of this API. -/
def ordersOutcome : Outcome :=
  run standardWriter usersNetwork {} false ordersConfig {} {}

/-- Four places are looked at, then all customary paths, then the orders and the users. -/
theorem requests_run_orders :
    (ordersOutcome.journal.sent = { url := "https://shop.example/", timeout := 30 } ::
      (["/swagger.json", "/swagger/v1/swagger.json", "/api/swagger.json", "/openapi.json"] ++
        commonPaths ++ ["/orders", "/users"]).map (Request.ofPath 30 "https://shop.example")) ∧
    ∃ located, IsSearch usersNetwork [{ url := "https://shop.example/", timeout := 30 }] 30
        "https://shop.example" documentLocations located ∧
      ordersOutcome.journal.sent = { url := "https://shop.example/", timeout := 30 } ::
        (located ++ commonPaths ++ ["/orders", "/users"]).map
          (Request.ofPath 30 "https://shop.example") := by
  have hblank : ¬ isAllBlank ordersConfig.baseUrl := by decide +kernel
  have hurl : onChars trim ordersConfig.baseUrl = "https://shop.example/" := by decide +kernel
  have hbase : withoutSlashes "https://shop.example/" = "https://shop.example" := by decide +kernel
  have hsampled : ((ordersOutcome.config.endpoints.filter fun endpoint =>
      upper endpoint.method = "GET" ∧ '{' ∉ endpoint.path.toList ∧
        ':' ∉ endpoint.path.toList).take ({} : Settings).maxSamples.toNat).map Endpoint.path =
      ["/orders", "/users"] := by
    decide +kernel
  refine ⟨by decide +kernel, ?_⟩
  obtain ⟨located, requests, hsearch, hsent, hrequests, -⟩ :=
    requests_run hblank (show 0 ≤ ({} : Settings).maxSamples by decide) neverCrashes_usersNetwork
  rw [← ordersOutcome] at hsent hrequests
  rw [hurl, hbase] at hsearch hrequests
  refine ⟨located, hsearch, ?_⟩
  rw [hsent, hrequests, hsampled]
  rfl

end RestConnector.Run
