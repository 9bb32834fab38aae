import RestConnector.Proofs.Run.Course
import RestConnector.Proofs.Survey.Trace

/-!
# What becomes of the schemas

The schemas of a configuration outlast a run.  What is inferred comes behind them, under names that are not
among theirs; of models with one name the first counts (`Retains`).  This rule is applied twice: sampling
collects models of different names, and the run adds them to the schemas that were given.  The second time
changes nothing about which model is the first of its name (`Retains.of_collected`).

Which models the sampled endpoints give is a matter of the answers alone (`modelsFrom`): an endpoint whose
answer is an error, or is no document that a model can be inferred from, gives none and is passed over.  A
run that returns has gone through all of its samples in this way (`schemas_retained`).
-/

namespace RestConnector.Run

open RestConnector.Schema RestConnector.Survey RestConnector.Survey.Exchange RestConnector.Text

/-! ## The first of every name -/

section Retention

variable {given fresh collected : List (String × Model)} {models : List Model}

/-- Whether entries are what models add to the given ones. -/
structure Retains (given fresh : List (String × Model)) (models : List Model) : Prop where
  named : ∀ entry ∈ fresh, entry.2.name = entry.1
  nodup : (fresh.map (·.1)).Nodup
  absent : ∀ entry ∈ fresh, entry.1 ∉ given.map (·.1)
  /-- An entry is the first of the models with its name. -/
  earliest : ∀ entry ∈ fresh, (models.find? fun model => model.name = entry.1) = some entry.2
  /-- No name is lost. -/
  complete : ∀ model ∈ models, model.name ∈ (given ++ fresh).map (·.1)

lemma Retains.nil (given : List (String × Model)) : Retains given [] [] where
  named := List.forall_mem_nil _
  nodup := List.nodup_nil
  absent := List.forall_mem_nil _
  earliest := List.forall_mem_nil _
  complete := List.forall_mem_nil _

/-- A model whose name is there adds nothing. -/
lemma Retains.skip {model : Model} (h : Retains given fresh models)
    (hthere : model.name ∈ given.map (·.1)) : Retains given fresh (model :: models) where
  named := h.named
  nodup := h.nodup
  absent := h.absent
  earliest := by
    intro entry he
    have hne : ¬ model.name = entry.1 := fun heq => h.absent entry he (heq ▸ hthere)
    rw [List.find?_cons_of_neg (by simpa using hne), h.earliest entry he]
  complete := by
    refine List.forall_mem_cons.2 ⟨?_, h.complete⟩
    rw [List.map_append]
    exact List.mem_append_left _ hthere

/-- A model with a new name is the first of that name. -/
lemma Retains.add {model : Model} (h : Retains (given ++ [(model.name, model)]) fresh models)
    (hnew : model.name ∉ given.map (·.1)) :
    Retains given ((model.name, model) :: fresh) (model :: models) where
  named := List.forall_mem_cons.2 ⟨rfl, h.named⟩
  nodup := by
    refine List.nodup_cons.2 ⟨fun hm => ?_, h.nodup⟩
    obtain ⟨entry, he, hname⟩ := List.mem_map.1 hm
    exact h.absent entry he (by simp [hname])
  absent := by
    refine List.forall_mem_cons.2 ⟨hnew, fun entry he hm => h.absent entry he ?_⟩
    rw [List.map_append]
    exact List.mem_append_left _ hm
  earliest := by
    refine List.forall_mem_cons.2 ⟨?_, fun entry he => ?_⟩
    · rw [List.find?_cons_of_pos (by simp)]
    · have hne : ¬ model.name = entry.1 := fun heq => h.absent entry he (by simp [heq])
      rw [List.find?_cons_of_neg (by simpa using hne), h.earliest entry he]
  complete := by
    refine List.forall_mem_cons.2 ⟨by simp, fun other hm => ?_⟩
    have hthere := h.complete other hm
    rwa [List.append_assoc, List.singleton_append] at hthere

/-- Models are added one by one, each of them unless its name is there. -/
lemma exists_addSchemas_eq (given : List (String × Model)) (models : List Model) :
    ∃ fresh, addSchemas given models = given ++ fresh ∧ Retains given fresh models := by
  induction models generalizing given with
  | nil => exact ⟨[], (List.append_nil _).symm, .nil given⟩
  | cons model rest ih =>
    have hlookup : (given.lookup model.name).isSome ↔ model.name ∈ given.map (·.1) := by
      simp only [List.lookup_isSome_iff, List.mem_map, beq_iff_eq, @eq_comm _ model.name]
    rw [addSchemas, List.foldl_cons, Configuration.addSchema]
    split
    · next hthere =>
      obtain ⟨fresh, heq, hretains⟩ := ih given
      exact ⟨fresh, heq, hretains.skip (hlookup.1 hthere)⟩
    · next hnew =>
      obtain ⟨fresh, heq, hretains⟩ := ih (given ++ [(model.name, model)])
      refine ⟨(model.name, model) :: fresh, ?_, hretains.add (mt hlookup.2 hnew)⟩
      rw [← addSchemas, heq, List.append_assoc, List.singleton_append]

/-- Models that have been collected by the same rule are added as all of them would be. -/
lemma Retains.of_collected (hcollected : Retains [] collected models)
    (h : Retains given fresh (collected.map (·.2))) : Retains given fresh models where
  named := h.named
  nodup := h.nodup
  absent := h.absent
  earliest := by
    intro entry he
    have hfirst := h.earliest entry he
    obtain ⟨found, hfound, heq⟩ := List.mem_map.1 (List.mem_of_find?_eq_some hfirst)
    have hname : found.1 = entry.1 := by
      rw [← hcollected.named found hfound, heq, h.named entry he]
    rw [← hname, hcollected.earliest found hfound, heq]
  complete := by
    intro model hm
    obtain ⟨found, hfound, hname⟩ := List.mem_map.1 (hcollected.complete model hm)
    rw [List.nil_append] at hfound
    rw [← hname, ← hcollected.named found hfound]
    exact h.complete found.2 (List.mem_map_of_mem hfound)

end Retention

/-! ## Samples -/

section Samples

/-- The model that is inferred from a reply to the request for a path, if it is answered without an error. -/
def modelOf? (path : String) : Reply → Option Model
  | .answered response => if response.isOk then infer? response.body path else none
  | .timedOut _ | .refused _ | .crashed _ => none

/-- The models that endpoints give which are asked for one after the other. -/
def modelsFrom (network : Network) (timeout : Int) (base : String) (earlier : List Request) :
    List Endpoint → List Model
  | [] => []
  | endpoint :: rest =>
    let request := Request.ofPath timeout base endpoint.path
    (modelOf? endpoint.path (network earlier request)).toList ++
      modelsFrom network timeout base (earlier ++ [request]) rest

variable {network : Network} {timeout limit : Int} {base : String} {sent last : List Request}

/-- Asking for the body behind a path gives what its model is inferred from. -/
lemma fetchBody_ok {path : String} {body : Option String}
    (h : fetchBody timeout (base ++ path) network sent = (.ok body, last)) :
    last = sent ++ [Request.ofPath timeout base path] ∧
      (body.bind fun content => infer? content path) =
        modelOf? path (network sent (Request.ofPath timeout base path)) := by
  have hrequest : ({ url := base ++ path, timeout } : Request) = Request.ofPath timeout base path := rfl
  rw [fetchBody, bind_apply, fetch, hrequest] at h
  cases hreply : network sent (Request.ofPath timeout base path) with
  | answered response =>
    simp only [hreply, pure_apply, Prod.mk.injEq, Except.ok.injEq] at h
    obtain ⟨rfl, rfl⟩ := h
    refine ⟨rfl, ?_⟩
    rw [modelOf?]
    split <;> rfl
  | timedOut message =>
    simp only [hreply, pure_apply, Prod.mk.injEq, Except.ok.injEq] at h
    obtain ⟨rfl, rfl⟩ := h
    exact ⟨rfl, rfl⟩
  | refused message =>
    simp only [hreply, pure_apply, Prod.mk.injEq, Except.ok.injEq] at h
    obtain ⟨rfl, rfl⟩ := h
    exact ⟨rfl, rfl⟩
  | crashed message =>
    simp [hreply] at h

lemma inferEach_ok {found result : List (String × Model)} {endpoints : List Endpoint}
    (h : inferEach timeout base found endpoints network sent = (.ok result, last)) :
    result = addSchemas found (modelsFrom network timeout base sent endpoints) := by
  induction endpoints generalizing found sent with
  | nil =>
    rw [inferEach, pure_apply] at h
    exact (Except.ok.inj (Prod.mk.inj h).1).symm
  | cons endpoint rest ih =>
    rw [inferEach, bind_apply] at h
    rcases hfetch : fetchBody timeout (base ++ endpoint.path) network sent with ⟨crash | body, log⟩
    · rw [hfetch] at h
      cases h
    · obtain ⟨rfl, hmodel⟩ := fetchBody_ok hfetch
      rw [hfetch] at h
      dsimp only at h
      rw [hmodel] at h
      rw [modelsFrom]
      cases hm : modelOf? endpoint.path
          (network sent (Request.ofPath timeout base endpoint.path)) with
      | some model =>
        rw [hm] at h
        exact ih h
      | none =>
        rw [hm] at h
        exact ih h

/-- Sampling collects the first model of every name. -/
lemma exists_collected {baseUrl : String} {endpoints : List Endpoint} {models : List Model}
    (h : inferModels timeout limit baseUrl endpoints network sent = (.ok models, last)) :
    ∃ collected : List (String × Model), models = collected.map (·.2) ∧
      Retains [] collected (modelsFrom network timeout (withoutSlashes baseUrl) sent
        (samples limit endpoints)) := by
  rw [inferModels, bind_apply] at h
  rcases heach : inferEach timeout (withoutSlashes baseUrl) [] (samples limit endpoints) network sent
    with ⟨crash | collected, log⟩
  · rw [heach] at h
    cases h
  · rw [heach] at h
    obtain ⟨fresh, heq, hretains⟩ := exists_addSchemas_eq []
      (modelsFrom network timeout (withoutSlashes baseUrl) sent (samples limit endpoints))
    rw [← inferEach_ok heach, List.nil_append] at heq
    subst heq
    exact ⟨collected, (Except.ok.inj (Prod.mk.inj h).1).symm, hretains⟩

end Samples

/-! ## Runs -/

section Runs

variable {writer : ContractWriter} {network : Network} {settings : Settings} {withReport : Bool}
  {config : Configuration} {journal : Journal} {tree : Disk.FileTree} {summary : Summary}

/-- A survey ends with what sampling ends with. -/
lemma exists_sampling {findings : Findings} {sent last : List Request}
    (h : survey settings config network sent = (.ok findings, last)) :
    ∃ middle, inferModels settings.timeout settings.maxSamples config.baseUrl findings.endpoints
      network middle = (findings.models, last) := by
  rw [survey, bind_apply] at h
  rcases hprobe : connectivity settings.timeout config.baseUrl network sent with ⟨crash | probe, first⟩
  · rw [hprobe] at h
    cases h
  rw [hprobe] at h
  dsimp only at h
  rw [bind_apply] at h
  rcases hfound : discover settings.timeout config.baseUrl config.endpoints network first with
    ⟨crash | endpoints, middle⟩
  · rw [hfound] at h
    cases h
  rw [hfound] at h
  cases h
  exact ⟨middle, rfl⟩

/-- A run that returns keeps the schemas that it was given, and adds to them the first model of every other
name that its samples give. -/
theorem schemas_retained
    (h : (run writer network settings withReport config journal tree).result = .ok summary) :
    let outcome := run writer network settings withReport config journal tree
    let base := withoutSlashes (onChars trim config.baseUrl)
    let sampled := samples settings.maxSamples outcome.config.endpoints
    ∃ before fresh,
      (outcome.journal.sent = before ++
        (sampled.map Endpoint.path).map (Request.ofPath settings.timeout base)) ∧
      outcome.config.schemas = config.schemas ++ fresh ∧
      Retains config.schemas fresh (modelsFrom network settings.timeout base before sampled) := by
  intro outcome base sampled
  cases course_run writer network settings withReport config journal tree with
  | unprepared _ houtcome | lost _ _ houtcome | unsampled _ _ _ houtcome
  | ungenerated _ _ _ _ houtcome | unwritten _ _ _ _ _ houtcome =>
    exact absurd (h.symm.trans (congrArg Outcome.result houtcome)) nofun
  | @delivered prepared findings models sent files written last hprepare hsurvey hmodels _ _ houtcome =>
    obtain ⟨apiName, packageName, outputPath, rfl⟩ := prepare_frame hprepare
    obtain ⟨before, hsampling⟩ := exists_sampling hsurvey
    rw [hmodels] at hsampling
    have hsampled : sampled = samples settings.maxSamples findings.endpoints := by
      show samples settings.maxSamples (run writer network settings withReport config journal
        tree).config.endpoints = _
      rw [houtcome, completed]
    obtain ⟨collected, rfl, hcollected⟩ := exists_collected hsampling
    obtain ⟨fresh, hfresh, hretains⟩ := exists_addSchemas_eq config.schemas (collected.map (·.2))
    refine ⟨before, fresh, ?_, ?_, ?_⟩
    · rw [hsampled]
      show (run writer network settings withReport config journal tree).journal.sent = _
      rw [houtcome, afterSession]
      exact inferModels_trace hsampling
    · show (run writer network settings withReport config journal tree).config.schemas = _
      rw [houtcome, completed]
      exact hfresh
    · rw [hsampled]
      exact Retains.of_collected hcollected hretains

end Runs

/-- An API of which orders are known, with a schema of their own, and a status in two places. -/
def statusConfig : Configuration where
  baseUrl := "https://shop.example/"
  outputPath := "out"
  endpoints := ["/order", "/health", "/v1/status", "/v2/status"].map fun path =>
    { method := "GET", path }
  schemas := [("Order", { name := "Order", givenName := "order" })]
  options := { models := false, contract := false }

/-- Orders and both kinds of status are answered; health is an error. -/
def statusNetwork : Network :=
  Script.network
    { routes :=
        [("https://shop.example/order", [.answered { body := "\x7b\"id\": 1\x7d" }]),
          ("https://shop.example/health",
            [.answered { status := 500, body := "\x7b\"up\": false\x7d" }]),
          ("https://shop.example/v1/status", [.answered { body := "\x7b\"up\": true\x7d" }]),
          ("https://shop.example/v2/status", [.answered { body := "\x7b\"down\": 1\x7d" }])] }

/-- What a run says that has generated nothing. -/
def statusSummary : Summary where
  endpointsFound := 24
  schemasInferred := 2
  filesWritten := 0
  outputPath := "out"
  connectivity := { isSuccess := true, statusCode := 404, content := some "" }

/-- What is left of a run for this API. -/
def statusOutcome : Outcome :=
  run standardWriter statusNetwork {} false statusConfig {} {}

/-- The schema of orders stays as it is, and the status is the one that is asked for first. -/
theorem schemas_retained_status :
    statusOutcome.result = .ok statusSummary ∧
      statusOutcome.config.schemas.map (fun entry => (entry.1, entry.2.fields.map (·.key))) =
        [("Order", []), ("Status", ["up"])] ∧
      ∃ before fresh, statusOutcome.config.schemas = statusConfig.schemas ++ fresh ∧
        Retains statusConfig.schemas fresh (modelsFrom statusNetwork 30 "https://shop.example" before
          (samples 10 statusOutcome.config.endpoints)) := by
  have hrun : statusOutcome.result = .ok statusSummary ∧
      statusOutcome.config.schemas.map (fun entry => (entry.1, entry.2.fields.map (·.key))) =
        [("Order", []), ("Status", ["up"])] := by decide +kernel
  have hbase : withoutSlashes (onChars trim statusConfig.baseUrl) = "https://shop.example" := by
    decide +kernel
  refine ⟨hrun.1, hrun.2, ?_⟩
  obtain ⟨before, fresh, -, hschemas, hretains⟩ := schemas_retained hrun.1
  rw [← statusOutcome] at hschemas hretains
  rw [hbase] at hretains
  exact ⟨before, fresh, hschemas, hretains⟩

end RestConnector.Run
