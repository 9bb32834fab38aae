import RestConnector.Proofs.Survey.Requests
import RestConnector.Proofs.Url.Authority
import RestConnector.Run

/-!
# What a run asks for

A run probes the base URL and then puts paths behind it, freed of the slashes at its end.  The customary
places of discovery begin with a slash; the paths of endpoints come from the caller or from a document of
the API, and are put behind the base URL as they stand.  So every request after the probe is below the base
URL, and goes to its authority, exactly when the path of every endpoint that is sampled begins with a slash
(`requests_below_iff`).

A document that lists a path without one sends the run, with its credentials, to another host
(`documented_path_leaves_host`).
-/

namespace RestConnector.Run

open RestConnector.Survey RestConnector.Survey.Exchange RestConnector.Text RestConnector.Url

/-- What is asked for after the probe. -/
structure Route where
  /-- The customary places that discovery has looked at. -/
  places : List String
  sampled : List Endpoint

namespace Route

/-- The paths that are put behind the base URL. -/
def paths (route : Route) : List String :=
  route.places ++ route.sampled.map Endpoint.path

/-- The requests of a route. -/
def requests (timeout : Int) (base : String) (route : Route) : List Request :=
  route.paths.map (Request.ofPath timeout base)

end Route

/-! ## Surveys -/

/-- A survey probes the base URL and goes on along a route, to its end unless it crashes. -/
lemma makes_survey (network : Network) (settings : Settings) (config : Configuration) :
    Makes network (survey settings config) fun result requests =>
      ∃ route : Route, route.places.Sublist (documentLocations ++ commonPaths) ∧
        (requests = { url := config.baseUrl, timeout := settings.timeout } ::
          route.requests settings.timeout (withoutSlashes config.baseUrl)) ∧
        (∀ crash, result = .error crash → route.sampled = []) ∧
        ∀ findings, result = .ok findings →
          (∀ endpoint ∈ findings.endpoints, endpoint.isListing →
            IsKnown network config.endpoints endpoint) ∧
          route.sampled <+: samples settings.maxSamples findings.endpoints ∧
          ∀ models, findings.models = .ok models →
            route.sampled = samples settings.maxSamples findings.endpoints := by
  have hprobe : Makes network (connectivity settings.timeout config.baseUrl) fun _ requests =>
      requests = [{ url := config.baseUrl, timeout := settings.timeout }] := by
    refine (makes_fetch _).bind (fun _ _ h => h.1) ?_
    rintro attempt requests ⟨rfl, -⟩
    cases attempt <;> exact makes_pure rfl
  refine hprobe.bind ?_ ?_
  · rintro crash requests rfl
    exact ⟨⟨[], []⟩, List.nil_sublist _, rfl, fun _ _ => rfl, nofun⟩
  · rintro probe requests rfl
    refine (makes_discover settings.timeout config.baseUrl config.endpoints).bind ?_ ?_
    · rintro crash requests ⟨places, hplaces, rfl, -⟩
      refine ⟨⟨places, []⟩, hplaces, ?_, fun _ _ => rfl, nofun⟩
      simp [Route.requests, Route.paths]
    · rintro endpoints requests ⟨places, hplaces, rfl, hknown⟩
      refine (makes_inferModels settings.timeout settings.maxSamples config.baseUrl
        endpoints).attempt.bind ?_ ?_
      · rintro crash requests ⟨models, hmodels, -⟩
        cases hmodels
      · rintro models requests ⟨_, ⟨⟩, sampled, hsampled, rfl, hall⟩
        refine makes_pure ⟨⟨places, sampled⟩, hplaces, ?_, nofun, ?_⟩
        · simp [Route.requests, Route.paths]
        · rintro findings ⟨⟩
          exact ⟨hknown endpoints rfl, hsampled, hall⟩

/-! ## Runs -/

/-- Whether a run has got as far as generation. -/
def IsSurveyed (outcome : Outcome) : Prop :=
  match outcome.result with
  | .error .noBaseUrl | .error (.crashed _) => False
  | .error (.generationFailed _) | .error (.notWritten _) | .ok _ => True

/-- Whether a route is what a run from a configuration has asked for when it ends. -/
structure Follows (network : Network) (settings : Settings) (config : Configuration)
    (outcome : Outcome) (route : Route) : Prop where
  places : route.places.Sublist (documentLocations ++ commonPaths)
  /-- The endpoints that are sampled come first among those that were found. -/
  sampled : route.sampled <+: samples settings.maxSamples outcome.config.endpoints
  complete : IsSurveyed outcome → route.sampled = samples settings.maxSamples outcome.config.endpoints
  known : ∀ endpoint ∈ route.sampled, IsKnown network config.endpoints endpoint

lemma not_isSurveyed_of_crash {outcome : Outcome} {crash : String}
    (h : outcome.result = .error (.crashed crash)) : ¬ IsSurveyed outcome := by
  simp only [IsSurveyed, h, not_false_eq_true]

/-- A run that ends before anything is sampled has followed discovery only. -/
lemma follows_of_unsampled {network : Network} {settings : Settings} {config : Configuration}
    {outcome : Outcome} {route : Route}
    (hplaces : route.places.Sublist (documentLocations ++ commonPaths))
    (hnone : route.sampled = []) (hend : ¬ IsSurveyed outcome) :
    Follows network settings config outcome route := by
  refine ⟨hplaces, ?_, fun h => absurd h hend, ?_⟩
  · rw [hnone]
    exact List.nil_prefix
  · rw [hnone]
    exact fun _ h => absurd h List.not_mem_nil

/-- The endpoints that are sampled list something. -/
lemma isListing_of_mem_samples {limit : Int} {endpoints : List Endpoint} {endpoint : Endpoint}
    (h : endpoint ∈ samples limit endpoints) : endpoint ∈ endpoints ∧ endpoint.isListing := by
  have hfilter : endpoint ∈ endpoints.filter Endpoint.isListing := by
    rw [samples, upTo] at h
    split at h <;> exact List.mem_of_mem_take h
  exact List.mem_filter.1 hfilter

lemma prepare_error {settings : Settings} {config : Configuration} {fault : RunFault}
    (h : prepare settings config = .error fault) : fault = .noBaseUrl := by
  unfold prepare at h
  split at h
  · cases h
    rfl
  · cases h

lemma eq_of_prepare {settings : Settings} {config prepared : Configuration}
    (h : prepare settings config = .ok prepared) :
    let baseUrl := onChars trim config.baseUrl
    let apiName := orElse config.apiName (Url.apiName baseUrl "MyApi")
    let package := orElse config.packageName (packageName apiName)
    prepared = { config with
      baseUrl, apiName
      packageName := package
      outputPath := orElse config.outputPath (outputPath settings.outputDirectory package) } := by
  unfold prepare at h
  split at h
  · cases h
  · cases h
    rfl

lemma prepare_ok {settings : Settings} {config prepared : Configuration}
    (h : prepare settings config = .ok prepared) :
    prepared.baseUrl = onChars trim config.baseUrl ∧ prepared.endpoints = config.endpoints := by
  obtain rfl := eq_of_prepare h
  exact ⟨rfl, rfl⟩

/-- Generation and writing leave the journal and the configuration as they are. -/
lemma build_keeps (writer : ContractWriter) (withReport : Bool) (connectivity : Probe)
    (config : Configuration) (journal : Journal) (tree : Disk.FileTree) :
    (build writer withReport connectivity config journal tree).journal = journal ∧
      (build writer withReport connectivity config journal tree).config = config := by
  unfold build
  split
  · exact ⟨rfl, rfl⟩
  · split <;> exact ⟨rfl, rfl⟩

/-- The requests of a run are those of its survey, and its endpoints are the ones found there; it goes on
after the survey unless there has been a crash. -/
lemma run_cases {settings : Settings} {config prepared : Configuration}
    (hprepare : prepare settings config = .ok prepared) (writer : ContractWriter)
    (network : Network) (withReport : Bool) (journal : Journal) (tree : Disk.FileTree) :
    let outcome := run writer network settings withReport config journal tree
    let surveyed := survey settings prepared network journal.sent
    outcome.journal.sent = surveyed.2 ∧
      ((∃ crash, surveyed.1 = .error crash ∧ outcome.result = .error (.crashed crash)) ∨
        ∃ findings, surveyed.1 = .ok findings ∧ outcome.config.endpoints = findings.endpoints ∧
          ((∃ models, findings.models = .ok models) ∨
            ∃ crash, outcome.result = .error (.crashed crash))) := by
  intro outcome surveyed
  rcases hsurvey : survey settings prepared network journal.sent with ⟨result, sent⟩
  simp only [outcome, surveyed, run, hprepare, inSession, hsurvey]
  cases result with
  | error crash => exact ⟨rfl, Or.inl ⟨crash, rfl, rfl⟩⟩
  | ok findings =>
    rcases hmodels : findings.models with crash | models
    · simp only [hmodels]
      exact ⟨rfl, Or.inr ⟨findings, rfl, rfl, Or.inr ⟨crash, rfl⟩⟩⟩
    · simp only [hmodels, build_keeps]
      exact ⟨rfl, Or.inr ⟨findings, rfl, rfl, Or.inl ⟨models, hmodels⟩⟩⟩

/-- A run asks for its base URL and goes on along a route, unless it has no base URL. -/
lemma exists_follows (writer : ContractWriter) (network : Network) (settings : Settings)
    (withReport : Bool) (config : Configuration) (journal : Journal) (tree : Disk.FileTree) :
    let outcome := run writer network settings withReport config journal tree
    let url := onChars trim config.baseUrl
    ∃ probe route,
      outcome.journal.sent =
        journal.sent ++ probe ++ route.requests settings.timeout (withoutSlashes url) ∧
      probe <+: [{ url, timeout := settings.timeout }] ∧ (probe = [] → route.paths = []) ∧
      Follows network settings config outcome route := by
  intro outcome url
  rcases hprepare : prepare settings config with fault | prepared
  · obtain rfl := prepare_error hprepare
    have houtcome : outcome = { result := .error .noBaseUrl, config, journal, tree } := by
      simp only [outcome, run, hprepare]
    have hend : ¬ IsSurveyed outcome := by
      simp only [IsSurveyed, houtcome, not_false_eq_true]
    refine ⟨[], ⟨[], []⟩, ?_, List.nil_prefix, fun _ => rfl,
      follows_of_unsampled (List.nil_sublist _) rfl hend⟩
    simp [houtcome, Route.requests, Route.paths]
  · obtain ⟨hurl, hendpoints⟩ := prepare_ok hprepare
    obtain ⟨hsent, hcases⟩ := run_cases hprepare writer network withReport journal tree
    obtain ⟨requests, hrequests, route, hplaces, rfl, hcrash, hfindings⟩ :=
      makes_survey network settings prepared journal.sent
    rw [hurl] at hrequests
    refine ⟨[{ url, timeout := settings.timeout }], route, ?_, List.prefix_rfl, nofun, ?_⟩
    · rw [hsent, hrequests, List.append_assoc]
      rfl
    · rcases hcases with ⟨crash, hresult, hend⟩ | ⟨findings, hresult, hfound, hend⟩
      · exact follows_of_unsampled hplaces (hcrash crash hresult) (not_isSurveyed_of_crash hend)
      · obtain ⟨hknown, hsampled, hall⟩ := hfindings findings hresult
        rw [← hfound] at hsampled hall hknown
        rw [hendpoints] at hknown
        refine ⟨hplaces, hsampled, fun hdone => ?_, fun endpoint h => ?_⟩
        · rcases hend with ⟨models, hmodels⟩ | ⟨crash, hend⟩
          · exact hall models hmodels
          · exact absurd hdone (not_isSurveyed_of_crash hend)
        · obtain ⟨hmem, hlisting⟩ := isListing_of_mem_samples (hsampled.subset h)
          exact hknown endpoint hmem hlisting

/-! ## Below the base URL -/

lemma startsWith_places {place : String} (h : place ∈ documentLocations ++ commonPaths) :
    startsWith "/" place := by
  revert h place
  decide

/-- Requests are below the base URL if the paths of the sampled endpoints begin with a slash. -/
lemma Follows.below_iff {network : Network} {settings : Settings} {config : Configuration}
    {outcome : Outcome} {route : Route} (h : Follows network settings config outcome route)
    (timeout : Int) (base : String) :
    (∀ request ∈ route.requests timeout base, IsBelow base request.url) ↔
      ∀ endpoint ∈ route.sampled, startsWith "/" endpoint.path := by
  have hbelow : ∀ path, IsBelow base (Request.ofPath timeout base path).url ↔ startsWith "/" path :=
    fun path => isBelow_append_iff
  simp only [Route.requests, Route.paths, List.forall_mem_map, hbelow, List.forall_mem_append]
  exact and_iff_right fun place hplace => startsWith_places (h.places.subset hplace)

/-- Every request that a run makes after the probe is below its base URL exactly when the path of every
endpoint that it has sampled begins with a slash; those that are below it go to its authority, if it has
one. -/
theorem requests_below_iff (writer : ContractWriter) (network : Network) (settings : Settings)
    (withReport : Bool) (config : Configuration) (journal : Journal) (tree : Disk.FileTree) :
    let outcome := run writer network settings withReport config journal tree
    let url := onChars trim config.baseUrl
    let base := withoutSlashes url
    ∃ probe route,
      outcome.journal.sent = journal.sent ++ probe ++ route.requests settings.timeout base ∧
      probe <+: [{ url, timeout := settings.timeout }] ∧ (probe = [] → route.paths = []) ∧
      Follows network settings config outcome route ∧
      ((∀ request ∈ route.requests settings.timeout base, IsBelow base request.url) ↔
        ∀ endpoint ∈ route.sampled, startsWith "/" endpoint.path) ∧
      ∀ authority, authority? url = some authority → authority ≠ [] →
        ∀ request ∈ route.requests settings.timeout base, IsBelow base request.url →
          authority? request.url = some authority := by
  intro outcome url base
  obtain ⟨probe, route, hsent, hprobe, hnone, hfollows⟩ :=
    exists_follows writer network settings withReport config journal tree
  refine ⟨probe, route, hsent, hprobe, hnone, hfollows, hfollows.below_iff _ _, ?_⟩
  intro authority hauthority hne request _ hbelow
  have hbase : authority? base = some authority := (authority?_withoutSlashes url).trans hauthority
  exact authority?_of_isBelow hbase hne hbelow

/-- A run asks for what the survey of its own configuration asks for, if its base URL is as it should be. -/
lemma sent_run {config : Configuration} (hblank : isAllBlank config.baseUrl = false)
    (htrim : onChars trim config.baseUrl = config.baseUrl) (writer : ContractWriter)
    (network : Network) (settings : Settings) (withReport : Bool) (journal : Journal)
    (tree : Disk.FileTree) :
    (run writer network settings withReport config journal tree).journal.sent =
      (survey settings config network journal.sent).2 := by
  rcases hprepare : prepare settings config with fault | prepared
  · rw [prepare, if_neg (by rw [hblank]; decide)] at hprepare
    cases hprepare
  · obtain ⟨hurl, hendpoints⟩ := prepare_ok hprepare
    have hsurvey : survey settings prepared = survey settings config := by
      rw [survey, hurl, hendpoints, htrim, survey]
    rw [(run_cases hprepare writer network withReport journal tree).1, hsurvey]

/-- An API whose document lists a path without a slash in front. -/
def shopScript : Script where
  routes := [("https://shop.example/swagger.json",
    [.answered { body := "\x7b\"paths\": \x7b\".evil.example/users\": \x7b\"get\": \x7b\x7d\x7d\x7d\x7d" }])]

def shopConfig : Configuration where
  baseUrl := "https://shop.example"

/-- A run for the API at `https://shop.example` asks for something at another host. -/
theorem documented_path_leaves_host :
    let outcome := run standardWriter shopScript.network {} false shopConfig {} {}
    ∃ request ∈ outcome.journal.sent.tail, ¬ IsBelow "https://shop.example" request.url ∧
      authority? request.url = some "shop.example.evil.example".toList := by
  have hblank : isAllBlank shopConfig.baseUrl = false := by decide +kernel
  have htrim : onChars trim shopConfig.baseUrl = shopConfig.baseUrl := by decide +kernel
  have hlast : (survey {} shopConfig shopScript.network []).2.tail.getLast? =
      some { url := "https://shop.example.evil.example/users", timeout := 30 } := by
    decide +kernel
  have hbelow : ¬ IsBelow "https://shop.example" "https://shop.example.evil.example/users" := by
    decide +kernel
  have helsewhere : authority? "https://shop.example.evil.example/users" =
      some "shop.example.evil.example".toList := by
    decide +kernel
  dsimp only
  rw [sent_run hblank htrim]
  exact ⟨_, List.mem_of_getLast? hlast, hbelow, helsewhere⟩

end RestConnector.Run
