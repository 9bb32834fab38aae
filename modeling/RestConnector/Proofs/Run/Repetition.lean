import RestConnector.Proofs.Endpoint.Expansion
import RestConnector.Proofs.Run.Redelivery
import RestConnector.Proofs.Survey.Composition
import RestConnector.Proofs.Text.Trim

/-!
# Running again

A run leaves a configuration that has all its names, the endpoints that were found with their siblings, and
the schemas that were inferred.  Running again from there finds nothing to be done: no name is open
(`prepare_again`), the endpoints of a document and of the customary paths are there with all siblings, so
the survey ends with the same endpoints and samples the same ones (`survey_again`), and the models that it
infers have their schemas (`addSchemas_again`).

What the network says in the second run has to be what it has said in the first.  So it may answer by URL
alone, in any way that lets the first run succeed; then the second has the same summary, and leaves the
configuration and every file as they are (`run_again`).
-/

namespace RestConnector.Run

open RestConnector.Disk RestConnector.Survey RestConnector.Survey.Exchange RestConnector.Text

/-- The configuration that a run generates from, after its survey. -/
def completed (prepared : Configuration) (findings : Findings) (models : List Schema.Model) :
    Configuration :=
  { prepared with
    endpoints := findings.endpoints
    schemas := addSchemas prepared.schemas models }

/-! ## Names -/

@[simp] lemma orElse_orElse (text other : String) :
    orElse (orElse text other) other = orElse text other := by
  by_cases h : text.isEmpty <;> simp [orElse, h]

/-- The names that a configuration has are not filled in again. -/
lemma prepare_prepare {settings : Settings} {config prepared : Configuration}
    (h : prepare settings config = .ok prepared) : prepare settings prepared = .ok prepared := by
  unfold prepare at h
  split at h
  · cases h
  · next hblank =>
    cases h
    have htrim : onChars trim (onChars trim config.baseUrl) = onChars trim config.baseUrl := by
      rw [onChars, toList_onChars, trim_trim, onChars]
    simp [prepare, isAllBlank_trim, hblank, htrim]

/-- Preparation does not look at what a survey completes. -/
lemma prepare_completed (settings : Settings) (config : Configuration) (findings : Findings)
    (models : List Schema.Model) :
    prepare settings (completed config findings models) =
      (prepare settings config).map (completed · findings models) := by
  have hurl : (completed config findings models).baseUrl = config.baseUrl := rfl
  by_cases hblank : isAllBlank config.baseUrl
  · rw [prepare, prepare, hurl, if_pos hblank, if_pos hblank]
    rfl
  · rw [prepare, prepare, hurl, if_neg hblank, if_neg hblank]
    rfl

lemma prepare_again {settings : Settings} {config prepared : Configuration}
    (h : prepare settings config = .ok prepared) (findings : Findings)
    (models : List Schema.Model) :
    prepare settings (completed prepared findings models) =
      .ok (completed prepared findings models) := by
  rw [prepare_completed, prepare_prepare h, Except.map]

/-! ## Surveys -/

variable {reply : String → Reply} {settings : Settings} {config : Configuration}

lemma isComposed_survey (settings : Settings) (config : Configuration) :
    IsComposed (survey settings config) :=
  (isComposed_connectivity _ _).bind fun _ =>
    (isComposed_discover _ _ _).bind fun _ =>
      (isComposed_inferModels _ _ _ _).attempt.bind fun _ => .pure _

lemma answer_discover_eq_ok_iff {timeout : Int} {baseUrl : String} {known endpoints : List Endpoint} :
    answer reply (discover timeout baseUrl known) = .ok endpoints ↔
      ∃ documented found,
        answer reply (fromDocument timeout (withoutSlashes baseUrl)) = .ok documented ∧
        answer reply (fromCommonPaths timeout (withoutSlashes baseUrl)) = .ok found ∧
        endpoints = complete (known ++ documented ++ found) := by
  have hpaths : ∀ documented, IsComposed (do
      let found ← fromCommonPaths timeout (withoutSlashes baseUrl)
      return complete (known ++ documented ++ found)) := fun _ =>
    (isComposed_fromCommonPaths _ _).bind fun _ => .pure _
  rw [discover, answer_bind_eq_ok_iff _ hpaths]
  simp only [answer_bind_eq_ok_iff _ fun _ => IsComposed.pure _, answer_pure, Except.ok.injEq,
    exists_and_left, eq_comm]

/-- Discovery finds the same endpoints when it has found them before. -/
lemma discover_again {timeout : Int} {baseUrl : String} {known endpoints : List Endpoint}
    (h : answer reply (discover timeout baseUrl known) = .ok endpoints) :
    answer reply (discover timeout baseUrl endpoints) = .ok endpoints := by
  obtain ⟨documented, found, hdocument, hpaths, rfl⟩ := answer_discover_eq_ok_iff.1 h
  refine answer_discover_eq_ok_iff.2 ⟨documented, found, hdocument, hpaths, ?_⟩
  rw [List.append_assoc (complete _), Endpoint.complete_complete_append]
  intro k hk
  rw [List.append_assoc, Endpoint.keys_append]
  exact List.mem_append_right _ hk

/-- A survey ends with the probe, with the endpoints that discovery finds and with the models that are
inferred for them. -/
lemma answer_survey_eq_ok_iff {findings : Findings} :
    answer reply (survey settings config) = .ok findings ↔
      answer reply (connectivity settings.timeout config.baseUrl) = .ok findings.connectivity ∧
      answer reply (discover settings.timeout config.baseUrl config.endpoints) =
        .ok findings.endpoints ∧
      answer reply (inferModels settings.timeout settings.maxSamples config.baseUrl
        findings.endpoints) = findings.models := by
  have hmodels : ∀ probe endpoints, IsComposed (do
      let models ← attempt
        (inferModels settings.timeout settings.maxSamples config.baseUrl endpoints)
      return (⟨probe, endpoints, models⟩ : Findings)) := fun _ _ =>
    (isComposed_inferModels _ _ _ _).attempt.bind fun _ => .pure _
  rw [survey, answer_bind_eq_ok_iff _ fun _ => (isComposed_discover _ _ _).bind fun _ => hmodels _ _]
  simp only [answer_bind_eq_ok_iff _ fun _ => hmodels _ _,
    answer_bind_eq_ok_iff _ fun _ => IsComposed.pure _, answer_pure, answer_attempt,
    Except.ok.injEq]
  constructor
  · rintro ⟨probe, hprobe, endpoints, hfound, _, rfl, rfl⟩
    exact ⟨hprobe, hfound, rfl⟩
  · rintro ⟨hprobe, hfound, hmodels⟩
    exact ⟨_, hprobe, _, hfound, _, hmodels, rfl⟩

/-- A survey from what a survey has found finds the same. -/
lemma survey_again {findings : Findings}
    (h : answer reply (survey settings config) = .ok findings)
    (models : List Schema.Model) :
    answer reply (survey settings (completed config findings models)) = .ok findings := by
  obtain ⟨hprobe, hfound, hmodels⟩ := answer_survey_eq_ok_iff.1 h
  exact answer_survey_eq_ok_iff.2 ⟨hprobe, discover_again hfound, hmodels⟩

/-! ## Schemas -/

section Schemas

variable {schemas : List (String × Schema.Model)} {models : List Schema.Model}

lemma isSome_lookup_addSchema (schemas : List (String × Schema.Model)) (model : Schema.Model)
    (name : String) :
    ((Configuration.addSchema schemas model).lookup name).isSome ↔
      (schemas.lookup name).isSome ∨ name = model.name := by
  unfold Configuration.addSchema
  split
  · next hthere =>
    exact ⟨Or.inl, fun h => h.elim id fun heq => heq ▸ hthere⟩
  · by_cases heq : name = model.name <;> simp [List.lookup_append, heq]

lemma isSome_lookup_addSchemas (schemas : List (String × Schema.Model)) (models : List Schema.Model)
    (name : String) :
    ((addSchemas schemas models).lookup name).isSome ↔
      (schemas.lookup name).isSome ∨ ∃ model ∈ models, name = model.name := by
  induction models generalizing schemas with
  | nil => simp [addSchemas]
  | cons model rest ih =>
    rw [addSchemas, List.foldl_cons]
    have hrest := ih (Configuration.addSchema schemas model)
    rw [addSchemas, isSome_lookup_addSchema] at hrest
    simp [hrest, or_assoc]

lemma addSchemas_eq_self (h : ∀ model ∈ models, (schemas.lookup model.name).isSome) :
    addSchemas schemas models = schemas := by
  induction models with
  | nil => rfl
  | cons model rest ih =>
    obtain ⟨hmodel, hrest⟩ := List.forall_mem_cons.1 h
    rw [addSchemas, List.foldl_cons, Configuration.addSchema, if_pos hmodel]
    exact ih hrest

/-- Models that have been added are there. -/
lemma addSchemas_again (schemas : List (String × Schema.Model)) (models : List Schema.Model) :
    addSchemas (addSchemas schemas models) models = addSchemas schemas models :=
  addSchemas_eq_self fun model hmodel =>
    (isSome_lookup_addSchemas schemas models model.name).2 (.inr ⟨model, hmodel, rfl⟩)

end Schemas

/-! ## Runs -/

lemma completed_completed (prepared : Configuration) (findings : Findings)
    (models : List Schema.Model) :
    completed (completed prepared findings models) findings models =
      completed prepared findings models := by
  simp only [completed, addSchemas_again]

section Runs

variable {writer : ContractWriter} {network : Network} {withReport : Bool} {journal : Journal}
  {tree : FileTree} {summary : Summary}

/-- A build that succeeds has generated files and delivered them. -/
lemma exists_delivered {connectivity : Probe}
    (h : (build writer withReport connectivity config journal tree).result = .ok summary) :
    ∃ files written last, Generation.generate writer config = .ok files ∧
      deliver withReport config files tree = (.ok written, last) := by
  unfold build at h
  split at h
  · cases h
  · next files hgenerate =>
    split at h
    · cases h
    · next written last hdeliver => exact ⟨files, written, last, hgenerate, hdeliver⟩

/-- What a build leaves behind that has delivered its files. -/
lemma build_eq {connectivity : Probe} {files : List SourceFile} {written : Nat} {last : FileTree}
    (hgenerate : Generation.generate writer config = .ok files)
    (hdeliver : deliver withReport config files tree = (.ok written, last)) :
    build writer withReport connectivity config journal tree =
      { result := .ok
          { endpointsFound := config.endpoints.length
            schemasInferred := config.schemas.length
            filesWritten := written
            outputPath := config.outputPath
            connectivity }
        config, journal, tree := last } := by
  simp only [build, hgenerate, hdeliver]

/-- A run that succeeds has prepared its configuration and ended its survey without a crash. -/
lemma exists_surveyed
    (h : (run writer (byUrl reply) settings withReport config journal tree).result = .ok summary) :
    ∃ prepared findings models, prepare settings config = .ok prepared ∧
      answer reply (survey settings prepared) = .ok findings ∧ findings.models = .ok models := by
  unfold run at h
  rcases hprepare : prepare settings config with fault | prepared
  · simp [hprepare] at h
  have hanswer := (isComposed_survey settings prepared).result_eq_answer reply journal.sent
  rcases hsurvey : survey settings prepared (byUrl reply) journal.sent with ⟨crash | findings, sent⟩
  · simp [hprepare, inSession, hsurvey] at h
  rcases hmodels : findings.models with crash | models
  · simp [hprepare, inSession, hsurvey, hmodels] at h
  rw [hsurvey] at hanswer
  exact ⟨prepared, findings, models, rfl, hanswer.symm, hmodels⟩

variable (writer withReport tree) in
/-- The stages of a run before the build. -/
lemma run_eq_build {prepared : Configuration} {findings : Findings} {models : List Schema.Model}
    (hprepare : prepare settings config = .ok prepared)
    (hsurvey : answer reply (survey settings prepared) = .ok findings)
    (hmodels : findings.models = .ok models) (journal : Journal) :
    ∃ later, run writer (byUrl reply) settings withReport config journal tree =
      build writer withReport findings.connectivity (completed prepared findings models) later tree := by
  have hanswer := (isComposed_survey settings prepared).result_eq_answer reply journal.sent
  rcases hlog : survey settings prepared (byUrl reply) journal.sent with ⟨result, sent⟩
  obtain rfl : result = .ok findings := by rw [hlog] at hanswer; exact hanswer.trans hsurvey
  simp only [run, hprepare, inSession, hlog, hmodels]
  exact ⟨_, rfl⟩

/-- A run from where a run has ended has the same summary, and leaves everything as it is. -/
theorem run_again (hnetwork : AnswersByUrl network)
    (h : (run writer network settings withReport config journal tree).result = .ok summary) :
    let first := run writer network settings withReport config journal tree
    ∀ later : Journal,
      let second := run writer network settings withReport first.config later first.tree
      second.result = .ok summary ∧ second.config = first.config ∧
        ∀ path, second.tree.node? path = first.tree.node? path := by
  intro first later second
  obtain ⟨reply, rfl⟩ := hnetwork.exists_eq_byUrl
  obtain ⟨prepared, findings, models, hprepare, hsurvey, hmodels⟩ := exists_surveyed h
  obtain ⟨log, hfirst⟩ := run_eq_build writer withReport tree hprepare hsurvey hmodels journal
  rw [hfirst] at h
  obtain ⟨files, written, last, hgenerate, hdeliver⟩ := exists_delivered h
  rw [build_eq hgenerate hdeliver] at hfirst h
  obtain ⟨last', hdeliver', hkeep⟩ := deliver_again hdeliver
  obtain ⟨log', hsecond⟩ := run_eq_build writer withReport last
    (prepare_again hprepare _ _) (survey_again hsurvey _) hmodels later
  rw [completed_completed, build_eq hgenerate hdeliver'] at hsecond
  simp only [second, first, hfirst, hsecond, true_and]
  exact ⟨h, hkeep⟩

/-- An API with a document that lists users, and with two of them. -/
def usersScript : Script where
  routes := [
    ("https://shop.example/openapi.json",
      [.answered { body := "\x7b\"paths\": \x7b\"/users\": \x7b\"get\": \x7b\x7d\x7d\x7d\x7d" }]),
    ("https://shop.example/users",
      [.answered { body := "[\x7b\"id\": 1, \"name\": \"Ann\"\x7d, \x7b\"id\": 2, \"name\": \"Bo\"\x7d]" }])]

/-- All that is known beforehand, with a blank behind it. -/
def usersConfig : Configuration where
  baseUrl := "https://shop.example "

/-- What a run says that has found the users: six endpoints and one schema, with six files beside the
report. -/
def usersSummary : Summary where
  endpointsFound := 6
  schemasInferred := 1
  filesWritten := 6
  outputPath := "generated/shop_client"
  connectivity := { isSuccess := true, statusCode := 404, content := some "" }

/-- Users are found once and for all. -/
theorem run_users_again :
    AnswersByUrl usersScript.network ∧
      (run standardWriter usersScript.network {} true usersConfig {} {}).result = .ok usersSummary ∧
      let first := run standardWriter usersScript.network {} true usersConfig {} {}
      let second := run standardWriter usersScript.network {} true first.config first.journal first.tree
      second.result = .ok usersSummary ∧ second.config = first.config ∧
        ∀ path, second.tree.node? path = first.tree.node? path := by
  have hnetwork : AnswersByUrl usersScript.network :=
    answersByUrl_network (by simp [usersScript])
  have hfirst : (run standardWriter usersScript.network {} true usersConfig {} {}).result =
      .ok usersSummary := by
    decide +kernel
  exact ⟨hnetwork, hfirst, run_again hnetwork hfirst _⟩

end Runs

end RestConnector.Run
