import RestConnector.Proofs.Run.Repetition
import RestConnector.Proofs.Run.Requests

/-!
# The course of a run

A run can end in six ways, and what it leaves behind is settled by the way in which it ends: there is no
base URL; the survey crashes, before its endpoints are known or while models are inferred; nothing can be
generated; a file cannot be written; or all goes well (`Course`).  Every statement about runs is a matter of
looking at these six cases (`course_run`).

Whoever gives a base URL gets a prepared configuration that differs from the given one in its names alone
and in that the base URL is trimmed (`prepare_frame`), and a session of his own, which is closed when the
survey is over.  With a network that does nothing unexpected the survey ends with models, and the run goes
on to the build, so that only the last three cases are left (`exists_run_eq_build`).
-/

namespace RestConnector.Run

open RestConnector.Disk RestConnector.Generation RestConnector.Survey RestConnector.Survey.Exchange
  RestConnector.Text

/-! ## Preparation -/

section Preparation

variable {settings : Settings} {config prepared : Configuration}

lemma prepare_of_blank (settings : Settings) (h : isAllBlank config.baseUrl) :
    prepare settings config = .error .noBaseUrl := by
  rw [prepare, if_pos h]

lemma exists_prepare (settings : Settings) (h : ¬ isAllBlank config.baseUrl) :
    ∃ prepared, prepare settings config = .ok prepared := by
  rw [prepare, if_neg h]
  exact ⟨_, rfl⟩

/-- Preparation fills in names and trims the base URL, and does nothing else. -/
lemma prepare_frame (h : prepare settings config = .ok prepared) :
    ∃ apiName packageName outputPath, prepared =
      { config with baseUrl := onChars trim config.baseUrl, apiName, packageName, outputPath } :=
  ⟨_, _, _, eq_of_prepare h⟩

end Preparation

/-! ## Sessions -/

/-- A journal after a dealing that had a session of its own. -/
def afterSession (journal : Journal) (session : Session) (sent : List Request) : Journal where
  opened := journal.opened ++ [session]
  sent := sent
  closed := journal.closed + 1

lemma inSession_eq {α : Type} (exchange : Exchange α) (session : Session) (network : Network)
    (journal : Journal) :
    exchange.inSession session network journal =
      ((exchange network journal.sent).1,
        afterSession journal session (exchange network journal.sent).2) := rfl

/-! ## Surveys -/

/-- Without crashes a survey gets through all of its stages, one after the other. -/
lemma exists_survey {network : Network} (h : NeverCrashes network) (settings : Settings)
    (config : Configuration) (sent : List Request) :
    ∃ probe endpoints models first second last,
      connectivity settings.timeout config.baseUrl network sent = (.ok probe, first) ∧
      discover settings.timeout config.baseUrl config.endpoints network first =
        (.ok endpoints, second) ∧
      inferModels settings.timeout settings.maxSamples config.baseUrl endpoints network second =
        (.ok models, last) ∧
      survey settings config network sent =
        (.ok { connectivity := probe, endpoints, models := .ok models }, last) := by
  obtain ⟨probe, first, hprobe⟩ :=
    (isComposed_connectivity settings.timeout config.baseUrl).completes h sent
  obtain ⟨endpoints, second, hfound⟩ :=
    (isComposed_discover settings.timeout config.baseUrl config.endpoints).completes h first
  obtain ⟨models, last, hmodels⟩ :=
    (isComposed_inferModels settings.timeout settings.maxSamples config.baseUrl endpoints).completes
      h second
  refine ⟨probe, endpoints, models, first, second, last, hprobe, hfound, hmodels, ?_⟩
  simp only [survey, bind_apply, hprobe, hfound, attempt, hmodels, pure_apply]

/-! ## Runs -/

section Runs

variable (writer : ContractWriter) (network : Network) (settings : Settings) (withReport : Bool)
  (config : Configuration) (journal : Journal) (tree : FileTree)

variable {settings config} in
/-- A run whose survey has ended with models goes on to the build. -/
lemma run_of_survey {prepared : Configuration} {findings : Findings} {models : List Schema.Model}
    {sent : List Request} (hprepare : prepare settings config = .ok prepared)
    (hsurvey : survey settings prepared network journal.sent = (.ok findings, sent))
    (hmodels : findings.models = .ok models) :
    run writer network settings withReport config journal tree =
      build writer withReport findings.connectivity (completed prepared findings models)
        (afterSession journal (Session.create prepared.credentials settings) sent) tree := by
  simp only [run, hprepare, inSession_eq, hsurvey, hmodels, completed]

variable {network config} in
/-- Without crashes, a run that has a base URL gets as far as the build. -/
lemma exists_run_eq_build (hblank : ¬ isAllBlank config.baseUrl) (hnetwork : NeverCrashes network) :
    let url := onChars trim config.baseUrl
    ∃ prepared probe endpoints models first second last,
      prepare settings config = .ok prepared ∧
      connectivity settings.timeout url network journal.sent = (.ok probe, first) ∧
      discover settings.timeout url config.endpoints network first = (.ok endpoints, second) ∧
      inferModels settings.timeout settings.maxSamples url endpoints network second =
        (.ok models, last) ∧
      run writer network settings withReport config journal tree =
        build writer withReport probe
          { prepared with endpoints, schemas := addSchemas prepared.schemas models }
          (afterSession journal (Session.create prepared.credentials settings) last) tree := by
  intro url
  obtain ⟨prepared, hprepare⟩ := exists_prepare settings hblank
  obtain ⟨hurl, hendpoints⟩ := prepare_ok hprepare
  obtain ⟨probe, endpoints, models, first, second, last, hprobe, hfound, hmodels, hsurvey⟩ :=
    exists_survey hnetwork settings prepared journal.sent
  rw [hurl] at hprobe hfound hmodels
  rw [hendpoints] at hfound
  exact ⟨prepared, probe, endpoints, models, first, second, last, hprepare, hprobe, hfound, hmodels,
    run_of_survey writer network withReport journal tree hprepare hsurvey rfl⟩

/-- How a run can go, and what it leaves behind then. -/
inductive Course (outcome : Outcome) : Prop
  /-- There is no base URL, and nothing is done. -/
  | unprepared (hblank : isAllBlank config.baseUrl)
    (houtcome : outcome = { result := .error .noBaseUrl, config, journal, tree })
  /-- The survey has crashed before its endpoints were known. -/
  | lost {prepared : Configuration} {crash : String} {sent : List Request}
    (hprepare : prepare settings config = .ok prepared)
    (hsurvey : survey settings prepared network journal.sent = (.error crash, sent))
    (houtcome : outcome =
      { result := .error (.crashed crash)
        config := prepared
        journal := afterSession journal (Session.create prepared.credentials settings) sent
        tree })
  /-- The survey has crashed while models were inferred. -/
  | unsampled {prepared : Configuration} {findings : Findings} {crash : String} {sent : List Request}
    (hprepare : prepare settings config = .ok prepared)
    (hsurvey : survey settings prepared network journal.sent = (.ok findings, sent))
    (hmodels : findings.models = .error crash)
    (houtcome : outcome =
      { result := .error (.crashed crash)
        config := { prepared with endpoints := findings.endpoints }
        journal := afterSession journal (Session.create prepared.credentials settings) sent
        tree })
  /-- Nothing could be generated. -/
  | ungenerated {prepared : Configuration} {findings : Findings} {models : List Schema.Model}
    {sent : List Request} {message : String}
    (hprepare : prepare settings config = .ok prepared)
    (hsurvey : survey settings prepared network journal.sent = (.ok findings, sent))
    (hmodels : findings.models = .ok models)
    (hgenerate : generate writer (completed prepared findings models) = .error message)
    (houtcome : outcome =
      { result := .error (.generationFailed message)
        config := completed prepared findings models
        journal := afterSession journal (Session.create prepared.credentials settings) sent
        tree })
  /-- A file could not be written; what was written before it is there. -/
  | unwritten {prepared : Configuration} {findings : Findings} {models : List Schema.Model}
    {sent : List Request} {files : List SourceFile} {fault : Fault} {last : FileTree}
    (hprepare : prepare settings config = .ok prepared)
    (hsurvey : survey settings prepared network journal.sent = (.ok findings, sent))
    (hmodels : findings.models = .ok models)
    (hgenerate : generate writer (completed prepared findings models) = .ok files)
    (hdeliver : deliver withReport (completed prepared findings models) files tree =
      (.error fault, last))
    (houtcome : outcome =
      { result := .error (.notWritten fault)
        config := completed prepared findings models
        journal := afterSession journal (Session.create prepared.credentials settings) sent
        tree := last })
  /-- Everything is there. -/
  | delivered {prepared : Configuration} {findings : Findings} {models : List Schema.Model}
    {sent : List Request} {files : List SourceFile} {written : Nat} {last : FileTree}
    (hprepare : prepare settings config = .ok prepared)
    (hsurvey : survey settings prepared network journal.sent = (.ok findings, sent))
    (hmodels : findings.models = .ok models)
    (hgenerate : generate writer (completed prepared findings models) = .ok files)
    (hdeliver : deliver withReport (completed prepared findings models) files tree =
      (.ok written, last))
    (houtcome : outcome =
      { result := .ok
          { endpointsFound := findings.endpoints.length
            schemasInferred := (addSchemas prepared.schemas models).length
            filesWritten := written
            outputPath := prepared.outputPath
            connectivity := findings.connectivity }
        config := completed prepared findings models
        journal := afterSession journal (Session.create prepared.credentials settings) sent
        tree := last })

/-- One of the six courses is always open. -/
lemma exists_course :
    ∃ outcome, Course writer network settings withReport config journal tree outcome := by
  by_cases hblank : isAllBlank config.baseUrl
  · exact ⟨_, .unprepared hblank rfl⟩
  obtain ⟨prepared, hprepare⟩ := exists_prepare settings hblank
  rcases hsurvey : survey settings prepared network journal.sent with ⟨crash | findings, sent⟩
  · exact ⟨_, .lost hprepare hsurvey rfl⟩
  rcases hmodels : findings.models with crash | models
  · exact ⟨_, .unsampled hprepare hsurvey hmodels rfl⟩
  rcases hgenerate : generate writer (completed prepared findings models) with message | files
  · exact ⟨_, .ungenerated hprepare hsurvey hmodels hgenerate rfl⟩
  rcases hdeliver : deliver withReport (completed prepared findings models) files tree with
    ⟨fault | written, last⟩
  · exact ⟨_, .unwritten hprepare hsurvey hmodels hgenerate hdeliver rfl⟩
  · exact ⟨_, .delivered hprepare hsurvey hmodels hgenerate hdeliver rfl⟩

variable {writer network settings withReport config journal tree} in
/-- Whatever course is open, it is the one that the run takes. -/
lemma Course.eq_run {outcome : Outcome}
    (h : Course writer network settings withReport config journal tree outcome) :
    outcome = run writer network settings withReport config journal tree := by
  cases h with
  | unprepared hblank houtcome => simp only [houtcome, run, prepare_of_blank settings hblank]
  | lost hprepare hsurvey houtcome => simp only [houtcome, run, hprepare, inSession_eq, hsurvey]
  | unsampled hprepare hsurvey hmodels houtcome =>
    simp only [houtcome, run, hprepare, inSession_eq, hsurvey, hmodels]
  | ungenerated hprepare hsurvey hmodels hgenerate houtcome =>
    rw [run_of_survey writer network withReport journal tree hprepare hsurvey hmodels]
    simp only [houtcome, build, hgenerate]
  | unwritten hprepare hsurvey hmodels hgenerate hdeliver houtcome =>
    rw [run_of_survey writer network withReport journal tree hprepare hsurvey hmodels]
    simp only [houtcome, build, hgenerate, hdeliver]
  | delivered hprepare hsurvey hmodels hgenerate hdeliver houtcome =>
    rw [run_of_survey writer network withReport journal tree hprepare hsurvey hmodels,
      build_eq hgenerate hdeliver]
    exact houtcome

/-- Every run takes one of the six courses. -/
theorem course_run :
    Course writer network settings withReport config journal tree
      (run writer network settings withReport config journal tree) := by
  obtain ⟨outcome, hcourse⟩ := exists_course writer network settings withReport config journal tree
  rwa [hcourse.eq_run] at hcourse

end Runs

end RestConnector.Run
