import RestConnector.Proofs.Run.Course

/-!
# Runs and credentials

Credentials are presented to the API, and go nowhere else: nothing that a run asks for, writes or says
depends on them.  Two runs whose configurations differ in their credentials alone take the same course
(`Course.exists_withCredentials`), provided that the network does not tell them apart, which it cannot do
here because it only gets to see requests.  They can be told apart in the end by the credentials in their
configurations and by the sessions that have been opened with them, and by nothing else
(`run_agrees_withCredentials`).
-/

namespace RestConnector

open RestConnector.Disk RestConnector.Generation RestConnector.Survey

/-- A configuration with other credentials. -/
def Configuration.withCredentials (config : Configuration) (credentials : Credentials) :
    Configuration :=
  { config with credentials }

namespace Run

/-! ## Stages -/

section Stages

variable (settings : Settings) (config : Configuration) (credentials : Credentials)

lemma prepare_withCredentials :
    prepare settings (config.withCredentials credentials) =
      (prepare settings config).map (Configuration.withCredentials · credentials) := by
  by_cases hblank : Text.isAllBlank config.baseUrl
  · have hother : Text.isAllBlank (config.withCredentials credentials).baseUrl := hblank
    rw [prepare_of_blank settings hblank, prepare_of_blank settings hother]
    rfl
  · have hother : ¬ Text.isAllBlank (config.withCredentials credentials).baseUrl := hblank
    rw [prepare, prepare, if_neg hblank, if_neg hother]
    rfl

lemma survey_withCredentials :
    survey settings (config.withCredentials credentials) = survey settings config := rfl

lemma generate_withCredentials (writer : ContractWriter) :
    generate writer (config.withCredentials credentials) = generate writer config := rfl

lemma text_withCredentials :
    Report.text (config.withCredentials credentials) = Report.text config :=
  congrArg Json.pretty rfl

lemma deliver_withCredentials (withReport : Bool) (files : List SourceFile) :
    deliver withReport (config.withCredentials credentials) files =
      deliver withReport config files := by
  have houtput : (config.withCredentials credentials).outputPath = config.outputPath := rfl
  rw [deliver, deliver, Report.save, Report.save, text_withCredentials, houtput]

end Stages

/-! ## Runs -/

/-- Whether two outcomes can be told apart only by credentials, and by sessions that were opened with
them. -/
structure AgreesButForCredentials (outcome other : Outcome) : Prop where
  result : outcome.result = other.result
  config : ∀ credentials,
    outcome.config.withCredentials credentials = other.config.withCredentials credentials
  sent : outcome.journal.sent = other.journal.sent
  opened : outcome.journal.opened.length = other.journal.opened.length
  closed : outcome.journal.closed = other.journal.closed
  tree : outcome.tree = other.tree

lemma AgreesButForCredentials.of_sessions (result : Except RunFault Summary) (config : Configuration)
    (credentials : Credentials) (journal : Journal) (session other : Session) (sent : List Request)
    (tree : FileTree) :
    AgreesButForCredentials
      { result, config, journal := afterSession journal session sent, tree }
      { result, config := config.withCredentials credentials
        journal := afterSession journal other sent, tree } where
  result := rfl
  config _ := rfl
  sent := rfl
  opened := by simp [afterSession]
  closed := rfl
  tree := rfl

section Runs

variable {writer : ContractWriter} {network : Network} {settings : Settings} {withReport : Bool}
  {config : Configuration} {journal : Journal} {tree : FileTree}

/-- The course that is open does not depend on credentials. -/
lemma Course.exists_withCredentials {outcome : Outcome}
    (h : Course writer network settings withReport config journal tree outcome)
    (credentials : Credentials) :
    ∃ other, Course writer network settings withReport (config.withCredentials credentials) journal
      tree other ∧ AgreesButForCredentials outcome other := by
  have hprepared {prepared : Configuration} (hprepare : prepare settings config = .ok prepared) :
      prepare settings (config.withCredentials credentials) =
        .ok (prepared.withCredentials credentials) := by
    rw [prepare_withCredentials, hprepare]
    rfl
  cases h with
  | unprepared hblank houtcome =>
    subst houtcome
    exact ⟨_, .unprepared hblank rfl, ⟨rfl, fun _ => rfl, rfl, rfl, rfl, rfl⟩⟩
  | lost hprepare hsurvey houtcome =>
    subst houtcome
    rw [← survey_withCredentials _ _ credentials] at hsurvey
    exact ⟨_, .lost (hprepared hprepare) hsurvey rfl, .of_sessions _ _ _ _ _ _ _ _⟩
  | unsampled hprepare hsurvey hmodels houtcome =>
    subst houtcome
    rw [← survey_withCredentials _ _ credentials] at hsurvey
    exact ⟨_, .unsampled (hprepared hprepare) hsurvey hmodels rfl, .of_sessions _ _ _ _ _ _ _ _⟩
  | ungenerated hprepare hsurvey hmodels hgenerate houtcome =>
    subst houtcome
    rw [← survey_withCredentials _ _ credentials] at hsurvey
    rw [← generate_withCredentials _ credentials] at hgenerate
    exact ⟨_, .ungenerated (hprepared hprepare) hsurvey hmodels hgenerate rfl,
      .of_sessions _ _ _ _ _ _ _ _⟩
  | unwritten hprepare hsurvey hmodels hgenerate hdeliver houtcome =>
    subst houtcome
    rw [← survey_withCredentials _ _ credentials] at hsurvey
    rw [← generate_withCredentials _ credentials] at hgenerate
    rw [← deliver_withCredentials _ credentials] at hdeliver
    exact ⟨_, .unwritten (hprepared hprepare) hsurvey hmodels hgenerate hdeliver rfl,
      .of_sessions _ _ _ _ _ _ _ _⟩
  | delivered hprepare hsurvey hmodels hgenerate hdeliver houtcome =>
    subst houtcome
    rw [← survey_withCredentials _ _ credentials] at hsurvey
    rw [← generate_withCredentials _ credentials] at hgenerate
    rw [← deliver_withCredentials _ credentials] at hdeliver
    exact ⟨_, .delivered (hprepared hprepare) hsurvey hmodels hgenerate hdeliver rfl,
      .of_sessions _ _ _ _ _ _ _ _⟩

/-- Two runs with different credentials ask for the same, end in the same way and leave the same files. -/
theorem run_agrees_withCredentials (writer : ContractWriter) (network : Network) (settings : Settings)
    (withReport : Bool) (config : Configuration) (first second : Credentials) (journal : Journal)
    (tree : FileTree) :
    AgreesButForCredentials
      (run writer network settings withReport (config.withCredentials first) journal tree)
      (run writer network settings withReport (config.withCredentials second) journal tree) := by
  have hcourse := course_run writer network settings withReport (config.withCredentials first) journal
    tree
  obtain ⟨other, hother, hagrees⟩ := hcourse.exists_withCredentials second
  rw [hother.eq_run] at hagrees
  exact hagrees

end Runs

end Run

end RestConnector
