import RestConnector.Proofs.CommandLine.Calls
import RestConnector.Proofs.Survey.Probes

/-!
# Probing

The command `probe` combines two probes that succeed in different ways: any answer shows that an API can be
reached, but credentials are accepted only where there is no error.  Its status tells whether all probes that were
made have succeeded (`IsProbed`); what they have asked for is told by the two probes one after the other.

The session of the command is a matter of its own.  Probing neither opens nor closes one (`keepsSessions_probeAll`),
so the one in which it takes place is opened and closed once, whether it ends with a result or with a crash
(`session_probe`).
-/

namespace RestConnector.CommandLine

open RestConnector.Survey RestConnector.Survey.Exchange

/-! ## Sessions -/

/-- Whether an interaction neither opens nor closes a session, however it ends. -/
def KeepsSessions {α : Type} (interaction : Interaction α) : Prop :=
  ∀ network console, (interaction network console).2.journal.opened = console.journal.opened ∧
    (interaction network console).2.journal.closed = console.journal.closed

section Sessions

variable {α β : Type}

lemma keepsSessions_pure (a : α) : KeepsSessions (pure a) :=
  fun _ _ => ⟨rfl, rfl⟩

lemma keepsSessions_say (line : String) : KeepsSessions (Interaction.say line) :=
  fun _ _ => ⟨rfl, rfl⟩

lemma keepsSessions_ask (exchange : Exchange α) : KeepsSessions (Interaction.ask exchange) :=
  fun _ _ => ⟨rfl, rfl⟩

lemma KeepsSessions.bind {interaction : Interaction α} {next : α → Interaction β}
    (h : KeepsSessions interaction) (hnext : ∀ a, KeepsSessions (next a)) :
    KeepsSessions (interaction >>= next) := by
  intro network console
  obtain ⟨hopened, hclosed⟩ := h network console
  rw [Interaction.bind_apply]
  rcases hrun : interaction network console with ⟨ending | a, after⟩
  · rw [hrun] at hopened hclosed
    exact ⟨hopened, hclosed⟩
  · rw [hrun] at hopened hclosed
    obtain ⟨hopened', hclosed'⟩ := hnext a network after
    exact ⟨hopened'.trans hopened, hclosed'.trans hclosed⟩

lemma keepsSessions_probeAll (timeout : Int) (baseUrl : String) (checkAuth : Bool) :
    KeepsSessions (probeAll timeout baseUrl checkAuth) := by
  refine (keepsSessions_ask _).bind fun reached => (keepsSessions_say _).bind fun _ => ?_
  cases checkAuth with
  | false => exact keepsSessions_pure _
  | true =>
    exact (keepsSessions_ask _).bind fun accepted => (keepsSessions_say _).bind fun _ =>
      keepsSessions_pure _

/-- The session of an interaction that keeps to it is opened and closed once. -/
lemma journal_inSession {interaction : Interaction α} (h : KeepsSessions interaction)
    (session : Session) (network : Network) (console : Console) :
    let journal := (Interaction.inSession session interaction network console).2.journal
    journal.opened = console.journal.opened ++ [session] ∧
      journal.closed = console.journal.closed + 1 := by
  obtain ⟨hopened, hclosed⟩ :=
    h network { console with journal := console.journal.openSession session }
  exact ⟨hopened, congrArg (· + 1) hclosed⟩

end Sessions

/-! ## The command -/

section Command

variable {settings : Settings} {reading : Reading} {baseUrl : String} {network : Network}
  {console : Console}

/-- Whether it went well is decided when the session is over. -/
lemma probe_eq :
    probe settings reading baseUrl network console =
      match Interaction.inSession (Session.create reading.credentials settings)
        (probeAll settings.timeout baseUrl (reading.has .checkAuth)) network console with
      | (.ok wentWell, after) => (if wentWell then .ok () else .error (.exited 1), after)
      | (.error ending, after) => (.error ending, after) := by
  rw [probe, Interaction.bind_apply]
  rcases Interaction.inSession (Session.create reading.credentials settings)
    (probeAll settings.timeout baseUrl (reading.has .checkAuth)) network console with ⟨ending | wentWell, after⟩
  · rfl
  · cases wentWell <;> rfl

/-- However the command ends, it has opened one session and closed it. -/
lemma session_probe (settings : Settings) (reading : Reading) (baseUrl : String) (network : Network)
    (console : Console) :
    let journal := (probe settings reading baseUrl network console).2.journal
    journal.opened = console.journal.opened ++ [Session.create reading.credentials settings] ∧
      journal.closed = console.journal.closed + 1 := by
  have hsession := journal_inSession
    (keepsSessions_probeAll settings.timeout baseUrl (reading.has .checkAuth))
    (Session.create reading.credentials settings) network console
  rw [probe_eq]
  split
  · next heq => rwa [heq] at hsession
  · next heq => rwa [heq] at hsession

/-- When a dealing has ended with a result, that is shown, and what follows goes on with what has been asked
for. -/
lemma exists_ask_say {α β : Type} {exchange : Exchange α} {a : α} {log : List Request}
    (h : exchange network console.journal.sent = (.ok a, log)) (line : α → String)
    (next : α → Interaction β) :
    ∃ after, after.journal.sent = log ∧
      (do
        let a ← Interaction.ask exchange
        Interaction.say (line a)
        next a : Interaction β) network console = next a network after := by
  have hask : Interaction.ask exchange network console =
      (.ok a, { console with journal := { console.journal with sent := log } }) := by
    rw [Interaction.ask, h]
    rfl
  rw [Interaction.bind_of_ok hask, Interaction.bind_of_ok rfl]
  exact ⟨_, rfl, rfl⟩

/-- Without crashes, `probeAll` goes from the one probe to the other, and tells whether both have succeeded that
were made. -/
lemma probeAll_outcome (h : NeverCrashes network) (timeout : Int) (baseUrl : String) (checkAuth : Bool)
    (console : Console) :
    let first : Request := { url := baseUrl, timeout }
    ∃ tried wentWell after,
      probeAll timeout baseUrl checkAuth network console = (.ok wentWell, after) ∧
      after.journal.sent =
        console.journal.sent ++ first :: tried.map (Request.ofPath timeout "") ∧
      (checkAuth = false → tried = []) ∧
      (checkAuth = true → IsSearch network (console.journal.sent ++ [first]) timeout ""
        (credentialUrls baseUrl) tried) ∧
      (wentWell = true ↔ IsAnswered network console.journal.sent first ∧ (checkAuth = true →
        SomeAnsweredOk network (console.journal.sent ++ [first]) timeout tried)) := by
  intro first
  obtain ⟨reached, hconnect, hreached⟩ :=
    connectivity_outcome h timeout baseUrl console.journal.sent
  obtain ⟨between, hsent, hrun⟩ := exists_ask_say hconnect reachability fun reached =>
    if checkAuth then do
      let accepted ← Interaction.ask (credentials timeout baseUrl)
      Interaction.say (acceptance accepted)
      return reached.isSuccess && accepted.isSuccess
    else return reached.isSuccess
  rw [probeAll, hrun]
  cases checkAuth with
  | false =>
    refine ⟨[], reached.isSuccess, between, rfl, hsent, fun _ => rfl, nofun, ?_⟩
    rw [hreached]
    exact (and_iff_left nofun).symm
  | true =>
    obtain ⟨tried, accepted, hsearch, hcredentials, haccepted⟩ :=
      credentials_outcome h timeout baseUrl (console.journal.sent ++ [first])
    rw [← hsent] at hcredentials
    obtain ⟨after, hlog, hrun'⟩ := exists_ask_say hcredentials acceptance fun accepted =>
      return reached.isSuccess && accepted.isSuccess
    refine ⟨tried, reached.isSuccess && accepted.isSuccess, after, hrun', ?_, nofun, fun _ => hsearch, ?_⟩
    · rw [hlog, hsent, List.append_assoc, List.singleton_append]
    · rw [Bool.and_eq_true, hreached, haccepted]
      exact and_congr_right' ⟨fun hsome _ => hsome, fun hsome => hsome rfl⟩

end Command

/-! ## The program -/

section Program

variable {settings : Settings} {reading : Reading} {baseUrl : String} {network : Network}
  {console : Console}

lemma journal_conclude (result : Except Ending Unit) (console : Console) :
    (conclude (result, console)).console.journal = console.journal := by
  cases result with
  | ok => rfl
  | error ending => cases ending <;> rfl

/-- Without crashes, the status of the command tells how its probes went. -/
lemma status_probe_of_run {wentWell : Bool} {after : Console}
    (hrun : probeAll settings.timeout baseUrl (reading.has .checkAuth) network
      { console with
        journal := console.journal.openSession (Session.create reading.credentials settings) } =
      (.ok wentWell, after)) :
    let conclusion := conclude (probe settings reading baseUrl network console)
    conclusion.console.journal.sent = after.journal.sent ∧ conclusion.breakdown = none ∧
      conclusion.status = if wentWell then 0 else 1 := by
  have hprobe : probe settings reading baseUrl network console =
      (if wentWell then .ok () else .error (.exited 1),
        { after with journal := after.journal.closeSession }) := by
    rw [probe_eq, Interaction.inSession, hrun]
  rw [hprobe]
  cases wentWell <;> exact ⟨rfl, rfl, rfl⟩

end Program

/-- Whether a run of the program has probed an API, and its credentials at some URLs if they were to be checked,
and has told by its status how that went. -/
structure IsProbed (network : Network) (timeout : Int) (baseUrl : String) (checkAuth : Bool)
    (conclusion : Conclusion) (tried : List String) : Prop where
  sent : conclusion.console.journal.sent =
    { url := baseUrl, timeout } :: tried.map (Request.ofPath timeout "")
  unchecked : checkAuth = false → tried = []
  /-- The URLs for credentials are tried in order, up to the first that is answered without an error. -/
  searched : checkAuth = true →
    IsSearch network [{ url := baseUrl, timeout }] timeout ""
      [baseUrl, withoutSlashes baseUrl ++ "/", withoutSlashes baseUrl ++ "/api",
        withoutSlashes baseUrl ++ "/health", withoutSlashes baseUrl ++ "/ping"] tried
  unbroken : conclusion.breakdown = none
  succeeds : conclusion.status = 0 ↔
    IsAnswered network [] { url := baseUrl, timeout } ∧ (checkAuth = true →
      SomeAnsweredOk network [{ url := baseUrl, timeout }] timeout tried)
  fails : conclusion.status ≠ 0 → conclusion.status = 1

/-- A proper call of `probe` opens one session and closes it, whatever the network does.  If the network does
nothing unexpected, the status of the program is 0 just if there is an answer at the base URL and, should
credentials be checked, one of the URLs tried for them is answered without an error; otherwise it is 1. -/
theorem probe_concludes {environment : List (String × String)} {settings : Settings}
    (hsettings : Settings.ofEnvironment environment = .ok settings) {words : List String}
    {reading : Reading} {baseUrl : String} (hcall : IsProbeCall words reading baseUrl) (typed : String)
    (network : Network) (tree : Disk.FileTree) :
    let conclusion := runProgram environment words typed network tree
    conclusion.console.journal.opened = [Session.create reading.credentials settings] ∧
      conclusion.console.journal.closed = 1 ∧
      (NeverCrashes network → ∃ tried,
        IsProbed network settings.timeout baseUrl (reading.has .checkAuth) conclusion tried) := by
  intro conclusion
  obtain ⟨level, hprogram⟩ := program_of_isProbeCall hsettings hcall network
    { typed := (typedLines typed.toList).map String.ofList, tree }
  set start : Console :=
    { typed := (typedLines typed.toList).map String.ofList, logLevel := some level, tree }
  have hconclusion : conclusion = conclude (probe settings reading baseUrl network start) :=
    congrArg conclude hprogram
  obtain ⟨hopened, hclosed⟩ := session_probe settings reading baseUrl network start
  rw [← journal_conclude, ← hconclusion] at hopened hclosed
  refine ⟨hopened, hclosed, fun hcalm => ?_⟩
  obtain ⟨tried, wentWell, after, hrun, hsent, hunchecked, hsearched, hwell⟩ :=
    probeAll_outcome hcalm settings.timeout baseUrl (reading.has .checkAuth)
      { start with journal := start.journal.openSession (Session.create reading.credentials settings) }
  obtain ⟨hlog, hunbroken, hstatus⟩ := status_probe_of_run hrun
  rw [← hconclusion] at hlog hunbroken hstatus
  refine ⟨tried, hlog.trans hsent, hunchecked, hsearched, hunbroken, ?_, ?_⟩
  · refine Iff.trans ?_ hwell
    rw [hstatus]
    cases wentWell <;> decide
  · rw [hstatus]
    cases wentWell <;> decide

/-- An API with an error at its base URL and, from the second request on, no answer in time. -/
def unsteadyShop : Network :=
  Script.network
    { routes :=
        [ ("https://shop.example", [.answered { status := 500 }, .timedOut "timed out"]),
          ("https://shop.example/", [.answered { status := 401 }]),
          ("https://shop.example/api", [.answered { status := 204 }]) ] }

lemma neverCrashes_unsteadyShop : NeverCrashes unsteadyShop :=
  neverCrashes_network (by simp) nofun

/-- It can be reached, if only for its error, and the third URL for credentials is the first that accepts them. -/
theorem probe_concludes_unsteadyShop :
    let words := ["-v", "probe", "--auth", "bearer_token", "--token=t", "--check-auth",
      "https://shop.example"]
    let conclusion := runProgram [] words "" unsteadyShop {}
    conclusion.console.journal.closed = 1 ∧ conclusion.status = 0 ∧
      conclusion.console.journal.sent.map (·.url) =
        ["https://shop.example", "https://shop.example", "https://shop.example/",
          "https://shop.example/api"] ∧
      ∃ tried, IsProbed unsteadyShop 30 "https://shop.example" true conclusion tried := by
  intro words conclusion
  have hcall : IsProbeCall words
      { given := [(.auth, "bearer_token"), (.token, "t"), (.checkAuth, "")],
        operands := ["https://shop.example"] } "https://shop.example" :=
    { chosen := ⟨{ given := [(.verbose, "")], operands := words.tail }, words.tail.tail,
        by decide +kernel, by decide +kernel, by decide +kernel, by decide +kernel⟩
      asks_nothing := by decide +kernel
      known := by decide +kernel
      operand := rfl }
  have hsettings : Settings.ofEnvironment [] = .ok {} := by decide +kernel
  obtain ⟨-, hclosed, hprobed⟩ := probe_concludes hsettings hcall "" unsteadyShop {}
  exact ⟨hclosed, by decide +kernel, by decide +kernel, hprobed neverCrashes_unsteadyShop⟩

end RestConnector.CommandLine
