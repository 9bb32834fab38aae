import RestConnector.Proofs.Survey.Trace

/-!
# When probes succeed

With a network that does nothing unexpected, a probe ends with an outcome, and its success is a matter of the
answers.  The probe of connectivity makes one request and succeeds if there is an answer, whatever its status
(`connectivity_outcome`).  The probe of credentials goes through its URLs as the search for a document goes through
its places (`IsSearch`), and succeeds if the search has ended with an answer without an error
(`credentials_outcome`).  What came of the URLs before does not count: each attempt replaces the one before it.
-/

namespace RestConnector.Survey

open Exchange

/-- Whether a request is answered at all, after others. -/
def IsAnswered (network : Network) (earlier : List Request) (request : Request) : Prop :=
  ∃ response, network earlier request = .answered response

/-- A URL that is asked for as it stands is a path behind nothing. -/
lemma Request.ofPath_empty (timeout : Int) (url : String) :
    Request.ofPath timeout "" url = { url, timeout } := by
  rw [Request.ofPath, String.empty_append]

/-- Whether one of some URLs has been answered without an error when its turn came. -/
def SomeAnsweredOk (network : Network) (earlier : List Request) (timeout : Int) (tried : List String) :
    Prop :=
  ∃ front url back, tried = front ++ url :: back ∧
    IsAnsweredOk network (earlier ++ front.map (Request.ofPath timeout ""))
      (Request.ofPath timeout "" url)

section Probes

variable {network : Network} {timeout : Int}

/-- Any answer shows that there is a connection. -/
lemma connectivity_outcome (h : NeverCrashes network) (timeout : Int) (url : String) (sent : List Request) :
    ∃ probe, connectivity timeout url network sent =
        (.ok probe, sent ++ [({ url, timeout } : Request)]) ∧
      (probe.isSuccess ↔ IsAnswered network sent { url, timeout }) := by
  obtain ⟨attempt, hfetch, hattempt⟩ := exists_fetch h { url, timeout } sent
  have hanswered : IsAnswered network sent { url, timeout } ↔
      ∃ response, attempt = .answered response :=
    exists_congr fun response => (hattempt response).symm
  rw [hanswered, show connectivity timeout url network sent = _ from bind_of_ok hfetch _]
  cases attempt with
  | answered response => exact ⟨_, rfl, by simp⟩
  | timedOut message => exact ⟨_, rfl, by simp⟩
  | refused message => exact ⟨_, rfl, by simp⟩

/-! ## Trying one URL after the other -/

lemma someAnsweredOk_nil {earlier : List Request} : ¬ SomeAnsweredOk network earlier timeout [] := by
  rintro ⟨front, url, back, h, -⟩
  simp at h

lemma someAnsweredOk_cons {earlier : List Request} {url : String} {rest : List String} :
    SomeAnsweredOk network earlier timeout (url :: rest) ↔
      IsAnsweredOk network earlier (Request.ofPath timeout "" url) ∨
        SomeAnsweredOk network (earlier ++ [Request.ofPath timeout "" url]) timeout rest := by
  constructor
  · rintro ⟨front, other, back, h, hok⟩
    cases front with
    | nil =>
      obtain ⟨rfl, -⟩ := List.cons.inj h
      exact .inl (by simpa using hok)
    | cons first front =>
      obtain ⟨rfl, rfl⟩ := List.cons.inj h
      exact .inr ⟨front, other, back, rfl, by simpa using hok⟩
  · rintro (hok | ⟨front, other, back, rfl, hok⟩)
    · exact ⟨[], url, rest, rfl, by simpa using hok⟩
    · exact ⟨url :: front, other, back, rfl, by simpa using hok⟩

/-- One step: an answer without an error is the outcome, and anything else a failure that is forgotten when the
next URL is tried. -/
lemma tryInTurn_cons (h : NeverCrashes network) (timeout : Int) (last : Probe) (url : String) (rest : List String)
    (sent : List Request) :
    let request := Request.ofPath timeout "" url
    (IsAnsweredOk network sent request →
      ∃ probe : Probe, probe.isSuccess ∧
        tryInTurn timeout last (url :: rest) network sent = (.ok probe, sent ++ [request])) ∧
    (¬ IsAnsweredOk network sent request →
      ∃ probe : Probe, probe.isSuccess = false ∧
        tryInTurn timeout last (url :: rest) network sent =
          tryInTurn timeout probe rest network (sent ++ [request])) := by
  intro request
  have hrequest : request = { url, timeout } := Request.ofPath_empty timeout url
  have hstep {log : List Request} {attempt : Attempt}
      (hfetch : fetch { url, timeout } network sent = (.ok attempt, log)) :
      tryInTurn timeout last (url :: rest) network sent = _ := bind_of_ok hfetch _
  rw [hrequest]
  constructor
  · intro hok
    obtain ⟨response, hsuccess, hfetch⟩ := exists_fetch_of_isAnsweredOk hok
    rw [hstep hfetch]
    simp only [hsuccess, if_true, pure_apply]
    exact ⟨_, rfl, rfl⟩
  · intro hno
    obtain ⟨attempt, hfetch, hbad⟩ := exists_fetch_of_not_isAnsweredOk h hno
    rw [hstep hfetch]
    cases attempt with
    | answered response =>
      simp only [hbad response rfl, Bool.false_eq_true, if_false]
      exact ⟨_, rfl, rfl⟩
    | timedOut message => exact ⟨_, rfl, rfl⟩
    | refused message => exact ⟨_, rfl, rfl⟩

/-- URLs are tried up to the first that is answered without an error, which makes for success. -/
theorem tryInTurn_outcome (h : NeverCrashes network) (urls : List String) {last : Probe}
    (hlast : last.isSuccess = false) (sent : List Request) :
    ∃ tried probe, IsSearch network sent timeout "" urls tried ∧
      tryInTurn timeout last urls network sent =
        (.ok probe, sent ++ tried.map (Request.ofPath timeout "")) ∧
      (probe.isSuccess ↔ SomeAnsweredOk network sent timeout tried) := by
  induction urls generalizing last sent with
  | nil =>
    refine ⟨[], last, .nil, ?_, ?_⟩
    · rw [tryInTurn, pure_apply, List.map_nil, List.append_nil]
    · simp [hlast, someAnsweredOk_nil]
  | cons url rest ih =>
    obtain ⟨hstop, hgo⟩ := tryInTurn_cons h timeout last url rest sent
    by_cases hok : IsAnsweredOk network sent (Request.ofPath timeout "" url)
    · obtain ⟨probe, hsuccess, htry⟩ := hstop hok
      exact ⟨[url], probe, .stop hok, htry, iff_of_true hsuccess (someAnsweredOk_cons.2 (.inl hok))⟩
    · obtain ⟨failed, hfailed, htry⟩ := hgo hok
      obtain ⟨tried, probe, hsearch, hrest, hsuccess⟩ :=
        ih hfailed (sent ++ [Request.ofPath timeout "" url])
      refine ⟨url :: tried, probe, hsearch.cons hok, ?_, ?_⟩
      · rw [htry, hrest, List.map_cons, List.append_assoc, List.singleton_append]
      · rw [hsuccess, someAnsweredOk_cons, or_iff_right hok]

/-- Credentials are accepted if one of the URLs at which they are tried is answered without an error. -/
theorem credentials_outcome (h : NeverCrashes network) (timeout : Int) (baseUrl : String) (sent : List Request) :
    ∃ tried probe, IsSearch network sent timeout "" (credentialUrls baseUrl) tried ∧
      credentials timeout baseUrl network sent =
        (.ok probe, sent ++ tried.map (Request.ofPath timeout "")) ∧
      (probe.isSuccess ↔ SomeAnsweredOk network sent timeout tried) :=
  tryInTurn_outcome h (credentialUrls baseUrl) rfl sent

end Probes

end RestConnector.Survey
