import RestConnector.Proofs.Survey.Discovery
import RestConnector.Proofs.Survey.Requests

/-!
# The trace of a survey

With a network that does nothing unexpected, the requests of every stage can be told exactly.  The probe is
one request.  The search for a document asks for place after place until one is answered without an error,
and what it asks for depends on nothing else (`IsSearch`, `searchDocuments_trace`).  The customary paths are
asked for from the first to the last, whatever is answered (`tryPaths_trace`), and so are the endpoints that
are sampled (`inferModels_trace`).
-/

namespace RestConnector.Survey

open Exchange

/-! ## Single requests -/

section Requests

variable {network : Network}

/-- Without crashes, every request is followed by an attempt. -/
lemma Exchange.exists_fetch (h : NeverCrashes network) (request : Request) (sent : List Request) :
    ∃ attempt, fetch request network sent = (.ok attempt, sent ++ [request]) ∧
      ∀ response, attempt = .answered response ↔ network sent request = .answered response := by
  unfold fetch
  cases hreply : network sent request with
  | answered response => exact ⟨_, rfl, by simp⟩
  | timedOut message => exact ⟨_, rfl, by simp⟩
  | refused message => exact ⟨_, rfl, by simp⟩
  | crashed message => exact absurd hreply (h sent request message)

/-- What follows a result goes on from there. -/
lemma Exchange.bind_of_ok {α β : Type} {exchange : Exchange α} {sent log : List Request} {a : α}
    (h : exchange network sent = (.ok a, log)) (next : α → Exchange β) :
    (exchange >>= next) network sent = next a network log := by
  rw [bind_apply, h]

lemma connectivity_trace (h : NeverCrashes network) (timeout : Int) (url : String)
    (sent : List Request) :
    ∃ probe, connectivity timeout url network sent =
      (.ok probe, sent ++ [({ url, timeout } : Request)]) := by
  obtain ⟨attempt, hfetch, -⟩ := exists_fetch h { url, timeout } sent
  rw [show connectivity timeout url network sent = _ from bind_of_ok hfetch _]
  cases attempt <;> exact ⟨_, rfl⟩

end Requests

/-! ## Searching for a document -/

/-- Whether a request is answered without an error, after others. -/
def IsAnsweredOk (network : Network) (earlier : List Request) (request : Request) : Prop :=
  ∃ response, network earlier request = .answered response ∧ response.isOk

lemma exists_fetch_of_isAnsweredOk {network : Network} {sent : List Request} {request : Request}
    (hok : IsAnsweredOk network sent request) :
    ∃ response, response.isOk ∧
      fetch request network sent = (.ok (.answered response), sent ++ [request]) := by
  obtain ⟨response, hreply, hok⟩ := hok
  exact ⟨response, hok, by rw [fetch, hreply]⟩

lemma exists_fetch_of_not_isAnsweredOk {network : Network} (h : NeverCrashes network)
    {sent : List Request} {request : Request} (hno : ¬ IsAnsweredOk network sent request) :
    ∃ attempt, fetch request network sent = (.ok attempt, sent ++ [request]) ∧
      ∀ response, attempt = .answered response → response.isOk = false := by
  obtain ⟨attempt, hfetch, hattempt⟩ := exists_fetch h request sent
  refine ⟨attempt, hfetch, fun response hanswered => Bool.eq_false_iff.2 fun hok => ?_⟩
  exact hno ⟨response, (hattempt response).1 hanswered, hok⟩

/-- Whether places are asked for in order, up to the first one that is answered without an error; to the end
of the list if there is none. -/
structure IsSearch (network : Network) (earlier : List Request) (timeout : Int) (base : String)
    (locations located : List String) : Prop where
  in_order : located <+: locations
  /-- Whatever is followed by another place has not been answered without an error. -/
  goes_on : ∀ front location back, located = front ++ location :: back → back ≠ [] →
    ¬ IsAnsweredOk network (earlier ++ front.map (Request.ofPath timeout base))
      (Request.ofPath timeout base location)
  /-- The search is over when there are no places left, or when the last one has been answered. -/
  is_over : located = locations ∨ ∃ front location, located = front ++ [location] ∧
    IsAnsweredOk network (earlier ++ front.map (Request.ofPath timeout base))
      (Request.ofPath timeout base location)

section Searching

variable {network : Network} {earlier : List Request} {timeout : Int} {base location : String}
  {rest located : List String}

lemma IsSearch.nil : IsSearch network earlier timeout base [] [] where
  in_order := List.prefix_rfl
  goes_on := by
    intro front location back h
    exact absurd h (by simp)
  is_over := .inl rfl

lemma IsSearch.stop (h : IsAnsweredOk network earlier (Request.ofPath timeout base location)) :
    IsSearch network earlier timeout base (location :: rest) [location] where
  in_order := List.prefix_append [location] rest
  goes_on := by
    intro front other back he hback
    have hlength := congrArg List.length he
    have hpos := List.length_pos_iff.2 hback
    simp only [List.length_append, List.length_cons, List.length_nil] at hlength
    omega
  is_over := .inr ⟨[], location, rfl, by simpa using h⟩

lemma IsSearch.cons (h : ¬ IsAnsweredOk network earlier (Request.ofPath timeout base location))
    (hrest : IsSearch network (earlier ++ [Request.ofPath timeout base location]) timeout base rest
      located) :
    IsSearch network earlier timeout base (location :: rest) (location :: located) where
  in_order := List.cons_prefix_cons.2 ⟨rfl, hrest.in_order⟩
  goes_on := by
    intro front other back he hback
    cases front with
    | nil =>
      obtain ⟨rfl, -⟩ := List.cons.inj he
      simpa using h
    | cons first front =>
      obtain ⟨rfl, hlocated⟩ := List.cons.inj he
      simpa using hrest.goes_on front other back hlocated hback
  is_over := by
    rcases hrest.is_over with rfl | ⟨front, other, rfl, hanswered⟩
    · exact .inl rfl
    · exact .inr ⟨location :: front, other, rfl, by simpa using hanswered⟩

/-- One step of the search: an answer without an error ends it, and otherwise it goes on with the rest. -/
lemma searchDocuments_cons (h : NeverCrashes network) (timeout : Int) (base location : String)
    (rest : List String) (sent : List Request) :
    let request := Request.ofPath timeout base location
    (IsAnsweredOk network sent request →
      ∃ endpoints, searchDocuments timeout base (location :: rest) network sent =
        (.ok endpoints, sent ++ [request])) ∧
    (¬ IsAnsweredOk network sent request →
      searchDocuments timeout base (location :: rest) network sent =
        searchDocuments timeout base rest network (sent ++ [request])) := by
  intro request
  have hstep {attempt : Attempt} (hfetch : fetch request network sent = (.ok attempt, sent ++ [request])) :
      searchDocuments timeout base (location :: rest) network sent = _ := bind_of_ok hfetch _
  constructor
  · intro hok
    obtain ⟨response, hsuccess, hfetch⟩ := exists_fetch_of_isAnsweredOk hok
    rw [hstep hfetch]
    simp only [hsuccess, if_true, pure_apply]
    exact ⟨_, rfl⟩
  · intro hno
    obtain ⟨attempt, hfetch, hbad⟩ := exists_fetch_of_not_isAnsweredOk h hno
    rw [hstep hfetch]
    cases attempt with
    | answered response => simp only [hbad response rfl, Bool.false_eq_true, if_false]
    | timedOut message => rfl
    | refused message => rfl

/-- The search for a document asks for places up to the first one that is answered without an error. -/
theorem searchDocuments_trace (h : NeverCrashes network) (timeout : Int) (base : String)
    (locations : List String) (sent : List Request) :
    ∃ located endpoints, IsSearch network sent timeout base locations located ∧
      searchDocuments timeout base locations network sent =
        (.ok endpoints, sent ++ located.map (Request.ofPath timeout base)) := by
  induction locations generalizing sent with
  | nil =>
    refine ⟨[], [], IsSearch.nil, ?_⟩
    rw [searchDocuments, pure_apply, List.map_nil, List.append_nil]
  | cons location rest ih =>
    obtain ⟨hstop, hgo⟩ := searchDocuments_cons h timeout base location rest sent
    by_cases hok : IsAnsweredOk network sent (Request.ofPath timeout base location)
    · obtain ⟨endpoints, hsearch⟩ := hstop hok
      exact ⟨[location], endpoints, IsSearch.stop hok, hsearch⟩
    · obtain ⟨located, endpoints, hlocated, hsearch⟩ :=
        ih (sent ++ [Request.ofPath timeout base location])
      refine ⟨location :: located, endpoints, hlocated.cons hok, ?_⟩
      rw [hgo hok, hsearch, List.map_cons, List.append_assoc, List.singleton_append]

end Searching

/-! ## Trying paths -/

section Paths

variable {network : Network}

/-- All paths are asked for in order, whatever is answered. -/
theorem tryPaths_trace (h : NeverCrashes network) (timeout : Int) (base : String)
    (paths : List String) (sent : List Request) :
    ∃ endpoints, tryPaths timeout base paths network sent =
      (.ok endpoints, sent ++ paths.map (Request.ofPath timeout base)) := by
  induction paths generalizing sent with
  | nil => exact ⟨[], by rw [tryPaths, pure_apply, List.map_nil, List.append_nil]⟩
  | cons path rest ih =>
    obtain ⟨attempt, hfetch, -⟩ := exists_fetch h (Request.ofPath timeout base path) sent
    obtain ⟨others, hothers⟩ := ih (sent ++ [Request.ofPath timeout base path])
    rw [List.append_assoc, List.singleton_append, ← List.map_cons] at hothers
    rw [show tryPaths timeout base (path :: rest) network sent = _ from bind_of_ok hfetch _,
      bind_of_ok hothers]
    cases attempt <;> exact ⟨_, rfl⟩

/-- Discovery searches for a document and then asks for all customary paths. -/
theorem discover_trace (h : NeverCrashes network) (timeout : Int) (baseUrl : String)
    (known : List Endpoint) (sent : List Request) :
    ∃ located endpoints,
      IsSearch network sent timeout (withoutSlashes baseUrl) documentLocations located ∧
      discover timeout baseUrl known network sent =
        (.ok endpoints, sent ++
          (located ++ commonPaths).map (Request.ofPath timeout (withoutSlashes baseUrl))) := by
  obtain ⟨located, documented, hsearch, hdocument⟩ :=
    searchDocuments_trace h timeout (withoutSlashes baseUrl) documentLocations sent
  obtain ⟨found, hpaths⟩ := tryPaths_trace h timeout (withoutSlashes baseUrl) commonPaths
    (sent ++ located.map (Request.ofPath timeout (withoutSlashes baseUrl)))
  rw [List.append_assoc, ← List.map_append] at hpaths
  exact ⟨located, _, hsearch, discover_eq hdocument hpaths known⟩

/-! ## Sampling -/

/-- Sampling that does not crash has asked for all of its endpoints. -/
lemma inferModels_trace {timeout limit : Int} {baseUrl : String} {endpoints : List Endpoint}
    {models : List Schema.Model} {sent last : List Request}
    (h : inferModels timeout limit baseUrl endpoints network sent = (.ok models, last)) :
    last = sent ++ ((samples limit endpoints).map Endpoint.path).map
      (Request.ofPath timeout (withoutSlashes baseUrl)) := by
  obtain ⟨requests, hlast, sampled, -, rfl, hall⟩ :=
    makes_inferModels timeout limit baseUrl endpoints sent
  rw [h] at hlast hall
  rw [← hall models rfl]
  exact hlast

end Paths

end RestConnector.Survey
