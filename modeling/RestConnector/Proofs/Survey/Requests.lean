import Mathlib.Data.List.Infix
import RestConnector.Survey.Discovery
import RestConnector.Survey.Journal
import RestConnector.Survey.Sampling

/-!
# What stages ask for

Every stage of a survey puts paths behind one base URL.  Discovery asks for customary places, which are the
same for every API; sampling asks for the endpoints that it is given.  What is asked for depends on the
answers only in how far a stage gets along its list.

`Exchange.Makes` is a judgement on the requests of an exchange together with its result, and follows the
exchange from bind to bind.  A loop over a list of paths asks `Along` the list: `Makes.along_cons` is the
step of each such loop.
-/

namespace RestConnector.Survey

/-- The request for a path behind a base URL. -/
def Request.ofPath (timeout : Int) (base path : String) : Request :=
  { url := base ++ path, timeout }

namespace Exchange

variable {α β : Type} {network : Network}

/-- Whether the requests that an exchange makes and what it ends with are as said, whatever has been asked
before. -/
def Makes (network : Network) (exchange : Exchange α)
    (post : Except String α → List Request → Prop) : Prop :=
  ∀ sent, ∃ requests, (exchange network sent).2 = sent ++ requests ∧
    post (exchange network sent).1 requests

lemma Makes.mono {exchange : Exchange α} {post weaker : Except String α → List Request → Prop}
    (h : Makes network exchange post)
    (himp : ∀ result requests, post result requests → weaker result requests) :
    Makes network exchange weaker := by
  intro sent
  obtain ⟨requests, hsent, hpost⟩ := h sent
  exact ⟨requests, hsent, himp _ _ hpost⟩

lemma makes_pure {a : α} {post : Except String α → List Request → Prop} (h : post (.ok a) []) :
    Makes network (pure a) post := by
  intro sent
  rw [pure_apply]
  exact ⟨[], (List.append_nil sent).symm, h⟩

/-- A crash ends an exchange; a result is handed on, and the requests that follow come behind. -/
lemma Makes.bind {exchange : Exchange α} {next : α → Exchange β}
    {middle : Except String α → List Request → Prop}
    {post : Except String β → List Request → Prop} (h : Makes network exchange middle)
    (hcrash : ∀ crash requests, middle (.error crash) requests → post (.error crash) requests)
    (hnext : ∀ a requests, middle (.ok a) requests →
      Makes network (next a) fun result later => post result (requests ++ later)) :
    Makes network (exchange >>= next) post := by
  intro sent
  obtain ⟨requests, hsent, hmiddle⟩ := h sent
  rw [bind_apply]
  rcases hrun : exchange network sent with ⟨result, log⟩
  rw [hrun] at hsent hmiddle
  obtain rfl : log = sent ++ requests := hsent
  cases result with
  | error crash => exact ⟨requests, rfl, hcrash crash requests hmiddle⟩
  | ok a =>
    obtain ⟨later, hlater, hpost⟩ := hnext a requests hmiddle (sent ++ requests)
    refine ⟨requests ++ later, ?_, hpost⟩
    show (next a network (sent ++ requests)).2 = sent ++ (requests ++ later)
    rw [hlater, List.append_assoc]

/-- Whether an attempt is what the network made of a request, at some time. -/
def IsAnswer (network : Network) (request : Request) (attempt : Attempt) : Prop :=
  ∀ response, attempt = .answered response → ∃ earlier, network earlier request = .answered response

lemma makes_fetch (request : Request) :
    Makes network (fetch request) fun result requests =>
      requests = [request] ∧ ∀ attempt, result = .ok attempt → IsAnswer network request attempt := by
  intro sent
  refine ⟨[request], ?_, rfl, ?_⟩
  · unfold fetch
    cases network sent request <;> rfl
  · intro attempt hattempt response hresponse
    subst hresponse
    refine ⟨sent, ?_⟩
    unfold fetch at hattempt
    cases hreply : network sent request with
    | answered response' =>
      rw [hreply] at hattempt
      cases hattempt
      rfl
    | timedOut message => simp [hreply] at hattempt
    | refused message => simp [hreply] at hattempt
    | crashed message => simp [hreply] at hattempt

/-- An attempt never crashes. -/
lemma Makes.attempt {exchange : Exchange α} {post : Except String α → List Request → Prop}
    (h : Makes network exchange post) :
    Makes network (attempt exchange) fun result requests =>
      ∃ outcome, result = .ok outcome ∧ post outcome requests := by
  intro sent
  obtain ⟨requests, hsent, hpost⟩ := h sent
  exact ⟨requests, hsent, _, rfl, hpost⟩

/-! ## Along a list of paths -/

/-- Whether the paths of a list are asked for in order, perhaps not to its end, and a result is good for
those that have been asked for. -/
def Along (timeout : Int) (base : String) (paths : List String) (good : List String → α → Prop)
    (result : Except String α) (requests : List Request) : Prop :=
  ∃ asked, asked <+: paths ∧ requests = asked.map (Request.ofPath timeout base) ∧
    ∀ a, result = .ok a → good asked a

variable {timeout : Int} {base path : String} {rest : List String}

lemma along_pure {a : α} {good : List String → α → Prop} (h : good [] a) :
    Makes network (pure a) (Along timeout base rest good) := by
  refine makes_pure ⟨[], List.nil_prefix, rfl, ?_⟩
  rintro a' ⟨⟩
  exact h

/-- One path is asked for, then those behind it. -/
lemma Makes.along_cons {first : Exchange α} {next : α → Exchange β}
    {middle : Except String α → List Request → Prop} {good : List String → β → Prop}
    (h : Makes network first middle)
    (hone : ∀ result requests, middle result requests →
      requests = [Request.ofPath timeout base path])
    (hnext : ∀ a, middle (.ok a) [Request.ofPath timeout base path] →
      Makes network (next a) (Along timeout base rest fun asked => good (path :: asked))) :
    Makes network (first >>= next) (Along timeout base (path :: rest) good) := by
  refine h.bind ?_ ?_
  · intro crash requests hmiddle
    obtain rfl := hone _ _ hmiddle
    exact ⟨[path], List.prefix_append [path] rest, rfl, nofun⟩
  · intro a requests hmiddle
    obtain rfl := hone _ _ hmiddle
    refine (hnext a hmiddle).mono ?_
    rintro result later ⟨asked, hasked, rfl, hgood⟩
    exact ⟨path :: asked, List.cons_prefix_cons.2 ⟨rfl, hasked⟩, rfl, hgood⟩

end Exchange

/-! ## Discovery -/

/-- Whether an endpoint is listed in a document that the network answers with. -/
def IsDocumented (network : Network) (endpoint : Endpoint) : Prop :=
  ∃ earlier request response, network earlier request = .answered response ∧
    endpoint ∈ Endpoint.ofDocument response.body

section Discovery

open Exchange

variable {network : Network} (timeout : Int) (base : String)

lemma makes_searchDocuments (locations : List String) :
    Makes network (searchDocuments timeout base locations)
      (Along timeout base locations fun _ endpoints => ∀ endpoint ∈ endpoints,
        IsDocumented network endpoint) := by
  induction locations with
  | nil => exact along_pure fun endpoint h => absurd h List.not_mem_nil
  | cons location rest ih =>
    refine (makes_fetch _).along_cons (fun _ _ h => h.1) fun attempt hattempt => ?_
    cases attempt with
    | answered response =>
      obtain ⟨earlier, hanswer⟩ := hattempt.2 _ rfl response rfl
      dsimp only
      split
      · exact along_pure fun endpoint h => ⟨earlier, _, response, hanswer, h⟩
      · exact ih
    | timedOut message => exact ih
    | refused message => exact ih

lemma makes_tryPaths (paths : List String) :
    Makes network (tryPaths timeout base paths)
      (Along timeout base paths fun _ endpoints => ∀ endpoint ∈ endpoints,
        endpoint.path ∈ paths) := by
  induction paths with
  | nil => exact along_pure fun endpoint h => absurd h List.not_mem_nil
  | cons path rest ih =>
    refine (makes_fetch _).along_cons (fun _ _ h => h.1) fun attempt _ => ?_
    -- What is asked for behind the path is over before the answer is looked at.
    refine ih.bind ?_ ?_
    · rintro crash requests ⟨asked, hasked, hrequests, -⟩
      exact ⟨asked, hasked, hrequests, nofun⟩
    · rintro others requests ⟨asked, hasked, hrequests, hothers⟩
      have hrest : ∀ endpoint ∈ others, endpoint.path ∈ path :: rest := fun endpoint h =>
        List.mem_cons_of_mem _ (hothers others rfl endpoint h)
      have hdone : ∀ found : List Endpoint, (∀ endpoint ∈ found, endpoint.path ∈ path :: rest) →
          Makes network (pure found) fun result later =>
            Along timeout base rest (fun _ endpoints => ∀ endpoint ∈ endpoints,
              endpoint.path ∈ path :: rest) result (requests ++ later) := by
        intro found hfound
        refine makes_pure ⟨asked, hasked, by rw [List.append_nil, hrequests], ?_⟩
        rintro found' ⟨⟩
        exact hfound
      cases attempt with
      | answered response =>
        dsimp only
        split
        · exact hdone _ (List.forall_mem_cons.2 ⟨List.mem_cons_self, hrest⟩)
        · exact hdone _ hrest
      | timedOut message => exact hdone _ hrest
      | refused message => exact hdone _ hrest

/-! ### Siblings -/

lemma mem_of_mem_keepNew {seen : List (String × String)} {endpoints : List Endpoint}
    {endpoint : Endpoint} (h : endpoint ∈ Endpoint.keepNew seen endpoints) : endpoint ∈ endpoints := by
  induction endpoints generalizing seen with
  | nil => exact h
  | cons first rest ih =>
    rw [Endpoint.keepNew] at h
    split at h
    · exact List.mem_cons_of_mem _ (ih h)
    · rcases List.mem_cons.1 h with rfl | hrest
      · exact List.mem_cons_self
      · exact List.mem_cons_of_mem _ (ih hrest)

/-- The siblings of a listing endpoint list nothing: one creates, the others have a parameter. -/
lemma not_isListing_of_mem_siblings {path : String} {endpoint : Endpoint}
    (h : endpoint ∈ Endpoint.siblings path) : ¬ endpoint.isListing := by
  have hitem : ∀ start : String, Path.hasParameters (start ++ "/\x7bid\x7d") := by
    intro start
    have hbrace : '{' ∈ (start ++ "/\x7bid\x7d").toList := by
      rw [String.toList_append]
      exact List.mem_append_right _ (by decide)
    rw [Path.hasParameters, Bool.or_eq_true]
    exact Or.inl (List.contains_iff_mem.2 hbrace)
  have hpost : Text.upper "POST" ≠ "GET" := by decide
  simp only [Endpoint.siblings, List.mem_cons, List.not_mem_nil, or_false] at h
  rcases h with rfl | rfl | rfl | rfl | rfl
  · simp [Endpoint.isListing, hpost]
  all_goals simp [Endpoint.isListing, hitem]

lemma mem_of_mem_complete {endpoints : List Endpoint} {endpoint : Endpoint}
    (h : endpoint ∈ complete endpoints) (hlisting : endpoint.isListing) : endpoint ∈ endpoints := by
  rcases List.mem_append.1 (mem_of_mem_keepNew h) with hgiven | hadded
  · exact hgiven
  · obtain ⟨parent, -, hsibling⟩ := List.mem_flatMap.1 (mem_of_mem_keepNew hadded)
    exact absurd hlisting (not_isListing_of_mem_siblings hsibling)

/-- Where an endpoint without parameters comes from. -/
def IsKnown (network : Network) (known : List Endpoint) (endpoint : Endpoint) : Prop :=
  endpoint ∈ known ∨ IsDocumented network endpoint ∨ endpoint.path ∈ commonPaths

/-- Discovery asks for places below the base URL that do not depend on the API. -/
theorem makes_discover (baseUrl : String) (known : List Endpoint) :
    Makes network (discover timeout baseUrl known) fun result requests =>
      ∃ places : List String, places.Sublist (documentLocations ++ commonPaths) ∧
        requests = places.map (Request.ofPath timeout (withoutSlashes baseUrl)) ∧
        ∀ endpoints, result = .ok endpoints → ∀ endpoint ∈ endpoints, endpoint.isListing →
          IsKnown network known endpoint := by
  refine (makes_searchDocuments timeout _ documentLocations).bind ?_ ?_
  · rintro crash requests ⟨asked, hasked, hrequests, -⟩
    exact ⟨asked, hasked.sublist.trans (List.sublist_append_left _ _), hrequests, nofun⟩
  · rintro documented requests ⟨located, hlocated, rfl, hdocumented⟩
    refine (makes_tryPaths timeout _ commonPaths).bind ?_ ?_
    · rintro crash later ⟨tried, htried, rfl, -⟩
      exact ⟨located ++ tried, hlocated.sublist.append htried.sublist, List.map_append.symm, nofun⟩
    · rintro found later ⟨tried, htried, rfl, hfound⟩
      refine makes_pure ⟨located ++ tried, hlocated.sublist.append htried.sublist, ?_, ?_⟩
      · rw [List.append_nil, List.map_append]
      · rintro endpoints ⟨⟩ endpoint h hlisting
        rcases List.mem_append.1 (mem_of_mem_complete h hlisting) with hfirst | hlast
        · rcases List.mem_append.1 hfirst with hknown | hdocument
          · exact Or.inl hknown
          · exact Or.inr (Or.inl (hdocumented documented rfl endpoint hdocument))
        · exact Or.inr (Or.inr (hfound found rfl endpoint hlast))

end Discovery

/-! ## Sampling -/

section Sampling

open Exchange

variable {network : Network} (timeout : Int) (base : String)

lemma makes_fetchBody (path : String) :
    Makes network (fetchBody timeout (base ++ path)) fun _ requests =>
      requests = [Request.ofPath timeout base path] := by
  refine (makes_fetch _).bind ?_ ?_
  · rintro crash requests ⟨hrequests, -⟩
    exact hrequests
  · rintro attempt requests ⟨rfl, -⟩
    cases attempt <;> exact makes_pure rfl

lemma makes_inferEach (found : List (String × Schema.Model)) (endpoints : List Endpoint) :
    Makes network (inferEach timeout base found endpoints)
      (Along timeout base (endpoints.map Endpoint.path) fun asked _ =>
        asked = endpoints.map Endpoint.path) := by
  induction endpoints generalizing found with
  | nil => exact along_pure rfl
  | cons endpoint rest ih =>
    refine (makes_fetchBody timeout base endpoint.path).along_cons (fun _ _ h => h) fun body _ => ?_
    have hrest : ∀ found, Makes network (inferEach timeout base found rest)
        (Along timeout base (rest.map Endpoint.path) fun asked _ =>
          endpoint.path :: asked = (endpoint :: rest).map Endpoint.path) := by
      intro found
      refine (ih found).mono ?_
      rintro result requests ⟨asked, hasked, hrequests, hall⟩
      refine ⟨asked, hasked, hrequests, fun models hresult => ?_⟩
      rw [hall models hresult, List.map_cons]
    split
    · exact hrest _
    · exact hrest _

/-- Sampling asks for the paths of its endpoints in order, and for all of them unless it crashes. -/
theorem makes_inferModels (limit : Int) (baseUrl : String) (endpoints : List Endpoint) :
    Makes network (inferModels timeout limit baseUrl endpoints) fun result requests =>
      ∃ sampled, sampled <+: samples limit endpoints ∧
        requests = (sampled.map Endpoint.path).map
          (Request.ofPath timeout (withoutSlashes baseUrl)) ∧
        ∀ models, result = .ok models → sampled = samples limit endpoints := by
  refine (makes_inferEach timeout _ [] _).bind ?_ ?_
  · rintro crash requests ⟨asked, hasked, rfl, -⟩
    obtain ⟨sampled, hsampled, rfl⟩ := List.prefix_map_iff.1 hasked
    exact ⟨sampled, hsampled, rfl, nofun⟩
  · rintro found requests ⟨asked, -, rfl, hall⟩
    refine makes_pure ⟨samples limit endpoints, List.prefix_rfl, ?_, fun _ _ => rfl⟩
    rw [hall found rfl, List.append_nil]

end Sampling

end RestConnector.Survey
