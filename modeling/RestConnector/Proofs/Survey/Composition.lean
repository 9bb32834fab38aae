import Mathlib.Tactic.Lemma
import RestConnector.Run

/-!
# Exchanges that are made of requests

The stages of a survey use the network in one way only: they make requests one after another, and what they
ask for next may depend on the answers (`Exchange.IsComposed`).  Whatever holds of a single request and is
kept by bind holds of all of them, by induction on how an exchange is put together.

Two things are had in this way.  An exchange with a network that never crashes ends with a result
(`IsComposed.completes`).  And with a network that answers by URL alone, what comes of an exchange does not
depend on the requests before it (`IsComposed.result_byUrl`): it has one `answer`, and a bind has an answer
if both of its parts have one (`answer_bind_eq_ok_iff`).
-/

namespace RestConnector.Survey

namespace Exchange

/-- Whether an exchange is put together from requests. -/
inductive IsComposed : {α : Type} → Exchange α → Prop where
  | pure {α : Type} (a : α) : IsComposed (Pure.pure a)
  | fetch (request : Request) : IsComposed (fetch request)
  | bind {α β : Type} {exchange : Exchange α} {next : α → Exchange β} :
    IsComposed exchange → (∀ a, IsComposed (next a)) → IsComposed (exchange >>= next)
  | attempt {α : Type} {exchange : Exchange α} : IsComposed exchange → IsComposed (attempt exchange)

/-- Whether a network does nothing that the stages are not prepared for. -/
def NeverCrashes (network : Network) : Prop :=
  ∀ earlier request message, network earlier request ≠ .crashed message

/-- Whether the answers of a network are a matter of the URL alone. -/
def AnswersByUrl (network : Network) : Prop :=
  ∀ earlier later request other, request.url = other.url →
    network earlier request = network later other

lemma mem_of_replyAt {replies : List Reply} {turn : Nat} {reply : Reply}
    (h : replyAt replies turn = some reply) : reply ∈ replies := by
  rw [replyAt, Option.or_eq_some_iff] at h
  rcases h with h | ⟨-, h⟩
  · exact List.mem_of_getElem? h
  · exact List.mem_of_getLast? h

/-- A script that has no crash in it never crashes. -/
lemma neverCrashes_network {script : Script}
    (hroutes : ∀ route ∈ script.routes, ∀ message, Reply.crashed message ∉ route.2)
    (hotherwise : ∀ message, script.otherwise ≠ .crashed message) : NeverCrashes script.network := by
  intro earlier request message
  rw [Script.network]
  split
  · next replies hroute =>
    obtain ⟨before, after, hsplit, -⟩ := List.lookup_eq_some_iff.1 hroute
    have hreplies := hroutes (request.url, replies) (by simp [hsplit]) message
    cases hreply : replyAt replies (earlier.countP fun sent => sent.url = request.url) with
    | none => exact hotherwise message
    | some reply =>
      rintro rfl
      exact hreplies (mem_of_replyAt hreply)
  · exact hotherwise message

/-- The network that answers each URL always in the same way. -/
def byUrl (reply : String → Reply) : Network :=
  fun _ request => reply request.url

lemma AnswersByUrl.exists_eq_byUrl {network : Network} (h : AnswersByUrl network) :
    ∃ reply, network = byUrl reply :=
  ⟨fun url => network [] { url, timeout := 0 }, funext fun _ => funext fun _ => h _ _ _ _ rfl⟩

/-- A script with one reply for each route answers by URL alone. -/
lemma answersByUrl_network {script : Script} (h : ∀ route ∈ script.routes, ∃ reply, route.2 = [reply]) :
    AnswersByUrl script.network := by
  intro earlier later request other hurl
  rw [Script.network, Script.network, hurl]
  split
  · next replies hroute =>
    obtain ⟨before, after, hroutes, -⟩ := List.lookup_eq_some_iff.1 hroute
    obtain ⟨reply, rfl⟩ := h (other.url, replies) (by simp [hroutes])
    have hturn : ∀ turn, replyAt [reply] turn = some reply := by
      rintro (_ | turn) <;> rfl
    rw [hturn, hturn]
  · rfl

variable {α : Type} {exchange : Exchange α}

/-- Without crashes there is a result. -/
theorem IsComposed.completes {network : Network} (h : IsComposed exchange)
    (hnetwork : NeverCrashes network) (sent : List Request) :
    ∃ a log, exchange network sent = (.ok a, log) := by
  induction h generalizing sent with
  | pure a => exact ⟨a, sent, rfl⟩
  | fetch request =>
    unfold Exchange.fetch
    cases hreply : network sent request with
    | crashed message => exact absurd hreply (hnetwork sent request message)
    | answered response => exact ⟨_, _, rfl⟩
    | timedOut message => exact ⟨_, _, rfl⟩
    | refused message => exact ⟨_, _, rfl⟩
  | bind _ _ ih ihnext =>
    obtain ⟨a, log, hrun⟩ := ih sent
    obtain ⟨b, last, hnext⟩ := ihnext a log
    exact ⟨b, last, by rw [bind_apply, hrun]; exact hnext⟩
  | attempt _ ih =>
    obtain ⟨a, log, hrun⟩ := ih sent
    exact ⟨.ok a, log, by rw [Exchange.attempt, hrun]⟩

/-- With answers by URL alone, the requests before an exchange have no part in its result. -/
theorem IsComposed.result_byUrl (h : IsComposed exchange) (reply : String → Reply)
    (sent later : List Request) :
    (exchange (byUrl reply) sent).1 = (exchange (byUrl reply) later).1 := by
  induction h generalizing sent later with
  | pure a => rfl
  | fetch request =>
    unfold Exchange.fetch byUrl
    cases reply request.url <;> rfl
  | @bind _ _ exchange next _ _ ih ihnext =>
    have hresult := ih sent later
    rw [bind_apply, bind_apply]
    rcases hfirst : exchange (byUrl reply) sent with ⟨result, log⟩
    rcases hsecond : exchange (byUrl reply) later with ⟨result', log'⟩
    rw [hfirst, hsecond] at hresult
    obtain rfl : result = result' := hresult
    cases result with
    | error crash => rfl
    | ok a => exact ihnext a log log'
  | attempt _ ih => exact congrArg Except.ok (ih sent later)

/-! ## Answers by URL -/

/-- What comes of an exchange with a network that answers by URL alone. -/
def answer (reply : String → Reply) (exchange : Exchange α) : Except String α :=
  (exchange (byUrl reply) []).1

variable (reply : String → Reply)

lemma IsComposed.result_eq_answer (h : IsComposed exchange) (sent : List Request) :
    (exchange (byUrl reply) sent).1 = answer reply exchange :=
  h.result_byUrl reply sent []

@[simp] lemma answer_pure (a : α) : answer reply (pure a : Exchange α) = .ok a := rfl

@[simp] lemma answer_attempt (exchange : Exchange α) :
    answer reply (attempt exchange) = .ok (answer reply exchange) := rfl

lemma answer_bind_eq_ok_iff {β : Type} {next : α → Exchange β} {b : β}
    (h : ∀ a, IsComposed (next a)) :
    answer reply (exchange >>= next) = .ok b ↔
      ∃ a, answer reply exchange = .ok a ∧ answer reply (next a) = .ok b := by
  rw [answer, bind_apply, answer]
  rcases exchange (byUrl reply) [] with ⟨_ | a, log⟩
  · simp
  · simp [(h a).result_eq_answer reply log]

end Exchange

/-! ## The stages -/

open Exchange

section Stages

variable (timeout : Int) (base : String)

lemma isComposed_connectivity (url : String) : IsComposed (connectivity timeout url) := by
  refine (IsComposed.fetch _).bind fun attempt => ?_
  cases attempt <;> exact .pure _

lemma isComposed_searchDocuments (locations : List String) :
    IsComposed (searchDocuments timeout base locations) := by
  induction locations with
  | nil => exact .pure _
  | cons location rest ih =>
    refine (IsComposed.fetch _).bind fun attempt => ?_
    cases attempt with
    | answered response =>
      dsimp only
      split
      · exact .pure _
      · exact ih
    | timedOut message => exact ih
    | refused message => exact ih

lemma isComposed_fromDocument : IsComposed (fromDocument timeout base) :=
  isComposed_searchDocuments timeout base documentLocations

lemma isComposed_tryPaths (paths : List String) : IsComposed (tryPaths timeout base paths) := by
  induction paths with
  | nil => exact .pure _
  | cons path rest ih =>
    refine (IsComposed.fetch _).bind fun attempt => ih.bind fun others => ?_
    cases attempt <;> exact .pure _

lemma isComposed_fromCommonPaths : IsComposed (fromCommonPaths timeout base) :=
  isComposed_tryPaths timeout base commonPaths

lemma isComposed_fetchBody (url : String) : IsComposed (fetchBody timeout url) := by
  refine (IsComposed.fetch _).bind fun attempt => ?_
  cases attempt <;> exact .pure _

lemma isComposed_inferEach (found : List (String × Schema.Model)) (endpoints : List Endpoint) :
    IsComposed (inferEach timeout base found endpoints) := by
  induction endpoints generalizing found with
  | nil => exact .pure _
  | cons endpoint rest ih =>
    refine (isComposed_fetchBody timeout _).bind fun body => ?_
    split
    · exact ih _
    · exact ih _

lemma isComposed_inferModels (limit : Int) (baseUrl : String) (endpoints : List Endpoint) :
    IsComposed (inferModels timeout limit baseUrl endpoints) :=
  (isComposed_inferEach timeout _ [] _).bind fun _ => .pure _

lemma isComposed_discover (baseUrl : String) (known : List Endpoint) :
    IsComposed (discover timeout baseUrl known) :=
  (isComposed_fromDocument timeout _).bind fun _ =>
    (isComposed_fromCommonPaths timeout _).bind fun _ => .pure _

end Stages

end RestConnector.Survey
