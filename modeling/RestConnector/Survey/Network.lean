import RestConnector.Json.Value
import RestConnector.Text.Case

/-!
# The network

The library asks questions of a network and never performs them: a `Network` is a function that answers
a request, and its answer may depend on all the requests made before. What a stage of a run does with
the network is an `Exchange`: given a network and the requests made so far, it ends with a result or
with a crash, and in both cases with a longer list of requests. A request that merely fails is no
crash; it comes back as an `Attempt` for the stage to judge.

A `Script` is a network given by data: a list of replies for each of some URLs, used one after another
with the last one repeated, and one reply for all others.
-/

namespace RestConnector.Survey

/-- A request for the content of a URL. -/
structure Request where
  url : String
  /-- Seconds to wait for the answer. -/
  timeout : Int
deriving DecidableEq, Repr

/-- An answer over HTTP. -/
structure Response where
  status : Int := 200
  body : String := ""
  headers : List (String × String) := []
deriving DecidableEq, Repr

/-- Whether a response reports no error on either side. -/
def Response.isOk (response : Response) : Bool :=
  !(400 ≤ response.status && response.status < 600)

/-- The headers of a response, one for each name. The letter case of a name does not matter; of headers
with one name the last is taken, spelling and all, at the place of the first. -/
def Response.distinctHeaders (response : Response) : List (String × String) :=
  (Json.Members.ofList (response.headers.map fun header => (Text.lower header.1, header))).map (·.2)

/-- What a network does with a request. -/
inductive Reply where
  | answered (response : Response)
  /-- No answer came in time. -/
  | timedOut (message : String)
  /-- The request could not be sent or its answer could not be read. -/
  | refused (message : String)
  /-- Something failed that no stage is prepared for. -/
  | crashed (message : String)
deriving DecidableEq, Repr

/-- A network answers a request in the light of the requests before it. -/
abbrev Network := (earlier : List Request) → Request → Reply

/-! ## Scripts -/

/-- A network given by data. -/
structure Script where
  /-- The replies of some URLs. -/
  routes : List (String × List Reply) := []
  /-- The reply of every other URL. -/
  otherwise : Reply := .answered { status := 404 }
deriving Repr

/-- The reply whose turn it is after `turn` earlier ones; the last one repeats. -/
def replyAt (replies : List Reply) (turn : Nat) : Option Reply :=
  replies[turn]?.or replies.getLast?

/-- The network that a script describes. -/
def Script.network (script : Script) : Network := fun earlier request =>
  match script.routes.lookup request.url with
  | some replies =>
    (replyAt replies (earlier.countP fun sent => sent.url = request.url)).getD script.otherwise
  | none => script.otherwise

/-! ## Exchanges -/

/-- What comes of a request as far as a stage is concerned. -/
inductive Attempt where
  | answered (response : Response)
  | timedOut (message : String)
  | refused (message : String)
deriving DecidableEq, Repr

/-- A dealing with the network: it ends with a result, or with the message of a crash, and with all
the requests that have been made. -/
def Exchange (α : Type) : Type :=
  Network → List Request → Except String α × List Request

namespace Exchange

instance : Monad Exchange where
  pure a := fun _ sent => (.ok a, sent)
  bind exchange next := fun network sent =>
    match exchange network sent with
    | (.ok a, sent) => next a network sent
    | (.error crash, sent) => (.error crash, sent)

theorem pure_apply {α : Type} (a : α) (network : Network) (sent : List Request) :
    (pure a : Exchange α) network sent = (.ok a, sent) := rfl

theorem bind_apply {α β : Type} (exchange : Exchange α) (next : α → Exchange β)
    (network : Network) (sent : List Request) :
    (exchange >>= next) network sent =
      match exchange network sent with
      | (.ok a, sent) => next a network sent
      | (.error crash, sent) => (.error crash, sent) := rfl

/-- Makes one request. -/
def fetch (request : Request) : Exchange Attempt := fun network sent =>
  let log := sent ++ [request]
  match network sent request with
  | .answered response => (.ok (.answered response), log)
  | .timedOut message => (.ok (.timedOut message), log)
  | .refused message => (.ok (.refused message), log)
  | .crashed message => (.error message, log)

end Exchange

end RestConnector.Survey
