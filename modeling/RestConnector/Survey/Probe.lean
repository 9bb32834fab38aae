import RestConnector.Survey.Network
import RestConnector.Text.Basic

/-!
# Probes

A *probe* finds out one thing about an API by asking for a URL: whether it answers at all
(`connectivity`), or whether it accepts the credentials of the session (`credentials`). For the former
any answer will do; for the latter several URLs are tried until one is answered without an error.
-/

namespace RestConnector.Survey

/-- The outcome of a probe. -/
structure Probe where
  isSuccess : Bool
  statusCode : Int := 0
  content : Option String := none
  errorMessage : Option String := none
  headers : List (String × String) := []
deriving DecidableEq, Repr

/-- Asks whether there is an answer at a URL. -/
def connectivity (timeout : Int) (url : String) : Exchange Probe := do
  match ← Exchange.fetch { url, timeout } with
  | .answered response =>
    return { isSuccess := true, statusCode := response.status, content := some response.body
             headers := response.distinctHeaders }
  | .timedOut _ => return { isSuccess := false, errorMessage := some "Request timeout" }
  | .refused message => return { isSuccess := false, errorMessage := some message }

/-- A URL without the slashes at its end. -/
def withoutSlashes (url : String) : String :=
  Text.onChars (Text.trimRight (· = '/')) url

/-- The URLs at which credentials are tried, in order. -/
def credentialUrls (baseUrl : String) : List String :=
  baseUrl :: ["/", "/api", "/health", "/ping"].map (withoutSlashes baseUrl ++ ·)

/-- Tries URLs until one is answered without an error; `last` is what came of the one before. -/
def tryInTurn (timeout : Int) (last : Probe) : List String → Exchange Probe
  | [] => return last
  | url :: rest => do
    match ← Exchange.fetch { url, timeout } with
    | .answered response =>
      let probe : Probe :=
        { isSuccess := response.isOk, statusCode := response.status
          content := some response.body }
      if response.isOk then return probe else tryInTurn timeout probe rest
    | .timedOut message | .refused message =>
      tryInTurn timeout { isSuccess := false, errorMessage := some message } rest

/-- Asks whether the credentials of the session are accepted. -/
def credentials (timeout : Int) (baseUrl : String) : Exchange Probe :=
  tryInTurn timeout { isSuccess := false, errorMessage := some "All test URLs failed" }
    (credentialUrls baseUrl)

end RestConnector.Survey
