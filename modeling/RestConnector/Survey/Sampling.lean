import RestConnector.Configuration
import RestConnector.Schema.Inference
import RestConnector.Survey.Probe

/-!
# Sampling

To learn what the responses of an API look like, the endpoints that read a path without parameters are
asked for, up to a given number, and a model is inferred from each answer that allows it. Two answers
may give models of one name; the earlier one is kept.
-/

namespace RestConnector.Survey

/-- The first `limit` elements of a list. A negative limit leaves that many elements out at the end. -/
def upTo {α : Type} (limit : Int) (items : List α) : List α :=
  if 0 ≤ limit then items.take limit.toNat else items.take (items.length - limit.natAbs)

/-- The endpoints to sample. -/
def samples (limit : Int) (endpoints : List Endpoint) : List Endpoint :=
  upTo limit (endpoints.filter Endpoint.isListing)

/-- The body of the answer at a URL, unless the answer is an error. -/
def fetchBody (timeout : Int) (url : String) : Exchange (Option String) := do
  match ← Exchange.fetch { url, timeout } with
  | .answered response => return if response.isOk then some response.body else none
  | .timedOut _ | .refused _ => return none

/-- Adds the models of some endpoints to those already found. -/
def inferEach (timeout : Int) (base : String) (found : List (String × Schema.Model)) :
    List Endpoint → Exchange (List (String × Schema.Model))
  | [] => return found
  | endpoint :: rest => do
    let body ← fetchBody timeout (base ++ endpoint.path)
    match body.bind fun content => Schema.infer? content endpoint.path with
    | some model => inferEach timeout base (Configuration.addSchema found model) rest
    | none => inferEach timeout base found rest

/-- The models of an API, one for each name, in the order in which they were found. -/
def inferModels (timeout limit : Int) (baseUrl : String) (endpoints : List Endpoint) :
    Exchange (List Schema.Model) := do
  let found ← inferEach timeout (withoutSlashes baseUrl) [] (samples limit endpoints)
  return found.map (·.2)

end RestConnector.Survey
