import RestConnector.Name.Inflection
import RestConnector.Json.Reader
import RestConnector.Path
import RestConnector.Text.Case

/-!
# Endpoints

An *endpoint* is one operation that an API offers: a method and a path. The method in capitals and the
path together are its `key`; two endpoints of one key are the same operation, and of a list of
endpoints only the first of each key counts (`distinct`).

Two sources of endpoints need no network: the document in which an API describes itself
(`ofDocument`), and convention, by which a path that lists a resource also creates one, and has below
it the paths that read, change and delete one (`siblings`).
-/

namespace RestConnector

open RestConnector.Json

/-- One operation of an API. -/
structure Endpoint where
  method : String
  path : String
  description : Option String := none
  /-- The status with which a probe was answered. -/
  statusCode : Option Int := none
deriving DecidableEq, Repr

namespace Endpoint

/-- What identifies an endpoint. -/
def key (endpoint : Endpoint) : String × String :=
  (Text.upper endpoint.method, endpoint.path)

/-- Whether an endpoint reads a path that has no parameters. -/
def isListing (endpoint : Endpoint) : Bool :=
  Text.upper endpoint.method = "GET" && !Path.hasParameters endpoint.path

/-- The description of an endpoint in the discovery report. -/
def toJson (endpoint : Endpoint) : Value :=
  .object [
    ("method", .string endpoint.method),
    ("path", .string endpoint.path),
    ("description", (endpoint.description.map Value.string).getD .null),
    ("status_code", (endpoint.statusCode.map Value.integer).getD .null)]

/-! ## Distinct endpoints -/

/-- The endpoints whose key is neither among `seen` nor that of an earlier one. -/
def keepNew (seen : List (String × String)) : List Endpoint → List Endpoint
  | [] => []
  | endpoint :: rest =>
    if endpoint.key ∈ seen then keepNew seen rest
    else endpoint :: keepNew (endpoint.key :: seen) rest

/-- The first endpoint of every key. -/
def distinct (endpoints : List Endpoint) : List Endpoint :=
  keepNew [] endpoints

/-! ## By convention -/

/-- The endpoints that go with the one that lists the resource at a path. -/
def siblings (base : String) : List Endpoint :=
  let trimmed := Name.singularize (Text.onChars (Text.trimEnds (· = '/')) base)
  let resource := if trimmed.isEmpty then "item" else trimmed
  let item := Text.onChars (Text.trimRight (· = '/')) base ++ "/\x7bid\x7d"
  [ { method := "POST", path := base, description := some ("Create new " ++ resource) },
    { method := "GET", path := item, description := some ("Get " ++ resource ++ " by ID") },
    { method := "PUT", path := item, description := some ("Update " ++ resource) },
    { method := "PATCH", path := item, description := some ("Partially update " ++ resource) },
    { method := "DELETE", path := item, description := some ("Delete " ++ resource) } ]

/-- The siblings of all listing endpoints that are not there yet. -/
def expansion (endpoints : List Endpoint) : List Endpoint :=
  keepNew (endpoints.map key)
    ((endpoints.filter isListing).flatMap fun endpoint => siblings endpoint.path)

/-! ## From a document -/

/-- The methods that a generated client can call. -/
def supportedMethods : List String := ["GET", "POST", "PUT", "PATCH", "DELETE"]

/-- What a document says about an operation: its summary, its description or its identifier. -/
def documentedAs (operation : Value) : String :=
  (["summary", "description", "operationId"].findSome? fun key =>
    match operation.member? key with
    | some (.string text) => if text.isEmpty then none else some text
    | _ => none).getD ""

/-- The endpoints that a document lists for one path. -/
def ofPathItem (path : String) : Value → List Endpoint
  | .object members =>
    (members.filter fun member => Text.upper member.1 ∈ supportedMethods).map fun member =>
      { method := Text.upper member.1, path, description := some (documentedAs member.2) }
  | _ => []

/-- The endpoints that a discovery document lists under its paths. A text that is no such document
lists none. -/
def ofDocument (content : String) : List Endpoint :=
  match (read? content).bind (Value.member? "paths") with
  | some (.object paths) => paths.flatMap fun entry => ofPathItem entry.1 entry.2
  | _ => []

end Endpoint

end RestConnector
