import RestConnector.Endpoint
import RestConnector.Survey.Probe

/-!
# Discovery

The endpoints of an unknown API are found in three ways, and the findings are merged: the document in
which the API describes itself, if one is found at a customary place; customary paths, which are asked
for one by one; and the siblings that go by convention with each path that lists a resource. What is
known beforehand comes first, and of endpoints with one key the first counts.
-/

namespace RestConnector.Survey

/-- The places where APIs keep the document that describes them. -/
def documentLocations : List String := [
  "/swagger.json", "/swagger/v1/swagger.json", "/api/swagger.json", "/openapi.json", "/api-docs",
  "/docs.json", "/v1/swagger.json", "/docs/openapi.json", "/v3/api-docs"]

/-- The paths that many APIs have. -/
def commonPaths : List String := [
  "/api", "/v1", "/v2", "/v3",
  "/users", "/user", "/customers", "/customer",
  "/products", "/product", "/items", "/item",
  "/orders", "/order", "/transactions", "/transaction",
  "/posts", "/post", "/articles", "/article",
  "/auth", "/login", "/token",
  "/health", "/status", "/ping", "/version"]

/-- The endpoints of the first document found among some places. -/
def searchDocuments (timeout : Int) (base : String) : List String → Exchange (List Endpoint)
  | [] => return []
  | location :: rest => do
    match ← Exchange.fetch { url := base ++ location, timeout } with
    | .answered response =>
      if response.isOk then return Endpoint.ofDocument response.body
      else searchDocuments timeout base rest
    | .timedOut _ | .refused _ => searchDocuments timeout base rest

/-- The endpoints listed in the document of an API. -/
def fromDocument (timeout : Int) (base : String) : Exchange (List Endpoint) :=
  searchDocuments timeout base documentLocations

/-- Whether an answer shows that a path exists: it does if only the credentials are refused. -/
def showsExistence (response : Response) : Bool :=
  response.isOk || response.status == 401

/-- The endpoint that was found by asking for a path. -/
def foundEndpoint (path : String) (response : Response) : Endpoint :=
  { method := "GET", path, description := some ("GET " ++ path)
    statusCode := some response.status }

/-- The endpoints found among some paths. -/
def tryPaths (timeout : Int) (base : String) : List String → Exchange (List Endpoint)
  | [] => return []
  | path :: rest => do
    let attempt ← Exchange.fetch { url := base ++ path, timeout }
    let others ← tryPaths timeout base rest
    match attempt with
    | .answered response =>
      return if showsExistence response then foundEndpoint path response :: others else others
    | .timedOut _ | .refused _ => return others

/-- The endpoints found at customary paths. -/
def fromCommonPaths (timeout : Int) (base : String) : Exchange (List Endpoint) :=
  tryPaths timeout base commonPaths

/-- The endpoints that are known, together with their missing siblings, each once. -/
def complete (endpoints : List Endpoint) : List Endpoint :=
  Endpoint.distinct (endpoints ++ Endpoint.expansion endpoints)

/-- All endpoints of an API, those known beforehand first. -/
def discover (timeout : Int) (baseUrl : String) (known : List Endpoint) :
    Exchange (List Endpoint) := do
  let base := withoutSlashes baseUrl
  let documented ← fromDocument timeout base
  let found ← fromCommonPaths timeout base
  return complete (known ++ documented ++ found)

end RestConnector.Survey
