import RestConnector.Endpoint
import RestConnector.Schema.Model

/-!
# Configuration

A `Configuration` is everything known about one run: the API and what to call it, the credentials for
asking it, the endpoints and schemas found so far, and what to generate. The credentials are kept
apart in a record of their own, because only the session looks at them.
-/

namespace RestConnector

/-- How requests are authenticated. -/
inductive Authentication where
  | anonymous | apiKey | bearerToken | basic | oauth2
deriving DecidableEq, Repr

namespace Authentication

/-- The word for a kind of authentication. -/
def label : Authentication → String
  | .anonymous => "none"
  | .apiKey => "api_key"
  | .bearerToken => "bearer_token"
  | .basic => "basic_auth"
  | .oauth2 => "oauth2"

/-- All kinds of authentication, in the order in which they are offered. -/
def all : List Authentication := [.anonymous, .apiKey, .bearerToken, .basic, .oauth2]

/-- The kind of authentication that a word stands for. -/
def ofLabel? (word : String) : Option Authentication :=
  all.find? fun kind => kind.label = word

end Authentication

/-- What is presented to the API. Which of it is used depends on the kind of authentication. -/
structure Credentials where
  authentication : Authentication := .anonymous
  apiKey : Option String := none
  /-- The header that carries the API key. -/
  apiKeyHeader : String := "X-API-Key"
  bearerToken : Option String := none
  username : Option String := none
  password : Option String := none
  clientId : Option String := none
  clientSecret : Option String := none
  tokenEndpoint : Option String := none
  scope : Option String := none
deriving DecidableEq, Repr

/-- What is to be generated. -/
structure GenerationOptions where
  models : Bool := true
  contract : Bool := true
  client : Bool := true
  registration : Bool := true
  /-- Whether records may not be changed once they are built. -/
  frozenModels : Bool := true
  /-- Whether a field that may be null may be left out. -/
  optionalTypes : Bool := true
deriving DecidableEq, Repr

/-- Everything known about one run. -/
structure Configuration where
  baseUrl : String := ""
  apiName : String := ""
  packageName : String := ""
  outputPath : String := ""
  credentials : Credentials := {}
  endpoints : List Endpoint := []
  /-- The schemas, each under its key, in the order in which they were found. -/
  schemas : List (String × Schema.Model) := []
  options : GenerationOptions := {}

namespace Configuration

/-- Adds a schema under its name, unless there is one already. -/
def addSchema (schemas : List (String × Schema.Model)) (model : Schema.Model) :
    List (String × Schema.Model) :=
  if (schemas.lookup model.name).isSome then schemas else schemas ++ [(model.name, model)]

end Configuration

end RestConnector
