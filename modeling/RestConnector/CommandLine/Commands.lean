import RestConnector.CommandLine.Interaction

/-!
# Commands

There are three commands. `probe` asks whether an API can be reached and, if wanted, whether it accepts
the credentials; it fails if either is not so. `discover` lists the endpoints of an API. `generate` makes
a connector; values that the arguments leave open can be asked for.

Whatever a command does on the network it does in one session.
-/

namespace RestConnector.CommandLine

open RestConnector.Survey

/-! ## Credentials -/

/-- The credentials that are given as options. -/
def Reading.credentials (reading : Reading) : Credentials :=
  { authentication := ((reading.value? .auth).bind Authentication.ofLabel?).getD .anonymous
    apiKey := reading.value? .apiKey
    apiKeyHeader := (reading.value? .apiKeyHeader).getD "X-API-Key"
    bearerToken := reading.value? .token
    username := reading.value? .username
    password := reading.value? .password
    clientId := reading.value? .clientId
    clientSecret := reading.value? .clientSecret
    tokenEndpoint := reading.value? .tokenEndpoint
    scope := reading.value? .scope }

/-! ## Probing -/

/-- What is said about the probe of an API. -/
def reachability (probe : Probe) : String :=
  if probe.isSuccess then "✅ Reachable (" ++ toString probe.statusCode ++ ")"
  else "❌ Unreachable: " ++ probe.errorMessage.getD "None"

/-- What is said about the probe of credentials. -/
def acceptance (probe : Probe) : String :=
  if probe.isSuccess then "✅ Credentials accepted (" ++ toString probe.statusCode ++ ")"
  else
    "❌ Credentials rejected: " ++
      Run.orElse (probe.errorMessage.getD "") ("status " ++ toString probe.statusCode)

/-- Probes an API, and its credentials if they are to be checked; tells whether all went well. -/
def probeAll (timeout : Int) (baseUrl : String) (checkAuth : Bool) : Interaction Bool := do
  let reached ← Interaction.ask (connectivity timeout baseUrl)
  Interaction.say (reachability reached)
  if checkAuth then
    let accepted ← Interaction.ask (credentials timeout baseUrl)
    Interaction.say (acceptance accepted)
    return reached.isSuccess && accepted.isSuccess
  else return reached.isSuccess

/-- The command `probe`. -/
def probe (settings : Settings) (reading : Reading) (baseUrl : String) : Interaction Unit := do
  let session := Session.create reading.credentials settings
  let wentWell ← Interaction.inSession session
    (probeAll settings.timeout baseUrl (reading.has .checkAuth))
  if wentWell then return () else Interaction.leave (.exited 1)

/-! ## Discovery -/

/-- The width of the column of methods. -/
def methodWidth : Nat := 7

/-- The line about an endpoint. -/
def endpointLine (endpoint : Endpoint) : String :=
  let description := match Session.given? endpoint.description with
    | some text => " - " ++ text
    | none => ""
  "  " ++ String.ofList (endpoint.method.toList ++
    List.replicate (methodWidth - endpoint.method.length) ' ') ++ endpoint.path ++ description

/-- Shows lines. -/
def sayAll : List String → Interaction Unit
  | [] => return ()
  | line :: rest => do
    Interaction.say line
    sayAll rest

/-- The command `discover`. -/
def discoverEndpoints (settings : Settings) (reading : Reading) (baseUrl : String) :
    Interaction Unit := do
  let session := Session.create reading.credentials settings
  let endpoints ← Interaction.inSession session
    (Interaction.ask (discover settings.timeout baseUrl []))
  if endpoints.isEmpty then Interaction.say "No endpoints found"
  else
    sayAll (("Found " ++ toString endpoints.length ++ " endpoints:") :: endpoints.map endpointLine)

/-! ## Generation -/

/-- The lines above everything that `generate` shows. -/
def banner : List String :=
  let rule := String.ofList (List.replicate 44 '=')
  [ rule,
    "║   API Connector Generator              ║",
    "║   Discover, infer, generate            ║",
    rule,
    "" ]

/-- What the options say about a run. -/
def Reading.configuration (reading : Reading) (baseUrl : String) : Configuration :=
  { baseUrl
    apiName := (reading.value? .name).getD ""
    packageName := (reading.value? .package).getD ""
    outputPath := (reading.value? .output).getD ""
    credentials := reading.credentials
    options :=
      { models := !reading.has .noModels
        contract := !reading.has .noContract
        client := !reading.has .noClient
        registration := !reading.has .noRegistration
        frozenModels := !reading.has .mutableModels } }

/-- A text that is given, or the answer to a question. -/
def givenOrAsked (text : Option String) (question : String) (isHidden : Bool) :
    Interaction (Option String) :=
  match Session.given? text with
  | some text => return some text
  | none => some <$> (openQuestion question isHidden).ask

/-- Asks for the credentials that are missing, after the kind of authentication. -/
def askCredentials (credentials : Credentials) : Interaction Credentials := do
  let authentication ←
    if credentials.authentication = .anonymous then authenticationQuestion.ask
    else pure credentials.authentication
  let credentials := { credentials with authentication }
  match authentication with
  | .anonymous => return credentials
  | .apiKey =>
    let apiKey ← givenOrAsked credentials.apiKey "API key" true
    return { credentials with apiKey }
  | .bearerToken =>
    let bearerToken ← givenOrAsked credentials.bearerToken "Bearer token" true
    return { credentials with bearerToken }
  | .basic =>
    let username ← givenOrAsked credentials.username "Username" false
    let password ← givenOrAsked credentials.password "Password" true
    return { credentials with username, password }
  | .oauth2 =>
    let clientId ← givenOrAsked credentials.clientId "Client id" false
    let clientSecret ← givenOrAsked credentials.clientSecret "Client secret" true
    let tokenEndpoint ← givenOrAsked credentials.tokenEndpoint "Token endpoint" false
    return { credentials with clientId, clientSecret, tokenEndpoint }

/-- Asks for what a configuration leaves open, and for what is to be generated. -/
def askMissing (config : Configuration) : Interaction Configuration := do
  let baseUrl ←
    if config.baseUrl.isEmpty then (openQuestion "API Base URL" false).ask else pure config.baseUrl
  let apiName ← (questionWithDefault "API name" config.apiName).ask
  let credentials ← askCredentials config.credentials
  let models ← (yesOrNo "Generate models?" config.options.models).ask
  let contract ← (yesOrNo "Generate contract?" config.options.contract).ask
  let client ← (yesOrNo "Generate client?" config.options.client).ask
  let registration ← (yesOrNo "Generate registration?" config.options.registration).ask
  return { config with
    baseUrl, apiName, credentials
    options := { config.options with models, contract, client, registration } }

/-- How a run that failed ends the command: what went wrong with the disk is a breakdown, unless the
place could not even be written down. -/
def endingOf (fault : RunFault) : Ending :=
  match fault with
  | .notWritten { kind := .nullCharacter, .. } => .failed fault.message
  | .notWritten _ => .broken (.run fault)
  | _ => .failed fault.message

/-- Makes a connector with what is at hand. -/
def makeConnector (settings : Settings) (withReport : Bool) (config : Configuration) :
    Interaction Summary := fun network console =>
  let outcome := Run.run standardWriter network settings withReport config console.journal
    console.tree
  (outcome.result.mapError endingOf,
    { console with journal := outcome.journal, tree := outcome.tree })

/-- The lines about a connector. -/
def summaryLines (summary : Summary) : List String :=
  (if summary.connectivity.isSuccess then []
    else ["⚠️  API not reachable: " ++ summary.connectivity.errorMessage.getD "None"]) ++
  [ "✅ Connector generated!",
    "   Endpoints: " ++ toString summary.endpointsFound,
    "   Schemas: " ++ toString summary.schemasInferred,
    "   Files: " ++ toString summary.filesWritten,
    "   Output: " ++ summary.outputPath ]

/-- The command `generate`. -/
def generate (settings : Settings) (reading : Reading) (baseUrl : String) : Interaction Unit := do
  sayAll banner
  let given := reading.configuration baseUrl
  let config ←
    if reading.has .interactive then askMissing given
    else if baseUrl.isEmpty then
      Interaction.leave (.misused (.command .generate) .baseUrlNotAsked)
    else pure given
  Interaction.say ("Analyzing " ++ config.baseUrl ++ "...")
  let summary ← makeConnector settings (reading.has .report) config
  sayAll (summaryLines summary)

end RestConnector.CommandLine
