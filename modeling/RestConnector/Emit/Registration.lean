import RestConnector.Emit.Client

/-!
# Registration

The registration module has what it takes to build a ready client: the options of the connection, two
ways to authenticate, and four factory functions. All of it is fixed text but for the names that are
formed from the name of the API, and for the base URL.
-/

namespace RestConnector.Emit

open RestConnector.Text

/-! ## Names -/

/-- The factory of a client without authentication. -/
def plainFactory (stem : String) : String :=
  "create_" ++ stem ++ "_client"

/-- The factory of a client built from explicit options. -/
def optionsFactory (stem : String) : String :=
  plainFactory stem ++ "_from_options"

/-- The factory of a client with the client-credentials grant. -/
def oauthFactory (stem : String) : String :=
  plainFactory stem ++ "_with_oauth"

/-- The factory of a client with a bearer token. -/
def tokenFactory (stem : String) : String :=
  plainFactory stem ++ "_with_token"

/-- The factories, in the order in which they are exported. -/
def factories (stem : String) : List String :=
  [plainFactory stem, optionsFactory stem, oauthFactory stem, tokenFactory stem]

/-- The class of the options. -/
def optionsName : String := "ConnectorOptions"

/-- The literal of the user agent that the client announces. -/
def userAgent (stem : String) : String :=
  stringLiteral (onChars (replace "_" "-") stem ++ "-client/1.0")

/-! ## Classes -/

/-- The class of the connection's options. -/
def optionsClass (apiName stem : String) : List String :=
  [ "@dataclass",
    "class ConnectorOptions:",
    "    \"\"\"Transport settings for a " ++ clientName apiName ++ ".\"\"\"",
    "",
    "    base_url: str = DEFAULT_BASE_URL",
    "    timeout: float = 30.0",
    "    user_agent: str = " ++ userAgent stem,
    "    headers: Dict[str, str] = field(default_factory=dict)",
    "    verify_ssl: bool = True" ]

/-- Authentication by a bearer token. -/
def bearerClass : List String :=
  [ "class BearerTokenAuth(httpx.Auth):",
    "    \"\"\"Sends a static bearer token with every request.\"\"\"",
    "",
    "    def __init__(self, token: str):",
    "        self.token = token",
    "",
    "    def auth_flow(self, request):",
    "        request.headers[\"Authorization\"] = f\"Bearer \x7bself.token\x7d\"",
    "        yield request" ]

/-- Authentication by the client-credentials grant. -/
def credentialsClass : List String :=
  [ "class ClientCredentialsAuth(httpx.Auth):",
    "    \"\"\"OAuth2 client-credentials flow; the token is cached until it expires.\"\"\"",
    "",
    "    requires_response_body = True",
    "",
    "    # Renew slightly before the server-side expiry",
    "    EXPIRY_MARGIN = 60",
    "",
    "    def __init__(",
    "        self,",
    "        token_endpoint: str,",
    "        client_id: str,",
    "        client_secret: str,",
    "        scope: Optional[str] = None,",
    "    ):",
    "        self.token_endpoint = token_endpoint",
    "        self.client_id = client_id",
    "        self.client_secret = client_secret",
    "        self.scope = scope",
    "        self._access_token: Optional[str] = None",
    "        self._expires_at = 0.0",
    "",
    "    def auth_flow(self, request):",
    "        if self._access_token is None or time.monotonic() >= self._expires_at:",
    "            yield from self._refresh_token()",
    "",
    "        request.headers[\"Authorization\"] = f\"Bearer \x7bself._access_token\x7d\"",
    "        response = yield request",
    "",
    "        if response.status_code == 401:",
    "            # stale or revoked token: renew once and replay",
    "            yield from self._refresh_token()",
    "            request.headers[\"Authorization\"] = f\"Bearer \x7bself._access_token\x7d\"",
    "            yield request",
    "",
    "    def _refresh_token(self):",
    "        data = \x7b",
    "            \"grant_type\": \"client_credentials\",",
    "            \"client_id\": self.client_id,",
    "            \"client_secret\": self.client_secret,",
    "        \x7d",
    "        if self.scope:",
    "            data[\"scope\"] = self.scope",
    "",
    "        response = yield httpx.Request(\"POST\", self.token_endpoint, data=data)",
    "        response.raise_for_status()",
    "",
    "        payload = response.json()",
    "        self._access_token = payload[\"access_token\"]",
    "        expires_in = int(payload.get(\"expires_in\", 3600))",
    "        self._expires_at = time.monotonic() + max(expires_in - self.EXPIRY_MARGIN, 0)" ]

/-! ## Factories -/

/-- The factory of a client without authentication. -/
def plainFunction (apiName stem : String) : List String :=
  [ "def " ++ plainFactory stem ++ "(base_url: str = DEFAULT_BASE_URL) -> " ++
      clientName apiName ++ ":",
    "    \"\"\"Client without authentication.\"\"\"",
    "    return " ++ optionsFactory stem ++ "(ConnectorOptions(base_url=base_url))" ]

/-- The factory of a client with a bearer token. -/
def tokenFunction (apiName stem : String) : List String :=
  [ "def " ++ tokenFactory stem ++ "(base_url: str, api_token: str) -> " ++
      clientName apiName ++ ":",
    "    \"\"\"Client sending `Authorization: Bearer <api_token>`.\"\"\"",
    "    return " ++ optionsFactory stem ++ "(",
    "        ConnectorOptions(base_url=base_url),",
    "        auth=BearerTokenAuth(api_token),",
    "    )" ]

/-- The factory of a client with the client-credentials grant. -/
def oauthFunction (apiName stem : String) : List String :=
  [ "def " ++ oauthFactory stem ++ "(",
    "    base_url: str,",
    "    client_id: str,",
    "    client_secret: str,",
    "    token_endpoint: str,",
    "    scope: Optional[str] = None,",
    ") -> " ++ clientName apiName ++ ":",
    "    \"\"\"Client authenticating with the OAuth2 client-credentials grant.\"\"\"",
    "    return " ++ optionsFactory stem ++ "(",
    "        ConnectorOptions(base_url=base_url),",
    "        auth=ClientCredentialsAuth(token_endpoint, client_id, client_secret, scope),",
    "    )" ]

/-- The factory of a client built from explicit options. -/
def optionsFunction (apiName stem : String) : List String :=
  [ "def " ++ optionsFactory stem ++ "(",
    "    options: ConnectorOptions,",
    "    auth: Optional[httpx.Auth] = None,",
    ") -> " ++ clientName apiName ++ ":",
    "    \"\"\"Client built from explicit options; the client owns and closes its transport.\"\"\"",
    "    headers = \x7b\"Accept\": \"application/json\", \"User-Agent\": options.user_agent\x7d",
    "    headers.update(options.headers)",
    "",
    "    http = httpx.AsyncClient(",
    "        base_url=options.base_url,",
    "        timeout=options.timeout,",
    "        headers=headers,",
    "        auth=auth,",
    "        verify=options.verify_ssl,",
    "    )",
    "    return " ++ clientName apiName ++ "(" ++ implementationName apiName ++ "(http), http)" ]

/-! ## The module -/

/-- The registration module. -/
def registrationModule (apiName stem baseUrl : String) : Module :=
  [ .doc ("Factories for " ++ clientName apiName ++ ". Generated, do not edit."),
    .blank,
    .importModule "time",
    .importNames "dataclasses" ["dataclass", "field"] "",
    .importNames "typing" ["Dict", "Optional"] "",
    .blank,
    .importModule "httpx",
    .blank,
    .importNames (contractSource stem) [implementationName apiName] "",
    .importNames (clientSource stem) [clientName apiName] "",
    .blank,
    .assign "DEFAULT_BASE_URL" (stringLiteral baseUrl) ] ++
    gap ++ [.define optionsName (optionsClass apiName stem)] ++
    gap ++ [.define "BearerTokenAuth" bearerClass] ++
    gap ++ [.define "ClientCredentialsAuth" credentialsClass] ++
    gap ++ [.define (plainFactory stem) (plainFunction apiName stem)] ++
    gap ++ [.define (tokenFactory stem) (tokenFunction apiName stem)] ++
    gap ++ [.define (oauthFactory stem) (oauthFunction apiName stem)] ++
    gap ++ [.define (optionsFactory stem) (optionsFunction apiName stem)]

end RestConnector.Emit
