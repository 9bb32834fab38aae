import RestConnector.Configuration
import RestConnector.Json.Value
import RestConnector.Settings
import RestConnector.Text.Sorted

/-!
# Sessions

A *session* is what every request of a run has in common: headers, perhaps a user name and password,
and whether certificates are verified. Header names do not depend on letter case, so they are kept in
small letters and a later header replaces an earlier one of the same name.
-/

namespace RestConnector

open RestConnector.Json

/-- What every request of a run carries. -/
structure Session where
  /-- The headers under their names in small letters. -/
  headers : List (String × String) := []
  /-- The user name and password of basic authentication. -/
  basic : Option (String × String) := none
  verifyTls : Bool
deriving DecidableEq, Repr

namespace Session

/-- Sets a header, in place of one with the same name. -/
def setHeader (name value : String) (session : Session) : Session :=
  { session with headers := Members.put (Text.lower name) value session.headers }

/-- A text that is there and not empty. -/
def given? (text : Option String) : Option String :=
  text.filter fun text => !text.isEmpty

/-- Two texts that are both there and not empty. -/
def bothGiven? (first second : Option String) : Option (String × String) := do
  let first ← given? first
  let second ← given? second
  some (first, second)

/-- Applies credentials to a session. What is missing or empty is not applied. A client identifier
and its secret are sent like a user name and a password. -/
def authenticate (credentials : Credentials) (session : Session) : Session :=
  match credentials.authentication with
  | .anonymous => session
  | .apiKey =>
    match given? credentials.apiKey with
    | some key =>
      session.setHeader ((given? (some credentials.apiKeyHeader)).getD "X-API-Key") key
    | none => session
  | .bearerToken =>
    match given? credentials.bearerToken with
    | some token => session.setHeader "Authorization" ("Bearer " ++ token)
    | none => session
  | .basic =>
    match bothGiven? credentials.username credentials.password with
    | some pair => { session with basic := some pair }
    | none => session
  | .oauth2 =>
    match bothGiven? credentials.clientId credentials.clientSecret with
    | some pair => { session with basic := some pair }
    | none => session

/-- The session of a run. -/
def create (credentials : Credentials) (settings : Settings) : Session :=
  let bare : Session := { verifyTls := settings.verifyTls }
  (bare.setHeader "User-Agent" settings.userAgent |>.setHeader "Accept" "application/json")
    |>.authenticate credentials

end Session

end RestConnector
