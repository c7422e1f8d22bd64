import Provision.AuthError
import Provision.Http.Basic
import Provision.Json.Record
import Provision.Text.Blank
import Provision.Text.Quoted
import Provision.Url.Form

/-!
# Authentication

A session holds a bearer token for one tenant.  The token is given beforehand,
one for each audience, or requested from the token authority with the id and the
secret of a client.  An authority whose base URL begins with `mock://` is none at
all, and a made-up token is used.
-/

namespace Provision

/-- The API that a token is meant for. -/
inductive Audience where
  | directory
  | resourceManager
deriving DecidableEq, Repr

namespace Audience

/-- What the scopes for the resource manager begin with. -/
def resourceManagerOrigin : String := "https://management.azure.com/"

/-- The scopes to ask for. -/
def scopes : Audience → List String
  | directory => ["https://graph.microsoft.com/.default"]
  | resourceManager => [resourceManagerOrigin ++ ".default"]

/-- The audience that scopes ask for: the resource manager as soon as one of them does. -/
def ofScopes (scopes : List String) : Audience :=
  if scopes.any (Text.startsWith resourceManagerOrigin) then resourceManager else directory

end Audience

/-- What stands in the place of a secret where values are shown. -/
def redacted : String := "<redacted>"

/-- A bearer token for one tenant. -/
structure Session where
  tenantId : String
  scopes : List String
  token : String
deriving DecidableEq, Repr

/-- A session as it is shown for diagnosis, without its token. -/
def Session.shown (session : Session) : String :=
  Text.quotedRecord "Session"
    [("tenant_id", Text.quoted session.tenantId), ("scopes", Text.quotedList session.scopes),
      ("token", Text.quoted redacted)]

/-- A way to get a token. -/
inductive Authenticator where
  /-- The authority gives a token to a client that knows its secret. -/
  | clientSecret (authority clientId secret : String)
  /-- The tokens are known beforehand. -/
  | tokens (directory resourceManager : Option String)
deriving DecidableEq, Repr

namespace Authenticator

/-- The URL that tokens of a tenant are requested from. -/
def tokenUrl (authority tenantId : String) : String :=
  Text.dropTrailing '/' authority ++ "/" ++ tenantId ++ "/oauth2/v2.0/token"

/-- The request for a token. -/
def tokenDraft (authority tenantId clientId secret : String) (scopes : List String) : Http.Draft :=
  { method := "POST"
    url := tokenUrl authority tenantId
    authorization := none
    accept := "*/*"
    contentType := some "application/x-www-form-urlencoded"
    body := Url.Form.encode
      [("client_id", clientId), ("client_secret", secret), ("grant_type", "client_credentials"),
        ("scope", Text.join " " scopes)] }

/-- The token in the body of an answer. -/
def tokenOf? (body : String) : Option String := do
  let fields ← (← Json.Tree.ofText? body).fields? ["access_token"]
  Json.Tree.required Json.Tree.text? "access_token" fields

/-- The error and its description in the body of an answer. -/
def errorOf? (body : String) : Option (String × String) := do
  let fields ← (← Json.Tree.ofText? body).fields? ["error", "error_description"]
  let error ← Json.Tree.textOrEmpty? "error" fields
  let description ← Json.Tree.textOrEmpty? "error_description" fields
  return (error, description)

/-- What a refusal of the authority means. -/
def classify (tenantId : String) (status : Nat) (body : String) : AuthError :=
  match errorOf? body with
  | some (error, description) =>
    if Text.contains "AADSTS90002" description || error = "invalid_tenant" then
      .invalidTenant tenantId
    else if error = "invalid_client" || error = "unauthorized_client" then
      .invalidClient description
    else .rejected status body
  | none => .rejected status body

/-- The token in an answer of the authority. -/
def readAnswer (tenantId : String) (answer : Http.Answer) : Except AuthError String :=
  if !Remote.isSuccess answer.status then .error (classify tenantId answer.status answer.text)
  else
    match tokenOf? answer.text with
    | some token => .ok token
    | none => .error .unreadable

/-- The token that is known beforehand for an audience. -/
def knownToken (directory resourceManager : Option String) (audience : Audience) :
    Except AuthError String :=
  let (token, field) :=
    match audience with
    | .directory => (directory, "access_token")
    | .resourceManager => (resourceManager, "arm_access_token")
  match token.bind Text.nonBlank? with
  | some token => .ok token
  | none => .error (.missing field)

/-- Gets a token for a tenant. -/
def authenticate {State : Type} (authenticator : Authenticator) (server : Http.Server State)
    (tenantId : String) (scopes : List String) (state : State) : Except AuthError Session × State :=
  match Text.nonBlank? tenantId with
  | none => (.error (.missing "tenant_id"), state)
  | some tenantId =>
    match authenticator with
    | tokens directory resourceManager =>
      ((knownToken directory resourceManager (Audience.ofScopes scopes)).map
        (Session.mk tenantId scopes), state)
    | clientSecret authority clientId secret =>
      if Text.trim clientId = "" then (.error (.missing "client_id"), state)
      else if secret = "" then (.error (.missing "client_secret"), state)
      else if Text.startsWith "mock://" authority then (.ok ⟨tenantId, scopes, "mock-token"⟩, state)
      else
        let (answer, state) :=
          server.exchange (tokenDraft authority tenantId clientId secret scopes) state
        match answer with
        | none => (.error .transport, state)
        | some answer => ((readAnswer tenantId answer).map (Session.mk tenantId scopes), state)

end Authenticator

end Provision
