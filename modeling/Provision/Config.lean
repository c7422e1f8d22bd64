import Provision.Authentication

/-!
# Configuration

The configuration is read from named settings.  A setting that is blank counts
as missing, and every other one is trimmed.
-/

namespace Provision

/-- Settings by name. -/
abbrev Settings := String → Option String

/-- The settings of a list of named values. -/
def Settings.ofList (values : List (String × String)) : Settings := fun name =>
  Members.find? name values

/-- Why the settings make no configuration. -/
inductive ConfigError where
  | missing (setting : String)
  | invalid (setting reason : String)
deriving DecidableEq, Repr

/-- The wording of a failure. -/
def ConfigError.message : ConfigError → String
  | missing setting => setting ++ " must be set"
  | invalid setting reason => setting ++ " is invalid: " ++ reason

/-- What a client proves itself with. -/
inductive Credentials where
  | clientSecret (clientId secret : String)
  | tokens (directory resourceManager : Option String)
deriving DecidableEq, Repr

/-- Credentials as they are shown for diagnosis, without secrets and tokens. -/
def Credentials.shown : Credentials → String
  | clientSecret clientId _ =>
    Text.quotedRecord "ClientSecret"
      [("client_id", Text.quoted clientId), ("client_secret", Text.quoted redacted)]
  | tokens directory resourceManager =>
    let shownToken (token : Option String) : String :=
      match token with
      | some _ => "Some(" ++ Text.quoted redacted ++ ")"
      | none => "None"
    Text.quotedRecord "AccessToken"
      [("graph", shownToken directory), ("resource_manager", shownToken resourceManager)]

/-- Where everything is, and how to get there. -/
structure Config where
  tenantId : String
  credentials : Credentials
  directoryBase : String
  authority : String
  resourceManagerBase : String
  subscriptionId : Option String
  resourceGroup : Option String
  timeout : Option Nat
deriving DecidableEq, Repr

namespace Config

/-- The base URL of the directory when none is set. -/
def defaultDirectoryBase : String := "https://graph.microsoft.com/beta"

/-- The base URL of the authority when none is set. -/
def defaultAuthority : String := "https://login.microsoftonline.com"

/-- The base URL of the resource manager when none is set. -/
def defaultResourceManagerBase : String := "https://management.azure.com"

/-- A base URL of the directory that ends in its preview version, which alone knows blueprints. -/
def previewBase (base : Option String) : String :=
  match base with
  | none => defaultDirectoryBase
  | some base =>
    let trimmed := Text.dropTrailing '/' base
    if Text.endsWith "/beta" trimmed then trimmed
    else
      match Text.stripEnd? "/v1.0" trimmed with
      | some root => root ++ "/beta"
      | none => trimmed ++ "/beta"

/-- A number of seconds: digits, perhaps behind a plus sign, with a value that fits a word. -/
def seconds? (text : String) : Option Nat :=
  let digits :=
    match text.toList with
    | '+' :: digits => digits
    | digits => digits
  if digits.isEmpty then none
  else
    (digits.foldlM (fun value digit => (Text.digitValue? digit).map (value * 10 + ·)) 0).bind
      fun value => if value < UInt64.size then some value else none

/-- The configuration that settings make. -/
def ofSettings (settings : Settings) : Except ConfigError Config := do
  let get (name : String) : Option String := (settings name).bind Text.nonBlank?
  let need (name : String) : Except ConfigError String :=
    match get name with
    | some value => .ok value
    | none => .error (.missing name)
  let tenantId ← need "AZURE_TENANT_ID"
  let credentials ←
    match get "AID_ACCESS_TOKEN", get "AID_ARM_ACCESS_TOKEN" with
    | none, none => do
      let clientId ← need "AZURE_CLIENT_ID"
      let secret ← need "AZURE_CLIENT_SECRET"
      pure (Credentials.clientSecret clientId secret)
    | directory, resourceManager => pure (Credentials.tokens directory resourceManager)
  let timeout ←
    match get "AID_HTTP_TIMEOUT_SECS" with
    | none => pure none
    | some text =>
      match seconds? text with
      | some value => pure (some value)
      | none =>
        throw (.invalid "AID_HTTP_TIMEOUT_SECS"
          ("'" ++ text ++ "' is not a whole number of seconds"))
  return {
    tenantId, credentials, timeout
    directoryBase := previewBase (get "AID_GRAPH_BASE")
    authority := (get "AID_LOGIN_BASE").getD defaultAuthority
    resourceManagerBase :=
      ((get "AID_ARM_BASE").map (Text.dropTrailing '/')).getD defaultResourceManagerBase
    subscriptionId := get "AZURE_SUBSCRIPTION_ID"
    resourceGroup := get "AZURE_RESOURCE_GROUP" }

/-- A number of seconds as it is shown for diagnosis; none at all are shown in a smaller unit. -/
def shownSeconds (seconds : Nat) : String :=
  if seconds = 0 then "0ns" else Text.decimal seconds ++ "s"

/-- A configuration as it is shown for diagnosis, without secrets and tokens. -/
def shown (config : Config) : String :=
  Text.quotedRecord "GraphConfig"
    [("tenant_id", Text.quoted config.tenantId), ("credentials", config.credentials.shown),
      ("graph_base", Text.quoted config.directoryBase),
      ("login_base", Text.quoted config.authority),
      ("arm_base", Text.quoted config.resourceManagerBase),
      ("subscription_id", Text.quotedOptional Text.quoted config.subscriptionId),
      ("resource_group", Text.quotedOptional Text.quoted config.resourceGroup),
      ("timeout", Text.quotedOptional shownSeconds config.timeout)]

/-- The way to get a token. -/
def authenticator (config : Config) : Authenticator :=
  match config.credentials with
  | .clientSecret clientId secret => .clientSecret config.authority clientId secret
  | .tokens directory resourceManager => .tokens directory resourceManager

/-- The subscription and the group of resources that are worked on. -/
def resourceScope (config : Config) : Except ConfigError (String × String) :=
  match config.subscriptionId, config.resourceGroup with
  | none, _ => .error (.missing "AZURE_SUBSCRIPTION_ID")
  | _, none => .error (.missing "AZURE_RESOURCE_GROUP")
  | some subscriptionId, some resourceGroup => .ok (subscriptionId, resourceGroup)

end Config

end Provision
