import Provision.Remote.Status

/-!
# Failures of authentication
-/

namespace Provision

/-- Why no token was obtained. -/
inductive AuthError where
  /-- A required value is missing. -/
  | missing (field : String)
  /-- The authority does not know the tenant. -/
  | invalidTenant (tenantId : String)
  /-- The authority does not accept the client. -/
  | invalidClient (description : String)
  /-- The authority refused the request for any other reason. -/
  | rejected (status : Nat) (body : String)
  /-- The request did not reach the authority, or its answer did not come back. -/
  | transport
  /-- The answer holds no token. -/
  | unreadable
deriving DecidableEq, Repr

/-- The wording of a failure. -/
def AuthError.message : AuthError → String
  | missing field => "missing required value: " ++ field
  | invalidTenant tenantId =>
    "tenant '" ++ tenantId ++ "' was not recognised by the token authority"
  | invalidClient description => "client credentials were rejected: " ++ description
  | rejected status body =>
    "token request rejected (status " ++ Remote.statusText status ++ "): " ++ body
  | transport => "token request failed"
  | unreadable => "token response could not be decoded"

end Provision
