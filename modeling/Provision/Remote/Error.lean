import Provision.Json.Record
import Provision.Remote.Status

/-!
# Requests to a remote API and their failures
-/

namespace Provision

/-- The verbs of requests. -/
inductive Verb where
  | get
  | post
  | patch
  | put
  | delete
deriving DecidableEq, Repr

namespace Verb

/-- The name of a verb. -/
def name : Verb → String
  | get => "GET"
  | post => "POST"
  | patch => "PATCH"
  | put => "PUT"
  | delete => "DELETE"

/-- The verb with a given name. -/
def ofName? : String → Option Verb
  | "GET" => some get
  | "POST" => some post
  | "PATCH" => some patch
  | "PUT" => some put
  | "DELETE" => some delete
  | _ => none

end Verb

/-- A request: what to do, where, and with which document. -/
structure Request where
  verb : Verb
  url : String
  body : Option Json
deriving DecidableEq

/-- Whether a request may change what the server holds. -/
def Request.isWrite (request : Request) : Bool := request.verb ≠ .get

/-- Why a request brought no document. -/
inductive RemoteError where
  /-- The request did not reach the server, or its answer did not come back. -/
  | transport (verb : Verb) (url : String)
  /-- The server answered with a status that reports no success. -/
  | refused (verb : Verb) (url : String) (status : Nat) (body : String)
  /-- The answer holds no document. -/
  | unreadable (verb : Verb) (url : String)
deriving DecidableEq, Repr

namespace RemoteError

/-- The wording of a failure. -/
def message : RemoteError → String
  | transport verb url => verb.name ++ " " ++ url ++ " failed to send"
  | refused verb url status body =>
    verb.name ++ " " ++ url ++ " returned " ++ Remote.statusText status ++ ": " ++ body
  | unreadable verb url => verb.name ++ " " ++ url ++ " returned a body that is not JSON"

/-- The status that the server answered with. -/
def status? : RemoteError → Option Nat
  | refused _ _ status _ => some status
  | _ => none

/-- The error code that a body names in its `error.code`. -/
def codeOfBody? (body : String) : Option String := do
  let envelope ← (← Json.Tree.ofText? body).fields? ["error"]
  let error ← (← Members.find? "error" envelope).fields? ["code"]
  Json.Tree.required Json.Tree.text? "code" error

/-- The error code that the server names in the body of its answer. -/
def serviceCode? : RemoteError → Option String
  | refused _ _ _ body => codeOfBody? body
  | _ => none

/-- Whether the server has nothing under the URL. -/
def isNotFound (error : RemoteError) : Bool := error.status? = some 404

end RemoteError

end Provision
