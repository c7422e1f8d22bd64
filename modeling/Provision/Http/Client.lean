import Provision.Client
import Provision.Http.Basic
import Provision.Json.Printer
import Provision.Text.Blank

/-!
# Documents over HTTP

Requests for documents are sent with a bearer token.  The answer of a success is
a document, or nothing when its body is blank; any other answer is kept with its
status and its body as they came.
-/

namespace Provision.Http

/-- The document in an answer. -/
def interpret (verb : Verb) (url : String) (status : Nat) (text : String) :
    Except RemoteError Json :=
  if !Remote.isSuccess status then .error (.refused verb url status text)
  else if Text.trim text = "" then .ok .null
  else
    match Json.ofText? text with
    | some document => .ok document
    | none => .error (.unreadable verb url)

/-- A request for a document before it is sent. -/
def draft (token : String) (request : Request) : Draft :=
  { method := request.verb.name
    url := request.url
    authorization := some ("Bearer " ++ token)
    accept := "application/json"
    contentType := request.body.map fun _ => "application/json"
    body := (request.body.map Json.compact).getD "" }

end Http

/-- The client that sends requests to a server with a bearer token. -/
def Client.http {State : Type} (server : Http.Server State) (token : String) : Client State where
  send request state :=
    let (answer, state) := server.exchange (Http.draft token request) state
    match answer with
    | none => (.error (.transport request.verb request.url), state)
    | some answer => (Http.interpret request.verb request.url answer.status answer.text, state)

end Provision
