import Provision.Text.Base64
import Provision.Url.Basic

/-!
# Requests over HTTP

A message is what a server sees of a request.  Only URLs of the scheme `http`
lead to a server here; user name and password in a URL are sent along as basic
credentials.  A server answers a message with a status and bytes, or drops the
connection.
-/

namespace Provision.Http

/-- What a server sees of a request. -/
structure Message where
  method : String
  target : String
  host : String
  authorization : Option String
  accept : Option String
  contentType : Option String
  body : String
deriving DecidableEq, Repr

/-- What a server answers. -/
structure Answer where
  status : Nat
  body : List UInt8
deriving DecidableEq, Repr

namespace Answer

/-- Whether an answer ends the exchange; other ones only announce that an answer will come. -/
def isFinal (answer : Answer) : Bool :=
  answer.status < 100 || answer.status = 101 || 200 ≤ answer.status

/-- Whether the status of an answer says that it has no body. -/
def isBodiless (answer : Answer) : Bool :=
  answer.status = 101 || answer.status = 204 || answer.status = 304

/-- The text of an answer; bytes that are no text become replacement characters. -/
def text (answer : Answer) : String :=
  if answer.isBodiless then "" else Text.Utf8.decodeLossy answer.body

end Answer

/-- A server, which may change its state with each message; it drops the connection where there is
no answer. -/
structure Server (State : Type) where
  respond : Message → State → Option Answer × State

/-- A server that nobody reaches. -/
def Server.unreachable : Server Unit := ⟨fun _ _ => (none, ())⟩

/-- Whether a text may be the value of a header. -/
def isHeaderValue (text : String) : Bool :=
  text.toList.all fun char => (0x20 ≤ char.toNat && char.toNat ≠ 0x7F) || char = '\t'

/-- The value of a header as it arrives, without blanks at its end. -/
def receivedValue (text : String) : String :=
  String.ofList (text.toList.reverse.dropWhile fun char => char = ' ' || char = '\t').reverse

/-- The text that a percent-encoded part of a URL stands for. -/
def decodedPart? (part : String) : Option String :=
  (Text.Utf8.decode? (Url.percentDecode (Text.Utf8.encode part.toList))).map String.ofList

/-- The credentials for the user that a URL names. -/
def basicCredentials? (url : Url) : Option String := do
  let username ← decodedPart? url.username
  let password := url.password.bind decodedPart?
  if username = "" ∧ password = none then none
  else
    let bytes := Text.Utf8.encode (username ++ ":" ++ password.getD "").toList
    some ("Basic " ++ String.ofList (Text.Base64.encode bytes))

/-- A request before it is sent. -/
structure Draft where
  method : String
  url : String
  authorization : Option String
  accept : String
  contentType : Option String
  body : String

/-- The message of a request, if its URL leads to a server and its headers can be sent. -/
def Draft.message? (draft : Draft) : Option Message :=
  match Url.parse draft.url with
  | .error _ => none
  | .ok url =>
    if url.scheme = "http" ∧ draft.authorization.all isHeaderValue then
      some {
        method := draft.method
        target := url.target
        host := url.hostAndPort
        authorization := basicCredentials? url <|> draft.authorization.map receivedValue
        accept := some draft.accept
        contentType := draft.contentType
        body := draft.body }
    else none

/-- Sends a request; there is no answer when it does not reach a server, or when the server only
announces one. -/
def Server.exchange {State : Type} (server : Server State) (draft : Draft) (state : State) :
    Option Answer × State :=
  match draft.message? with
  | some message =>
    let (answer, state) := server.respond message state
    (answer.filter Answer.isFinal, state)
  | none => (none, state)

end Provision.Http
