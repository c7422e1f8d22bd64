import Provision.Client
import Provision.Json.Printer
import Provision.Replica.Documents
import Provision.Replica.Location
import Provision.Url.Basic

/-!
# A replica of the server

A replica answers requests from documents that it holds by path, as the
directory and the resource manager would.  A request for a path without a
document lists the documents directly below it.  A replica can be told to fail
requests of a certain kind, and it keeps the requests it got.
-/

namespace Provision

/-- A failure that a replica has been told to produce once. -/
structure Failure where
  verb : Verb
  fragment : String
  skip : Nat
  status : Nat
  body : String
deriving DecidableEq, Repr

/-- Whether a failure is meant for a request. -/
def Failure.concerns (failure : Failure) (verb : Verb) (url : String) : Bool :=
  failure.verb = verb && Text.contains failure.fragment url

/-- A server that holds its documents itself. -/
structure Replica where
  documents : Replica.Documents
  collections : List String
  requests : List Request
  failures : List Failure
  ids : IdSupply

namespace Replica

/-- A replica that holds nothing. -/
def empty (ids : IdSupply) : Replica :=
  { documents := [], collections := [], requests := [], failures := [], ids }

/-- The replica with a document stored under a URL. -/
def withDocument (replica : Replica) (url : String) (document : Json) : Replica :=
  { replica with
    documents := replica.documents.store (Location.ofUrl url).path document }

/-- The replica with a URL declared as that of a collection, which may be empty. -/
def withCollection (replica : Replica) (url : String) : Replica :=
  { replica with collections := replica.collections ++ [(Location.ofUrl url).path] }

/-- The replica with a failure to produce when its turn comes. -/
def withFailure (replica : Replica) (failure : Failure) : Replica :=
  { replica with failures := replica.failures ++ [failure] }

/-- The document stored under a URL. -/
def document? (replica : Replica) (url : String) : Option Json :=
  replica.documents.find? (Location.ofUrl url).path

/-- The requests that may have changed the documents. -/
def writes (replica : Replica) : List Request :=
  replica.requests.filter Request.isWrite

/-- Lets the first failure meant for a request have its turn: it is produced, or one of the
requests it lets through is counted off. -/
def takeFailure (verb : Verb) (url : String) : List Failure → Option Failure × List Failure
  | [] => (none, [])
  | failure :: rest =>
    if failure.concerns verb url then
      match failure.skip with
      | 0 => (some failure, rest)
      | skip + 1 => (none, { failure with skip } :: rest)
    else
      let (taken, rest) := takeFailure verb url rest
      (taken, failure :: rest)

/-- The body of an answer that reports an error. -/
def errorBody (code message : String) : Json :=
  Json.ofMembers [("error", Json.ofMembers [("code", .string code), ("message", .string message)])]

/-- The answer for a path where there is nothing. -/
def notFound (path : String) : Nat × Json :=
  (404, errorBody "Request_ResourceNotFound" (path ++ " does not exist"))

/-- The answer for a request whose body is no object. -/
def badBody : Nat × Json :=
  (400, errorBody "BadRequest" "expected a JSON object body")

/-- The members of the body of a request. -/
def bodyMembers (body : Option Json) : Except (Nat × Json) (List (String × Json)) :=
  match body with
  | some (.object members) => .ok members
  | _ => .error badBody

/-- The type that the documents created under a narrowed list are marked with. -/
def typeName (cast : String) : String :=
  "#microsoft.graph." ++
    match cast.toList with
    | [] => ""
    | char :: rest => String.ofList (Text.lowerAscii char :: rest)

/-- Whether a document is of the type that a list is narrowed to. -/
def matchesCast (cast : Option String) (document : Json) : Bool :=
  cast.all fun cast =>
    ((document.get? "@odata.type").bind Json.text?).any fun kind =>
      Text.sameIgnoringCase (Text.lastPiece '.' kind) cast

/-- The path of a resource without scheme and host. -/
def resourceId (path : String) : String :=
  match Url.parse path with
  | .ok url => url.path
  | .error _ => path

/-- The documents directly below a path that are of the type that the list is narrowed to. -/
def children (replica : Replica) (location : Location) : List Json :=
  (replica.documents.filter fun (path, document) =>
    isChild location.path path && matchesCast location.cast document).map Prod.snd

/-- The answer to a request that reads. -/
def read (replica : Replica) (location : Location) : Except (Nat × Json) Json :=
  match replica.documents.find? location.path with
  | some document => .ok document
  | none =>
    let children := replica.children location
    if children.isEmpty && !replica.collections.contains location.path
        && !replica.documents.has (parentOf location.path) then
      .error (notFound location.path)
    else .ok (.object [("value", .array children)])

/-- Gives a document its client id, if it is an application without one. -/
def assignAppId (replica : Replica) (path : String) (members : List (String × Json)) :
    List (String × Json) × Replica :=
  if Text.sameIgnoringCase (lastSegment path) "applications" && !Members.has "appId" members then
    (Members.insert "appId" (.string replica.ids.current) members,
      { replica with ids := replica.ids.rest })
  else (members, replica)

/-- Adds a document to a collection; an id that it lacks is made up. -/
def create (replica : Replica) (location : Location) (members : List (String × Json)) :
    Json × Replica :=
  let (id, replica) :=
    match (Members.find? "id" members).bind Json.text? with
    | some id => (id, replica)
    | none => (replica.ids.current, { replica with ids := replica.ids.rest })
  let (members, replica) :=
    replica.assignAppId location.path (Members.insert "id" (.string id) members)
  let members :=
    match location.cast with
    | some cast => Members.insertNew "@odata.type" (.string (typeName cast)) members
    | none => members
  let document := Json.object members
  (document,
    { replica with documents := replica.documents.store (location.path ++ "/" ++ id) document })

/-- Sets members of a stored document. -/
def change (replica : Replica) (path : String) (changes : List (String × Json)) :
    Except (Nat × Json) Replica :=
  match replica.documents.find? path with
  | some (.object members) =>
    .ok { replica with
      documents := replica.documents.store path (.object (Members.override members changes)) }
  | _ => .error (notFound path)

/-- Stores a document; an id and a name that it lacks are taken from its path. -/
def replace (replica : Replica) (path : String) (members : List (String × Json)) :
    Json × Replica :=
  let document := Json.object <|
    Members.insertNew "name" (.string (lastSegment path))
      (Members.insertNew "id" (.string (resourceId path)) members)
  (document, { replica with documents := replica.documents.store path document })

/-- Deletes a stored document and all documents below it. -/
def delete (replica : Replica) (path : String) : Except (Nat × Json) Replica :=
  if replica.documents.has path then
    .ok { replica with
      documents := replica.documents.filter fun (other, _) =>
        other ≠ path && !isBelow path other }
  else .error (notFound path)

/-- Answers a request for which no failure is due; the documents are changed only when it
succeeds. -/
def handle (replica : Replica) (request : Request) :
    Except (Nat × Json) (Json × Replica) :=
  let location := Location.ofUrl request.url
  match request.verb with
  | .get => do
    let document ← replica.read location
    return (document, replica)
  | .post => do
    let members ← bodyMembers request.body
    return replica.create location members
  | .patch => do
    let changes ← bodyMembers request.body
    let replica ← replica.change location.path changes
    return (.null, replica)
  | .put => do
    let members ← bodyMembers request.body
    return replica.replace location.path members
  | .delete => do
    let replica ← replica.delete location.path
    return (.null, replica)

/-- Answers a request, and keeps it. -/
def answer (request : Request) (replica : Replica) : Except RemoteError Json × Replica :=
  let (due, failures) := takeFailure request.verb request.url replica.failures
  let replica := { replica with requests := replica.requests ++ [request], failures }
  match due with
  | some failure =>
    (.error (.refused request.verb request.url failure.status failure.body), replica)
  | none =>
    match replica.handle request with
    | .ok (document, replica) => (.ok document, replica)
    | .error (status, body) =>
      (.error (.refused request.verb request.url status body.compact), replica)

end Replica

/-- The client that a replica answers. -/
def Client.replica : Client Replica := ⟨Replica.answer⟩

end Provision
