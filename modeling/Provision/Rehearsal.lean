import Provision.Client

/-!
# Rehearsals

A rehearsal lets a program read from a server, but holds its writes back and
answers them itself: what would be created is given back as if it had been, with
an id of zeros where it has none.
-/

namespace Provision

/-- A server that is only read from, and the writes that were held back. -/
structure Rehearsal (State : Type) where
  inner : State
  skipped : List Request

namespace Rehearsal

/-- The id of a resource that was not created. -/
def placeholderId : String := "00000000-0000-0000-0000-000000000000"

/-- The answer to a write that is held back. -/
def pretend (request : Request) : Json :=
  match request.verb, request.body with
  | .post, some (.object members) | .put, some (.object members) =>
    .object (Members.insertNew "id" (.string placeholderId) members)
  | .post, _ | .put, _ => .object [("id", .string placeholderId)]
  | _, _ => .null

end Rehearsal

/-- The client that reads through another one and holds back writes. -/
def Client.rehearsing {State : Type} (client : Client State) : Client (Rehearsal State) where
  send request rehearsal :=
    if request.isWrite then
      (.ok (Rehearsal.pretend request),
        { rehearsal with skipped := rehearsal.skipped ++ [request] })
    else
      let (answer, inner) := client.send request rehearsal.inner
      (answer, { rehearsal with inner })

end Provision
