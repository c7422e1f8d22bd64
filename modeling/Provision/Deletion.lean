import Provision.Json.Record
import Provision.OperationError

/-!
# Deleting a resource that is addressed by its id
-/

namespace Provision

/-- What was deleted. -/
structure Deleted where
  resource : String
  id : String
deriving DecidableEq, Repr

namespace Deleted

/-- The document that reports a deletion. -/
def toJson (deleted : Deleted) : Json :=
  Json.ofMembers [("resource", .string deleted.resource), ("id", .string deleted.id)]

/-- The failure of a deletion: a resource that the server does not have was not found, any other is
still there. -/
def failure (resource id : String) (cause : RemoteError) : OperationError :=
  if cause.isNotFound then .plan (.notFound (resource ++ " '" ++ id ++ "'"))
  else .write { key := id, itemId := some id, position := none, state := .present none } cause

end Deleted

end Provision
