import Provision.Directory.ItemSet

/-!
# Identifier URIs of an application
-/

namespace Provision

/-- An identifier URI that was added or found to be there. -/
structure UriAdded where
  applicationId : String
  uri : String
  wasCreated : Bool
  written : Bool
deriving DecidableEq, Repr

/-- The document that reports the addition of a URI. -/
def UriAdded.toJson (added : UriAdded) : Json :=
  Json.ofMembers
    [("appObjectId", .string added.applicationId), ("uri", .string added.uri),
      ("wasCreated", .bool added.wasCreated), ("written", .bool added.written)]

/-- An identifier URI that was removed. -/
structure UriRemoved where
  applicationId : String
  uri : String
deriving DecidableEq, Repr

/-- The document that reports the removal of a URI. -/
def UriRemoved.toJson (removed : UriRemoved) : Json :=
  Json.ofMembers
    [("appObjectId", .string removed.applicationId), ("uri", .string removed.uri)]

namespace Directory

/-- Adds an identifier URI to an application; when none is given, the one made of its client
id. -/
def addIdentifierUri (directory : Directory) (applicationId : String) (uri : Option String) :
    Program OperationError UriAdded := do
  let applicationId ← Argument.required "app_object_id" applicationId
  match uri with
  | some uri => Specification.validate (UriSpec.mk (Text.trim uri))
  | none => pure ()
  let fetched ← directory.fetch ItemSet.identifierUris applicationId
  let spec : UriSpec ←
    match uri with
    | some uri => pure ⟨Text.trim uri⟩
    | none => do
      let appId ← Argument.required "app_id" fetched.appId
      pure (UriSpec.ofApp appId)
  let applied ← directory.upsertFetched ItemSet.identifierUris fetched spec
  return {
    applicationId
    uri := spec.uri
    wasCreated := applied.upserted.wasCreated
    written := applied.written }

/-- The identifier URIs of an application. -/
def listIdentifierUris (directory : Directory) (applicationId : String) :
    Program OperationError (List String) := do
  let applicationId ← Argument.required "app_object_id" applicationId
  let fetched ← directory.fetch ItemSet.identifierUris applicationId
  return fetched.collection.items.map IdentifierUri.uri

/-- Removes an identifier URI of an application in a single write. -/
def removeIdentifierUri (directory : Directory) (applicationId uri : String) :
    Program OperationError UriRemoved := do
  let applicationId ← Argument.required "app_object_id" applicationId
  let uri ← Argument.required "uri" uri
  let _ ← directory.removeItem ItemSet.identifierUris applicationId uri
  return { applicationId, uri }

end Directory

end Provision
