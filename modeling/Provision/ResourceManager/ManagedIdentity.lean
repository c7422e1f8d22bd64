import Provision.Argument
import Provision.Deletion
import Provision.ResourceManager.Basic

/-!
# Managed identities

A managed identity is a resource of the group that is worked on.  Its name is
made of 3 to 128 letters, digits, hyphens and underscores.
-/

namespace Provision

/-- What the server knows about a managed identity. -/
structure ManagedIdentityProperties where
  principalId : Option String := none
  clientId : Option String := none
  tenantId : Option String := none
deriving DecidableEq, Repr, Inhabited

instance : Record ManagedIdentityProperties where
  encode properties := Json.ofMembers <| Json.present
    [("principalId", properties.principalId.map .string),
      ("clientId", properties.clientId.map .string), ("tenantId", properties.tenantId.map .string)]
  decode? document := do
    let fields ← document.fields? ["principalId", "clientId", "tenantId"]
    let principalId ← Json.optional Json.text? "principalId" fields
    let clientId ← Json.optional Json.text? "clientId" fields
    let tenantId ← Json.optional Json.text? "tenantId" fields
    return { principalId, clientId, tenantId }

/-- An identity that is a resource. -/
structure ManagedIdentity where
  id : String
  name : String
  location : String
  properties : ManagedIdentityProperties
deriving DecidableEq, Repr

instance : Record ManagedIdentity where
  encode identity := Json.ofMembers
    [("id", .string identity.id), ("name", .string identity.name),
      ("location", .string identity.location), ("properties", encode identity.properties)]
  decode? document := do
    let fields ← document.fields? ["id", "name", "location", "properties"]
    let id ← Json.required Json.text? "id" fields
    let name ← Json.required Json.text? "name" fields
    let location ← Json.withDefault Json.text? "" "location" fields
    let properties ← Json.withDefault decode? {} "properties" fields
    return { id, name, location, properties }

namespace ManagedIdentity

/-- The version of the interface for managed identities. -/
def version : String := "2023-01-31"

/-- Whether a character may stand in the name of a managed identity. -/
def isNameChar (char : Char) : Bool :=
  char.isAlphanum || char = '-' || char = '_'

/-- The trimmed name, if it may be one of a managed identity. -/
def checkName (name : String) : Except PlanError String := do
  let name ← Argument.required "name" name
  let size := name.toList.length
  if 3 ≤ size ∧ size ≤ 128 ∧ name.toList.all isNameChar then return name
  else throw (.invalid "name" "use 3-128 letters, digits, hyphens or underscores")

end ManagedIdentity

namespace ResourceManager

/-- The resource id of all managed identities of the group. -/
def identitiesPath (manager : ResourceManager) : String :=
  manager.resourceGroupPath ++ "/providers/Microsoft.ManagedIdentity/userAssignedIdentities"

/-- The resource id of a managed identity of the group. -/
def identityPath (manager : ResourceManager) (name : String) : String :=
  manager.identitiesPath ++ "/" ++ name

/-- Creates a managed identity, or returns the one there is. -/
def createManagedIdentity (manager : ResourceManager) (name location : String) :
    Program OperationError ManagedIdentity := do
  let name ← ManagedIdentity.checkName name
  let location ← Argument.required "location" location
  Program.progress ("creating managed identity '" ++ name ++ "' in " ++ location)
  let document ← (manager.put (manager.identityPath name) ManagedIdentity.version
    (Json.ofMembers [("location", .string location)])).mapFailure
      (.write { key := name, itemId := none, position := none, state := .absent })
  let some (created : ManagedIdentity) := decode? document | .fail (.decode "managed identity")
  return created

/-- The managed identities of the group. -/
def listManagedIdentities (manager : ResourceManager) :
    Program OperationError (List ManagedIdentity) :=
  manager.list decode? "managed identities" manager.identitiesPath ManagedIdentity.version []

/-- Deletes a managed identity by its name. -/
def deleteManagedIdentity (manager : ResourceManager) (name : String) :
    Program OperationError Deleted := do
  let name ← ManagedIdentity.checkName name
  Program.progress ("deleting managed identity '" ++ name ++ "'")
  (manager.delete (manager.identityPath name) ManagedIdentity.version).mapFailure
    (Deleted.failure "managed identity" name)
  return ⟨"managed identity", manager.identityPath name⟩

end ResourceManager

end Provision
