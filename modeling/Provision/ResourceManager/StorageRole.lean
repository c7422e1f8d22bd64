import Provision.Json.Record
import Provision.Text.Blank
import Provision.Text.Case

/-!
# Roles for the data of a storage account

Each role has a short name, a display name, and the identifier of its
definition, which is the last part of the definition's resource id.
-/

namespace Provision

/-- A built-in role for the data of a storage account. -/
inductive StorageRole where
  | blobDataReader
  | blobDataContributor
  | blobDataOwner
  | queueDataContributor
  | tableDataContributor
deriving DecidableEq, Repr, Inhabited

namespace StorageRole

/-- All roles. -/
def all : List StorageRole :=
  [blobDataReader, blobDataContributor, blobDataOwner, queueDataContributor, tableDataContributor]

/-- The identifier of a role's definition. -/
def definitionGuid : StorageRole → String
  | blobDataReader => "2a2b9908-6ea1-4ae2-8e65-a410df84e7d1"
  | blobDataContributor => "ba92f5b4-2d11-453d-a403-e96b0029c9fe"
  | blobDataOwner => "b7e6dc6d-f1e8-4753-8033-0f276bb0955b"
  | queueDataContributor => "974c5e8b-45b9-4653-ba55-5f855dd0fb88"
  | tableDataContributor => "0a9a7e1f-b9d0-4cc4-a60d-0319b160aaa3"

/-- The name of a role as people read it. -/
def displayName : StorageRole → String
  | blobDataReader => "Storage Blob Data Reader"
  | blobDataContributor => "Storage Blob Data Contributor"
  | blobDataOwner => "Storage Blob Data Owner"
  | queueDataContributor => "Storage Queue Data Contributor"
  | tableDataContributor => "Storage Table Data Contributor"

/-- The short name of a role. -/
def slug : StorageRole → String
  | blobDataReader => "blob-data-reader"
  | blobDataContributor => "blob-data-contributor"
  | blobDataOwner => "blob-data-owner"
  | queueDataContributor => "queue-data-contributor"
  | tableDataContributor => "table-data-contributor"

instance : Record StorageRole where
  encode role := .string role.slug
  decode? document := document.choice?.bind fun name => all.find? fun role => role.slug = name

/-- The resource id of a role's definition in a subscription. -/
def definitionId (role : StorageRole) (subscriptionId : String) : String :=
  "/subscriptions/" ++ subscriptionId ++ "/providers/Microsoft.Authorization/roleDefinitions/"
    ++ role.definitionGuid

/-- The role whose definition a resource id ends in. -/
def ofDefinitionId? (definitionId : String) : Option StorageRole :=
  let guid := Text.lastPiece '/' definitionId
  all.find? fun role => Text.sameIgnoringCase role.definitionGuid guid

/-- The wording for a name that no role has. -/
def unknownMessage (name : String) : String :=
  "unknown storage role '" ++ name ++ "' (expected one of "
    ++ Text.join ", " (all.map slug) ++ ")"

/-- The role with a given short name or display name, in any letter case; else the wording of the
refusal. -/
def parse (name : String) : Except String StorageRole :=
  let wanted := Text.trim name
  match all.find? fun role =>
      Text.sameIgnoringCase role.slug wanted || Text.sameIgnoringCase role.displayName wanted with
  | some role => .ok role
  | none => .error (unknownMessage wanted)

end StorageRole

end Provision
