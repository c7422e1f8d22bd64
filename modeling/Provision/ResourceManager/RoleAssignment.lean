import Provision.Argument
import Provision.Deletion
import Provision.ResourceManager.Basic
import Provision.ResourceManager.StorageRole

/-!
# Role assignments

A role assignment grants a role on a resource to a principal.  The server would
take the same grant twice; assigning a role therefore looks first whether the
principal has it already.
-/

namespace Provision

/-- What a role assignment grants, and to whom. -/
structure RoleAssignmentProperties where
  roleDefinitionId : String
  principalId : String
  principalType : Option String
  scope : Option String
deriving DecidableEq, Repr

instance : Record RoleAssignmentProperties where
  encode properties := Json.ofMembers <| Json.present
    [("roleDefinitionId", some (.string properties.roleDefinitionId)),
      ("principalId", some (.string properties.principalId)),
      ("principalType", properties.principalType.map .string),
      ("scope", properties.scope.map .string)]
  decode? document := do
    let fields ← document.fields? ["roleDefinitionId", "principalId", "principalType", "scope"]
    let roleDefinitionId ← Json.required Json.text? "roleDefinitionId" fields
    let principalId ← Json.required Json.text? "principalId" fields
    let principalType ← Json.optional Json.text? "principalType" fields
    let scope ← Json.optional Json.text? "scope" fields
    return { roleDefinitionId, principalId, principalType, scope }

/-- A grant of a role to a principal. -/
structure RoleAssignment where
  id : String
  name : String
  properties : RoleAssignmentProperties
deriving DecidableEq, Repr

instance : Record RoleAssignment where
  encode assignment := Json.ofMembers
    [("id", .string assignment.id), ("name", .string assignment.name),
      ("properties", encode assignment.properties)]
  decode? document := do
    let fields ← document.fields? ["id", "name", "properties"]
    let id ← Json.required Json.text? "id" fields
    let name ← Json.withDefault Json.text? "" "name" fields
    let properties ← Json.required decode? "properties" fields
    return { id, name, properties }

namespace RoleAssignment

/-- The version of the interface for role assignments. -/
def version : String := "2022-04-01"

/-- The granted role, if it is one of those for storage accounts. -/
def role? (assignment : RoleAssignment) : Option StorageRole :=
  StorageRole.ofDefinitionId? assignment.properties.roleDefinitionId

/-- Whether the assignment is one to a given principal. -/
def isTo (assignment : RoleAssignment) (principalId : String) : Bool :=
  Text.sameIgnoringCase assignment.properties.principalId principalId

/-- Whether the assignment grants a given role to a given principal. -/
def grants (assignment : RoleAssignment) (principalId : String) (role : StorageRole) : Bool :=
  assignment.isTo principalId && assignment.role? = some role

end RoleAssignment

/-- A role that was assigned or found to be granted already. -/
structure RoleAssigned where
  assignmentId : String
  role : String
  principalId : String
  scope : String
  created : Bool
deriving DecidableEq, Repr

/-- The document that reports an assignment. -/
def RoleAssigned.toJson (assigned : RoleAssigned) : Json :=
  Json.ofMembers
    [("assignmentId", .string assigned.assignmentId), ("role", .string assigned.role),
      ("principalId", .string assigned.principalId), ("scope", .string assigned.scope),
      ("created", .bool assigned.created)]

namespace ResourceManager

/-- The resource id of a storage account of the group. -/
def storageAccountScope (manager : ResourceManager) (storageAccount : String) : String :=
  manager.resourceGroupPath ++ "/providers/Microsoft.Storage/storageAccounts/" ++ storageAccount

/-- The resource id of all role assignments on a resource. -/
def assignmentsPath (scope : String) : String :=
  scope ++ "/providers/Microsoft.Authorization/roleAssignments"

/-- The role assignments on a storage account to a principal; all of them when it is blank. -/
def listRoleAssignments (manager : ResourceManager) (storageAccount : String)
    (principalId : Option String) : Program OperationError (List RoleAssignment) := do
  let storageAccount ← Argument.required "storage_account" storageAccount
  let scope := manager.storageAccountScope storageAccount
  let assignments ← manager.list decode? "role assignments" (assignmentsPath scope)
    RoleAssignment.version [("$filter", "atScope()")]
  match principalId.bind Text.nonBlank? with
  | none => return assignments
  | some principal => return assignments.filter fun assignment => assignment.isTo principal

/-- The document of a new role assignment. -/
def assignmentBody (manager : ResourceManager) (principalId : String) (role : StorageRole) : Json :=
  Json.ofMembers
    [("properties", Json.ofMembers
      [("roleDefinitionId", .string (role.definitionId manager.subscriptionId)),
        ("principalId", .string principalId), ("principalType", .string "ServicePrincipal")])]

/-- Grants a role on a storage account to a service principal, unless it has the role already. -/
def assignRole (manager : ResourceManager) (storageAccount principalId : String)
    (role : StorageRole) : Program OperationError RoleAssigned := do
  let storageAccount ← Argument.required "storage_account" storageAccount
  let principalId ← Argument.required "principal_id" principalId
  let scope := manager.storageAccountScope storageAccount
  let existing ← manager.listRoleAssignments storageAccount (some principalId)
  let outcome (assignment : RoleAssignment) (created : Bool) : RoleAssigned :=
    { assignmentId := assignment.id, role := role.displayName, principalId, scope, created }
  match existing.find? fun assignment => assignment.grants principalId role with
  | some found =>
    Program.progress (role.displayName ++ " already granted to " ++ principalId)
    return outcome found false
  | none =>
    let name ← Program.freshId
    Program.progress
      ("granting " ++ role.displayName ++ " on " ++ storageAccount ++ " to " ++ principalId)
    let document ← (manager.put (assignmentsPath scope ++ "/" ++ name) RoleAssignment.version
      (manager.assignmentBody principalId role)).mapFailure
        (.write { key := role.slug, itemId := none, position := none, state := .absent })
    let some (created : RoleAssignment) := decode? document | .fail (.decode "role assignment")
    return outcome created true

/-- Deletes a role assignment by its resource id. -/
def deleteRoleAssignment (manager : ResourceManager) (assignmentId : String) :
    Program OperationError Deleted := do
  let assignmentId ← Argument.required "assignment_id" assignmentId
  if Text.startsWith "/" assignmentId ∧ Text.contains "/roleAssignments/" assignmentId then
    Program.progress ("deleting role assignment " ++ assignmentId)
    (manager.delete assignmentId RoleAssignment.version).mapFailure
      (Deleted.failure "role assignment" assignmentId)
    return ⟨"role assignment", assignmentId⟩
  else
    .fail (.plan (.invalid "assignment_id"
      "expected a full resource id ending in /roleAssignments/\x7bname\x7d"))

end ResourceManager

end Provision
