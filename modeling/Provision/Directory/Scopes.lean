import Provision.Directory.ItemSet

/-!
# Permission scopes of an application
-/

namespace Provision

/-- A permission scope that was created, replaced or found to be up to date. -/
structure ScopeUpserted where
  applicationId : String
  value : String
  scopeId : String
  wasCreated : Bool
  written : Bool
deriving DecidableEq, Repr

/-- The document that reports an upsert of a scope. -/
def ScopeUpserted.toJson (upserted : ScopeUpserted) : Json :=
  Json.ofMembers
    [("appObjectId", .string upserted.applicationId), ("value", .string upserted.value),
      ("scopeId", .string upserted.scopeId), ("wasCreated", .bool upserted.wasCreated),
      ("written", .bool upserted.written)]

/-- A permission scope that was removed, and the steps it took. -/
structure ScopeRemoved where
  applicationId : String
  value : String
  scopeId : String
  steps : List StepKind
deriving DecidableEq, Repr

/-- The document that reports the removal of a scope. -/
def ScopeRemoved.toJson (removed : ScopeRemoved) : Json :=
  Json.ofMembers
    [("appObjectId", .string removed.applicationId), ("value", .string removed.value),
      ("scopeId", .string removed.scopeId),
      ("steps", Json.ofTexts (removed.steps.map StepKind.name))]

namespace Directory

/-- Creates or replaces a permission scope of an application. -/
def upsertScope (directory : Directory) (applicationId : String) (spec : ScopeSpec) :
    Program OperationError ScopeUpserted := do
  let applicationId ← Argument.required "app_object_id" applicationId
  let applied ← directory.upsertItem ItemSet.permissionScopes applicationId spec
  return {
    applicationId
    value := spec.value
    scopeId := applied.upserted.itemId
    wasCreated := applied.upserted.wasCreated
    written := applied.written }

/-- The permission scopes of an application. -/
def listScopes (directory : Directory) (applicationId : String) :
    Program OperationError (List Scope) := do
  let applicationId ← Argument.required "app_object_id" applicationId
  let fetched ← directory.fetch ItemSet.permissionScopes applicationId
  return fetched.collection.items

/-- Removes a permission scope of an application: it is disabled first, and left out then. -/
def removeScope (directory : Directory) (applicationId value : String) :
    Program OperationError ScopeRemoved := do
  let applicationId ← Argument.required "app_object_id" applicationId
  let value ← Argument.required "value" value
  let plan ← directory.removeItem ItemSet.permissionScopes applicationId value
  return { applicationId, value, scopeId := plan.targetId, steps := plan.steps.map Step.kind }

end Directory

end Provision
