import Provision.Directory.AgentIdentity
import Provision.Directory.Credentials
import Provision.Directory.IdentifierUris
import Provision.Directory.Scopes
import Provision.Authentication
import Provision.Report
import Provision.ResourceManager.ManagedIdentity
import Provision.ResourceManager.RoleAssignment

/-!
# Commands

A command is what a person asks for, with its arguments.  Some commands are
served by the directory and some by the resource manager; each runs one operation
and reports its outcome.
-/

namespace Provision

/-- What both kinds of create ask for. -/
structure CreateArguments where
  name : String
  sponsors : List String
  onDuplicate : Namesake.Policy
deriving DecidableEq, Repr

/-- A command for the directory. -/
inductive DirectoryCommand where
  | createBlueprint (create : CreateArguments) (owners : List String)
  | listBlueprints (filter : Option String)
  | deleteBlueprint (id : String)
  | createIdentity (blueprintAppId : String) (create : CreateArguments)
  | listIdentities (blueprintAppId : Option String)
  | deleteIdentity (id : String)
  | upsertScope (application : String) (spec : ScopeSpec)
  | listScopes (application : String)
  | removeScope (application value : String)
  | addUri (application : String) (uri : Option String)
  | listUris (application : String)
  | removeUri (application uri : String)
  | upsertCredential (application : String) (spec : CredentialSpec)
  | listCredentials (application : String) (subject : Option String)
  | removeCredential (application name : String)

/-- A command for the resource manager. -/
inductive ResourceCommand where
  | createIdentity (name location : String)
  | listIdentities
  | deleteIdentity (name : String)
  | assignRole (storageAccount principalId : String) (role : StorageRole)
  | listAssignments (storageAccount : String) (principalId : Option String)
  | deleteAssignment (id : String)

/-- A command. -/
inductive Command where
  | directory (command : DirectoryCommand)
  | resources (command : ResourceCommand)

/-- The audience that a command needs a token for. -/
def Command.audience : Command → Audience
  | directory _ => .directory
  | resources _ => .resourceManager

/-- Why a command failed, and what it was about if its operation does not say so. -/
structure CommandError where
  context : Option String
  cause : OperationError
deriving DecidableEq, Repr

namespace CommandError

/-- The wording of a failure from the outside in: what failed, why, and the failed request. -/
def chain (error : CommandError) : List String :=
  error.context.toList ++ [error.cause.message]
    ++ (error.cause.remote?.map RemoteError.message).toList

/-- The outermost part of the wording. -/
def headline (error : CommandError) : String := error.context.getD error.cause.message

end CommandError

namespace Report

/-- Reports the outcome of an operation. -/
def single {Outcome : Type} (toJson : Outcome → Json) (operation : Program OperationError Outcome) :
    Program OperationError Report := do
  let outcome ← operation
  return ofOutcome (toJson outcome)

/-- Reports the results of an operation that lists them. -/
def listing {Result : Type} [Record Result] (name : String)
    (operation : Program OperationError (List Result)) : Program OperationError Report := do
  let results ← operation
  return ofList name (results.map encode)

end Report

/-- Runs an operation for a command that says what failed, or does not. -/
def Program.within {Result : Type} (context : Option String)
    (operation : Program OperationError Result) : Program CommandError Result :=
  operation.mapFailure (CommandError.mk context)

/-- The operation of a command for the directory. -/
def DirectoryCommand.run (directory : Directory) :
    DirectoryCommand → Program CommandError Report
  | createBlueprint create owners =>
    (Report.single BlueprintCreated.toJson <|
      directory.createBlueprint create.name create.sponsors owners create.onDuplicate).within
        (some ("failed to create blueprint '" ++ create.name ++ "'"))
  | listBlueprints filter =>
    (Report.listing "blueprints" (directory.listBlueprints filter)).within none
  | deleteBlueprint id => (Report.single Deleted.toJson (directory.deleteBlueprint id)).within none
  | createIdentity blueprintAppId create =>
    (Report.single AgentIdentityCreated.toJson <|
      directory.createAgentIdentity blueprintAppId create.name create.sponsors
        create.onDuplicate).within
        (some ("failed to create agent identity '" ++ create.name ++ "'"))
  | listIdentities blueprintAppId =>
    (Report.listing "agentIdentities" (directory.listAgentIdentities blueprintAppId)).within none
  | deleteIdentity id =>
    (Report.single Deleted.toJson (directory.deleteAgentIdentity id)).within none
  | upsertScope application spec =>
    (Report.single ScopeUpserted.toJson (directory.upsertScope application spec)).within none
  | listScopes application =>
    (Report.listing "scopes" (directory.listScopes application)).within none
  | removeScope application value =>
    (Report.single ScopeRemoved.toJson (directory.removeScope application value)).within none
  | addUri application uri =>
    (Report.single UriAdded.toJson (directory.addIdentifierUri application uri)).within none
  | listUris application =>
    (Report.listing "identifierUris" (directory.listIdentifierUris application)).within none
  | removeUri application uri =>
    (Report.single UriRemoved.toJson (directory.removeIdentifierUri application uri)).within none
  | upsertCredential application spec =>
    (Report.single CredentialUpserted.toJson
      (directory.upsertCredential application spec)).within none
  | listCredentials application subject =>
    (Report.listing "credentials" (directory.listCredentials application subject)).within none
  | removeCredential application name =>
    (Report.single CredentialRemoved.toJson
      (directory.removeCredential application name)).within none

/-- The operation of a command for the resource manager. -/
def ResourceCommand.run (manager : ResourceManager) :
    ResourceCommand → Program CommandError Report
  | createIdentity name location =>
    (Report.single encode (manager.createManagedIdentity name location)).within none
  | listIdentities =>
    (Report.listing "managedIdentities" manager.listManagedIdentities).within none
  | deleteIdentity name =>
    (Report.single Deleted.toJson (manager.deleteManagedIdentity name)).within none
  | assignRole storageAccount principalId role =>
    (Report.single RoleAssigned.toJson
      (manager.assignRole storageAccount principalId role)).within none
  | listAssignments storageAccount principalId =>
    (Report.listing "roleAssignments"
      (manager.listRoleAssignments storageAccount principalId)).within none
  | deleteAssignment id =>
    (Report.single Deleted.toJson (manager.deleteRoleAssignment id)).within none

end Provision
