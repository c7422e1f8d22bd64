import Provision.Directory.Basic
import Provision.Item.Credential
import Provision.Removal
import Provision.Upsert

/-!
# Federated credentials of an application

The credentials of an application are fetched as a list, and written one by one
through endpoints of their own.  A new credential gets its id from the server.
-/

namespace Provision

/-- A federated credential that was created, replaced or found to be up to date. -/
structure CredentialUpserted where
  applicationId : String
  name : String
  credentialId : String
  wasCreated : Bool
  written : Bool
deriving DecidableEq, Repr

/-- The document that reports an upsert of a credential. -/
def CredentialUpserted.toJson (upserted : CredentialUpserted) : Json :=
  Json.ofMembers
    [("appObjectId", .string upserted.applicationId), ("name", .string upserted.name),
      ("credentialId", .string upserted.credentialId), ("wasCreated", .bool upserted.wasCreated),
      ("written", .bool upserted.written)]

/-- A federated credential that was removed. -/
structure CredentialRemoved where
  applicationId : String
  name : String
  credentialId : String
deriving DecidableEq, Repr

/-- The document that reports the removal of a credential. -/
def CredentialRemoved.toJson (removed : CredentialRemoved) : Json :=
  Json.ofMembers
    [("appObjectId", .string removed.applicationId), ("name", .string removed.name),
      ("credentialId", .string removed.credentialId)]

namespace Credential

/-- The document of a new credential, whose id is left to the server. -/
def createBody (credential : Credential) : Json :=
  match encode credential with
  | .object members => .object (Members.erase "id" members)
  | document => document

/-- The change that gives an existing credential its settings; without a description the old one is
cleared. -/
def updateBody (credential : Credential) : Json :=
  Json.ofMembers
    [("issuer", .string credential.issuer), ("subject", .string credential.subject),
      ("audiences", Json.ofTexts credential.audiences),
      ("description", Json.ofOptional credential.description)]

end Credential

namespace Directory

/-- The path of the credentials of an application. -/
def credentialsPath (applicationId : String) : String :=
  "applications/" ++ applicationId ++ "/federatedIdentityCredentials"

/-- Fetches the credentials of an application. -/
def fetchCredentials (directory : Directory) (applicationId : String) :
    Program OperationError (Collection Credential) := do
  let items ← directory.list decode? "federated identity credentials" (credentialsPath applicationId)
  return ⟨items⟩

/-- Creates the credential with the name of a specification, or replaces the settings of the one
there is. -/
def upsertCredential (directory : Directory) (applicationId : String) (spec : CredentialSpec) :
    Program OperationError CredentialUpserted := do
  let applicationId ← Argument.required "app_object_id" applicationId
  Specification.validate spec
  let current ← directory.fetchCredentials applicationId
  let planned ← current.upsert spec ""
  let name := spec.name
  let some desired := planned.item? | .fail (.plan (.notFound ("credential '" ++ name ++ "'")))
  if planned.wasCreated then
    Program.progress ("creating federated credential '" ++ name ++ "'")
    let created ← (directory.post (credentialsPath applicationId) desired.createBody).mapFailure
      (.write { key := name, itemId := none, position := none, state := .absent })
    return {
      applicationId, name
      credentialId := ((created.get? "id").bind Json.text?).getD ""
      wasCreated := true
      written := true }
  else
    let credentialId := planned.itemId
    let unchanged := (current.get? credentialId).any fun existing => existing.sameSettings desired
    let outcome (written : Bool) : CredentialUpserted :=
      { applicationId, name, credentialId, wasCreated := false, written }
    if unchanged then return outcome false
    else
      Program.progress ("updating federated credential '" ++ name ++ "'")
      let _ ← (directory.patch (credentialsPath applicationId ++ "/" ++ credentialId)
        desired.updateBody).mapFailure
          (.write { key := name, itemId := some credentialId, position := none
                    state := .present none })
      return outcome true

/-- The credentials of an application for a subject; all of them when it is blank. -/
def listCredentials (directory : Directory) (applicationId : String) (subject : Option String) :
    Program OperationError (List Credential) := do
  let applicationId ← Argument.required "app_object_id" applicationId
  let all ← directory.fetchCredentials applicationId
  match subject.bind Text.nonBlank? with
  | none => return all.items
  | some subject => return all.filter fun credential => credential.subject = subject

/-- Deletes a credential in the steps of its removal, counted from `index`, up to the first
failure. -/
def deleteSteps (directory : Directory) (applicationId name : String) (plan : Removal Credential) :
    Nat → List (StepPosition × Step Credential) → Program OperationError Unit
  | _, [] => return
  | index, (position, _) :: rest => do
    Program.progress (position.text ++ ": deleting federated credential '" ++ name ++ "'")
    (directory.delete (credentialsPath applicationId ++ "/" ++ plan.targetId)).mapFailure
      (.write {
        key := name
        itemId := some plan.targetId
        position := some position
        state := plan.stateIfFailedAt index })
    directory.deleteSteps applicationId name plan (index + 1) rest

/-- Removes the credential with a given name. -/
def removeCredential (directory : Directory) (applicationId name : String) :
    Program OperationError CredentialRemoved := do
  let applicationId ← Argument.required "app_object_id" applicationId
  let name ← Argument.required "name" name
  let current ← directory.fetchCredentials applicationId
  let plan ← current.removeByKey name false
  directory.deleteSteps applicationId name plan 0 plan.positioned
  return { applicationId, name, credentialId := plan.targetId }

end Directory

end Provision
