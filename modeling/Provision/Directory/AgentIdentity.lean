import Provision.Directory.Blueprint

/-!
# Agent identities

An agent identity is a service principal that was created from a blueprint.
Names are compared among the identities of one blueprint only.
-/

namespace Provision

/-- A service principal created from a blueprint. -/
structure AgentIdentity where
  id : String
  appId : String
  displayName : String
  blueprintId : Option String
deriving DecidableEq, Repr

instance : Record AgentIdentity where
  encode identity := Json.ofMembers <| Json.present
    [("id", some (.string identity.id)), ("appId", some (.string identity.appId)),
      ("displayName", some (.string identity.displayName)),
      ("agentIdentityBlueprintId", identity.blueprintId.map .string)]
  decode? document := do
    let fields ← document.fields? ["id", "appId", "displayName", "agentIdentityBlueprintId"]
    let id ← Json.required Json.text? "id" fields
    let appId ← Json.withDefault Json.text? "" "appId" fields
    let displayName ← Json.withDefault Json.text? "" "displayName" fields
    let blueprintId ← Json.optional Json.text? "agentIdentityBlueprintId" fields
    return { id, appId, displayName, blueprintId }

/-- Whether an identity was created from the blueprint with a given client id. -/
def AgentIdentity.belongsTo (identity : AgentIdentity) (blueprintAppId : String) : Bool :=
  identity.blueprintId.any fun id => Text.sameIgnoringCase id blueprintAppId

/-- An agent identity that was created or kept. -/
structure AgentIdentityCreated where
  objectId : String
  appId : String
  displayName : String
  blueprintAppId : String
  reused : Bool
deriving DecidableEq, Repr

/-- The document that reports an agent identity. -/
def AgentIdentityCreated.toJson (created : AgentIdentityCreated) : Json :=
  Json.ofMembers
    [("objectId", .string created.objectId), ("appId", .string created.appId),
      ("displayName", .string created.displayName),
      ("blueprintAppId", .string created.blueprintAppId), ("reused", .bool created.reused)]

namespace Directory

/-- The agent identities created from a blueprint; all of them when its id is blank. -/
def listAgentIdentities (directory : Directory) (blueprintAppId : Option String) :
    Program OperationError (List AgentIdentity) := do
  let identities ← directory.list decode? "agent identities"
    "servicePrincipals/microsoft.graph.agentIdentity"
  match blueprintAppId.bind Text.nonBlank? with
  | none => return identities
  | some blueprint => return identities.filter fun identity => identity.belongsTo blueprint

/-- The document of a new agent identity. -/
def agentIdentityBody (directory : Directory) (blueprintAppId displayName : String)
    (sponsors : List String) : Json :=
  Json.ofMembers
    [("displayName", .string displayName), ("agentIdentityBlueprintId", .string blueprintAppId),
      ("sponsors@odata.bind", Json.ofTexts (sponsors.map directory.objectReference))]

/-- Creates an agent identity, or keeps one of the same name and blueprint if the policy says
so. -/
def createAgentIdentity (directory : Directory) (blueprintAppId displayName : String)
    (sponsorIds : List String) (policy : Namesake.Policy) :
    Program OperationError AgentIdentityCreated := do
  let blueprintAppId ← Argument.required "blueprint_app_id" blueprintAppId
  let displayName ← Argument.required "display_name" displayName
  let sponsors ← Argument.each "sponsor_ids" sponsorIds
  let siblings ← directory.listAgentIdentities (some blueprintAppId)
  let namesakes := siblings.filter fun identity => sameName identity.displayName displayName
  match ← policy.decide displayName (namesakes.map AgentIdentity.id) with
  | .reuse existingId =>
    Program.progress
      ("agent identity '" ++ displayName ++ "' already exists, keeping " ++ existingId)
    let kept := namesakes.find? fun identity => identity.id = existingId
    return {
      objectId := existingId
      appId := (kept.map AgentIdentity.appId).getD ""
      displayName
      blueprintAppId
      reused := true }
  | .create =>
    Program.progress ("creating agent identity '" ++ displayName ++ "'")
    let document ← (directory.post "servicePrincipals/Microsoft.Graph.AgentIdentity"
      (directory.agentIdentityBody blueprintAppId displayName sponsors)).mapFailure
        (.write { key := displayName, itemId := none, position := none, state := .absent })
    let some (created : AgentIdentity) := decode? document | .fail (.decode "agent identity")
    return {
      objectId := created.id
      appId := created.appId
      displayName
      blueprintAppId
      reused := false }

/-- Deletes an agent identity by its object id. -/
def deleteAgentIdentity (directory : Directory) (objectId : String) :
    Program OperationError Deleted := do
  let objectId ← Argument.required "object_id" objectId
  Program.progress ("deleting agent identity " ++ objectId)
  (directory.delete ("servicePrincipals/" ++ objectId)).mapFailure
    (Deleted.failure "agent identity" objectId)
  return ⟨"agent identity", objectId⟩

end Directory

end Provision
