import Provision.Deletion
import Provision.Directory.Basic
import Provision.Namesake
import Provision.Text.Case

/-!
# Blueprints

A blueprint is an application that agent identities are created from.  Creating
one takes two writes: the application, and the service principal that makes it
usable.  A create whose second write fails says so with the id of the application
that is there already.
-/

namespace Provision

/-- An application that agent identities are created from. -/
structure Blueprint where
  id : String
  appId : String
  displayName : String
  createdDateTime : Option String
deriving DecidableEq, Repr

instance : Record Blueprint where
  encode blueprint := Json.ofMembers <| Json.present
    [("id", some (.string blueprint.id)), ("appId", some (.string blueprint.appId)),
      ("displayName", some (.string blueprint.displayName)),
      ("createdDateTime", blueprint.createdDateTime.map .string)]
  decode? document := do
    let fields ← document.fields? ["id", "appId", "displayName", "createdDateTime"]
    let id ← Json.required Json.text? "id" fields
    let appId ← Json.withDefault Json.text? "" "appId" fields
    let displayName ← Json.withDefault Json.text? "" "displayName" fields
    let createdDateTime ← Json.optional Json.text? "createdDateTime" fields
    return { id, appId, displayName, createdDateTime }

/-- A blueprint that was created or kept. -/
structure BlueprintCreated where
  objectId : String
  appId : String
  displayName : String
  principalId : Option String
  reused : Bool
deriving DecidableEq, Repr

/-- The document that reports a blueprint. -/
def BlueprintCreated.toJson (created : BlueprintCreated) : Json :=
  Json.ofMembers
    [("objectId", .string created.objectId), ("appId", .string created.appId),
      ("displayName", .string created.displayName),
      ("principalId", Json.ofOptional created.principalId), ("reused", .bool created.reused)]

/-- Whether two display names are taken for the same when a resource is created. -/
def sameName (left right : String) : Bool :=
  Text.sameIgnoringCase (Text.trim left) (Text.trim right)

namespace Directory

/-- The path of all blueprints. -/
def blueprintsPath : String := "applications/graph.agentIdentityBlueprint"

/-- The path of the service principals of blueprints. -/
def blueprintPrincipalsPath : String := "servicePrincipals/graph.agentIdentityBlueprintPrincipal"

/-- All blueprints. -/
def allBlueprints (directory : Directory) : Program OperationError (List Blueprint) :=
  directory.list decode? "agent identity blueprints" blueprintsPath

/-- The blueprints whose display name contains a text in any letter case; all of them when the text
is blank. -/
def listBlueprints (directory : Directory) (filter : Option String) :
    Program OperationError (List Blueprint) := do
  let blueprints ← directory.allBlueprints
  match (filter.map fun filter => Text.lower (Text.trim filter)).filter (· ≠ "") with
  | none => return blueprints
  | some part =>
    return blueprints.filter fun blueprint => Text.contains part (Text.lower blueprint.displayName)

/-- The document of a new blueprint. -/
def blueprintBody (directory : Directory) (displayName : String) (sponsors owners : List String) :
    Json :=
  Json.ofMembers <| Json.present
    [("@odata.type", some (.string "Microsoft.Graph.AgentIdentityBlueprint")),
      ("displayName", some (.string displayName)),
      ("sponsors@odata.bind", some (Json.ofTexts (sponsors.map directory.objectReference))),
      ("owners@odata.bind",
        if owners.isEmpty then none
        else some (Json.ofTexts (owners.map directory.objectReference)))]

/-- Creates a blueprint and its service principal, or keeps a blueprint of the same name if the
policy says so. -/
def createBlueprint (directory : Directory) (displayName : String)
    (sponsorIds ownerIds : List String) (policy : Namesake.Policy) :
    Program OperationError BlueprintCreated := do
  let displayName ← Argument.required "display_name" displayName
  let sponsors ← Argument.each "sponsor_ids" sponsorIds
  let owners ← Argument.all "owner_ids" ownerIds
  let existing ← directory.listBlueprints none
  let namesakes := existing.filter fun blueprint => sameName blueprint.displayName displayName
  match ← policy.decide displayName (namesakes.map Blueprint.id) with
  | .reuse existingId =>
    Program.progress
      ("blueprint '" ++ displayName ++ "' already exists, keeping " ++ existingId)
    let kept := namesakes.find? fun blueprint => blueprint.id = existingId
    return {
      objectId := existingId
      appId := (kept.map Blueprint.appId).getD ""
      displayName
      principalId := none
      reused := true }
  | .create =>
    Program.progress ("creating blueprint '" ++ displayName ++ "'")
    let document ← (directory.post blueprintsPath
      (directory.blueprintBody displayName sponsors owners)).mapFailure
        (.write { key := displayName, itemId := none, position := none, state := .absent })
    let some (created : Blueprint) := decode? document | .fail (.decode "blueprint")
    Program.progress ("creating principal for blueprint " ++ created.appId)
    let principal ← (directory.post blueprintPrincipalsPath
      (Json.ofMembers [("appId", .string created.appId)])).mapFailure
        (.write { key := displayName, itemId := some created.id, position := none
                  state := .present none })
    return {
      objectId := created.id
      appId := created.appId
      displayName
      principalId := (principal.get? "id").bind Json.text?
      reused := false }

/-- Deletes a blueprint by its object id. -/
def deleteBlueprint (directory : Directory) (objectId : String) :
    Program OperationError Deleted := do
  let objectId ← Argument.required "object_id" objectId
  Program.progress ("deleting blueprint " ++ objectId)
  (directory.delete ("applications/" ++ objectId)).mapFailure
    (Deleted.failure "blueprint" objectId)
  return ⟨"blueprint", objectId⟩

end Directory

end Provision
