import Provision.Proofs.BlueprintPrincipals
import Provision.Proofs.Namesakes
import Provision.Proofs.Planning
import Provision.Proofs.ResourceCollections

/-!
# At most one grant of a role to a principal

Assigning a role lists the assignments to the principal first, and stores a new one only if none of
them grants the role.  The role is told from the id of its definition, and the principal is compared
without regard to case, in the list and in the search alike.  So no principal ever has a role twice,
wherever runs fail.  What an assignment is stored under is part of the id that it is returned with,
and a deletion by this id finds it there again.
-/

namespace Provision

open Replica (Documents HoldsResources HoldsSame Calm resourceDocument resourceMembers
  find?_resourceMembers)

/-- The ids of a supply differ from each other and are plain names. -/
structure IdSupply.Apart (ids : IdSupply) : Prop where
  injective : Function.Injective ids.name
  plain : ∀ index, IsPlainName (ids.name index)

/-- A role that is granted to a principal, and the name that the assignment is stored under. -/
structure Grant where
  name : String
  principalId : String
  role : StorageRole

theorem StorageRole.ofDefinitionId?_definitionId (role : StorageRole) (subscriptionId : String) :
    ofDefinitionId? (role.definitionId subscriptionId) = some role := by
  have plain : IsPlainName role.definitionGuid := by
    cases role <;> decide
  have slash : "/providers/Microsoft.Authorization/roleDefinitions/" =
      "/providers/Microsoft.Authorization/roleDefinitions" ++ "/" := by decide
  have whole : role.definitionId subscriptionId = "/subscriptions/" ++ subscriptionId ++
      "/providers/Microsoft.Authorization/roleDefinitions" ++ "/" ++ role.definitionGuid := by
    unfold definitionId
    simp only [slash, String.append_assoc]
  have piece : Text.lastPiece '/' (role.definitionId subscriptionId) = role.definitionGuid :=
    whole ▸ Replica.lastSegment_append (plain.isPlainSegment.not_mem (by decide))
  unfold ofDefinitionId?
  rw [piece]
  cases role <;> decide +kernel

namespace ResourceManager

/-- The resource id of all role assignments on a storage account. -/
def grantsPath (manager : ResourceManager) (account : String) : String :=
  assignmentsPath (manager.storageAccountScope account)

/-- The request that lists the role assignments on a storage account. -/
def readGrants (manager : ResourceManager) (account : String) : Request :=
  ⟨.get, manager.url (manager.grantsPath account) RoleAssignment.version [("$filter", "atScope()")],
    none⟩

/-- The role assignments that are stored on a storage account. -/
def storedAssignments (manager : ResourceManager) (account : String) (replica : Replica) :
    List RoleAssignment :=
  (replica.children (.ofUrl (manager.readGrants account).url)).filterMap decode?

theorem storedAssignments_congr {manager : ResourceManager} {account : String}
    {earlier later : Replica} (same : later.documents = earlier.documents) :
    manager.storedAssignments account later = manager.storedAssignments account earlier := by
  rw [storedAssignments, storedAssignments, Replica.children, Replica.children, same]

/-- The role assignment of a grant on a storage account. -/
def assignmentOf (manager : ResourceManager) (account : String) (grant : Grant) : RoleAssignment :=
  { id := manager.grantsPath account ++ "/" ++ grant.name
    name := grant.name
    properties :=
      ⟨grant.role.definitionId manager.subscriptionId, grant.principalId, some "ServicePrincipal",
        none⟩ }

/-- The members that a grant is sent with. -/
def grantMembers (manager : ResourceManager) (principalId : String) (role : StorageRole) :
    List (String × Json) :=
  [("properties", Json.ofMembers
    [("roleDefinitionId", .string (role.definitionId manager.subscriptionId)),
      ("principalId", .string principalId), ("principalType", .string "ServicePrincipal")])]

/-- The request that stores a grant on a storage account. -/
def writeGrant (manager : ResourceManager) (account : String) (grant : Grant) : Request :=
  ⟨.put, manager.url (manager.grantsPath account ++ "/" ++ grant.name) RoleAssignment.version [],
    some (.object (manager.grantMembers grant.principalId grant.role))⟩

/-- The document that a grant on a storage account is stored as. -/
def grantDocument (manager : ResourceManager) (account : String) (grant : Grant) : Json :=
  resourceDocument (manager.grantsPath account ++ "/" ++ grant.name) grant.name
    (manager.grantMembers grant.principalId grant.role)

variable {manager : ResourceManager} {account : String}

theorem decode?_grantDocument (grant : Grant) :
    decode? (manager.grantDocument account grant) = some (manager.assignmentOf account grant) := by
  let body : Json := Json.ofMembers
    [("roleDefinitionId", .string (grant.role.definitionId manager.subscriptionId)),
      ("principalId", .string grant.principalId), ("principalType", .string "ServicePrincipal")]
  have properties : decode? body = some (manager.assignmentOf account grant).properties := by
    simp [body, assignmentOf, decode?, Json.ofMembers, Json.fields?, Json.required, Json.optional,
      Members.ofList, Members.find?_insert, Members.find?, Json.text?]
  have noId : Members.find? "id" (manager.grantMembers grant.principalId grant.role) = none := by
    simp [grantMembers, Members.find?]
  have noName : Members.find? "name" (manager.grantMembers grant.principalId grant.role) =
      none := by
    simp [grantMembers, Members.find?]
  have found : Members.find? "properties" (manager.grantMembers grant.principalId grant.role) =
      some body := by
    simp [grantMembers, Members.find?, body]
  let members := resourceMembers (manager.assignmentOf account grant).id grant.name
    (manager.grantMembers grant.principalId grant.role)
  change (do
    let id ← Json.required Json.text? "id" members
    let name ← Json.withDefault Json.text? "" "name" members
    let properties ← Json.required decode? "properties" members
    return (⟨id, name, properties⟩ : RoleAssignment)) = _
  simp [members, find?_resourceMembers noId noName, found, Json.required, Json.withDefault,
    Json.text?, properties]
  rfl

theorem role?_assignmentOf (grant : Grant) :
    (manager.assignmentOf account grant).role? = some grant.role :=
  grant.role.ofDefinitionId?_definitionId manager.subscriptionId

/-- The documents of grants by the names that they are stored under. -/
def grantDocuments (manager : ResourceManager) (account : String) (grants : List Grant) :
    Documents :=
  grants.map fun grant => (grant.name, manager.grantDocument account grant)

theorem documents_grantDocuments (grants : List Grant) :
    (manager.grantDocuments account grants).map Prod.snd =
      grants.map (manager.grantDocument account) := by
  simp [grantDocuments, Function.comp_def]

theorem has_grantDocuments {grants : List Grant} {name : String} :
    (manager.grantDocuments account grants).has name = true ↔ name ∈ grants.map Grant.name := by
  have names : (manager.grantDocuments account grants).map Prod.fst = grants.map Grant.name := by
    simp [grantDocuments, Function.comp_def]
  rw [← Bool.not_eq_false, Documents.has_eq_false_iff, names, not_not]

/-- The replica holds certain grants on a storage account and no others.  No two of them grant one
role to one principal.  Their names, and those in the ids that were returned, have been drawn. -/
structure HoldsGrants (manager : ResourceManager) (account : String) (grants : List Grant)
    (returned : List String) (now : Run Replica) : Prop where
  holds : HoldsResources (manager.base ++ manager.grantsPath account)
    (manager.grantDocuments account grants) now.state
  single : grants.Pairwise fun first second =>
    first.role = second.role → Text.sameIgnoringCase first.principalId second.principalId = false
  distinct : (grants.map Grant.name).Nodup
  apart : now.ids.Apart
  drawn : ∀ grant ∈ grants, ∃ index < now.ids.used, grant.name = now.ids.name index
  known : ∀ id ∈ returned, ∃ index < now.ids.used,
    id = manager.grantsPath account ++ "/" ++ now.ids.name index

variable {grants : List Grant} {returned : List String} {now last : Run Replica}
  {replica earlier later : Replica} {schedule : Nat → Option RemoteError} {sent : List Exchange}
  {principalId storageAccount : String} {role : StorageRole}

theorem ofUrl_readGrants (named : manager.IsNamed) (plain : IsPlainName account) :
    Replica.Location.ofUrl (manager.readGrants account).url =
      ⟨manager.base ++ manager.grantsPath account, none⟩ :=
  named.ofUrl_url (named.assignmentsPath_plain plain) RoleAssignment.version
    [("$filter", "atScope()")]

theorem storedAssignments_eq (named : manager.IsNamed) (plain : IsPlainName account)
    (holds : HoldsResources (manager.base ++ manager.grantsPath account)
      (manager.grantDocuments account grants) replica) :
    manager.storedAssignments account replica = grants.map (manager.assignmentOf account) := by
  rw [storedAssignments, ofUrl_readGrants named plain, holds.children, documents_grantDocuments,
    List.filterMap_map, ← List.filterMap_eq_map]
  apply List.filterMap_congr
  intro grant _
  exact decode?_grantDocument grant

/-- The assignments of a list to a principal; all of them when it is blank. -/
def assignmentsTo (principalId : Option String) (assignments : List RoleAssignment) :
    List RoleAssignment :=
  match principalId.bind Text.nonBlank? with
  | none => assignments
  | some principal => assignments.filter fun assignment => assignment.isTo principal

theorem brings_listRoleAssignments (named : manager.IsNamed) (paged : manager.pageLimit ≠ 0)
    (plain : IsPlainName account) (ofAccount : Text.trim storageAccount = account)
    (principalId : Option String)
    (holds : HoldsResources (manager.base ++ manager.grantsPath account)
      (manager.grantDocuments account grants) now.state) :
    Brings (manager.listRoleAssignments storageAccount principalId)
      (manager.readGrants account) "role assignments" schedule now
      (assignmentsTo principalId (manager.storedAssignments account now.state)) := by
  have accepted : Argument.required "storage_account" storageAccount = .ok account := by
    rw [Argument.required_of_trim_ne (ofAccount ▸ plain.given), ofAccount]
  have decoded : Json.readAll? decode? ((manager.grantDocuments account grants).map Prod.snd) =
      some (manager.storedAssignments account now.state) := by
    rw [documents_grantDocuments, storedAssignments_eq named plain holds]
    exact Json.readAll?_map grants decode?_grantDocument
  have brings : Brings _ (manager.readGrants account) _ schedule now _ :=
    brings_list named (named.assignmentsPath_plain plain) RoleAssignment.version
      "role assignments" [("$filter", "atScope()")] paged holds decoded
  rw [listRoleAssignments, accepted, assignmentsTo]
  cases principalId.bind Text.nonBlank? with
  | none => exact brings.change id
  | some principal => exact brings.change (List.filter fun assignment => assignment.isTo principal)

/-- What assigning a role comes to that would be stored as a certain grant.  It is rejected for a
blank principal, or the assignments cannot be read.  An assignment that is found is returned as it
is; else the grant is stored behind all others, or the write is refused. -/
inductive RoleAssigning (manager : ResourceManager) (account : String) (grant : Grant)
    (schedule : Nat → Option RemoteError) (earlier later : Replica) :
    List Exchange → Ending OperationError RoleAssigned → Prop where
  | rejected {error : PlanError} (blank : grant.principalId = "")
      (same : later.documents = earlier.documents) :
      RoleAssigning manager account grant schedule earlier later [] (.failed (.plan error))
  | unread {cause : RemoteError} (same : later.documents = earlier.documents)
      (disturbed : ¬Calm schedule earlier) :
      RoleAssigning manager account grant schedule earlier later
        [⟨manager.readGrants account, .error cause⟩] (.failed (.read "role assignments" cause))
  | found {answer : Json} {assignment : RoleAssignment}
      (same : later.documents = earlier.documents)
      (stored : assignment ∈ manager.storedAssignments account earlier)
      (granted : assignment.grants grant.principalId grant.role = true) :
      RoleAssigning manager account grant schedule earlier later
        [⟨manager.readGrants account, .ok answer⟩]
        (.returned ⟨assignment.id, grant.role.displayName, grant.principalId,
          manager.storageAccountScope account, false⟩)
  | refused {answer : Json} {cause : RemoteError} {detail : WriteFailure}
      (same : later.documents = earlier.documents) (disturbed : ¬Calm schedule earlier)
      (new : ∀ other ∈ manager.storedAssignments account earlier,
        other.grants grant.principalId grant.role = false) :
      RoleAssigning manager account grant schedule earlier later
        [⟨manager.readGrants account, .ok answer⟩,
          ⟨manager.writeGrant account grant, .error cause⟩]
        (.failed (.write detail cause))
  | created {answer : Json}
      (new : ∀ other ∈ manager.storedAssignments account earlier,
        other.grants grant.principalId grant.role = false)
      (documents : later.documents = earlier.documents ++
        [(manager.base ++ (manager.assignmentOf account grant).id,
          manager.grantDocument account grant)])
      (added : manager.storedAssignments account later =
        manager.storedAssignments account earlier ++ [manager.assignmentOf account grant])
      (shown : ∀ other, Text.sameIgnoringCase (Text.trim other) grant.principalId = true →
        (assignmentsTo (some other) (manager.storedAssignments account later)).filter
          (fun assignment => assignment.role? = some grant.role) =
            [manager.assignmentOf account grant]) :
      RoleAssigning manager account grant schedule earlier later
        [⟨manager.readGrants account, .ok answer⟩,
          ⟨manager.writeGrant account grant, .ok (manager.grantDocument account grant)⟩]
        (.returned ⟨(manager.assignmentOf account grant).id, grant.role.displayName,
          grant.principalId, manager.storageAccountScope account, true⟩)

/-- The ids of assignments that a run returns. -/
def returnedIds : Ending OperationError RoleAssigned → List String
  | .returned assigned => [assigned.assignmentId]
  | _ => []

theorem grants_assignmentOf (grant : Grant) (principalId : String) (role : StorageRole) :
    (manager.assignmentOf account grant).grants principalId role =
      (Text.sameIgnoringCase grant.principalId principalId && decide (grant.role = role)) := by
  rw [RoleAssignment.grants, role?_assignmentOf]
  simp [RoleAssignment.isTo, assignmentOf]

namespace HoldsGrants

variable (granted : manager.HoldsGrants account grants returned now)
include granted

theorem of_same (same : HoldsSame now.state last.state)
    (ids : last.ids.name = now.ids.name ∧ now.ids.used ≤ last.ids.used) :
    manager.HoldsGrants account grants returned last := by
  obtain ⟨name_eq, used_le⟩ := ids
  refine ⟨granted.holds.of_same same, granted.single, granted.distinct, ?_, ?_, ?_⟩
  · exact ⟨name_eq ▸ granted.apart.injective, name_eq ▸ granted.apart.plain⟩
  · intro grant grant_mem
    obtain ⟨index, index_lt, drawn⟩ := granted.drawn grant grant_mem
    exact ⟨index, index_lt.trans_le used_le, name_eq ▸ drawn⟩
  · intro id id_mem
    obtain ⟨index, index_lt, known⟩ := granted.known id id_mem
    exact ⟨index, index_lt.trans_le used_le, name_eq ▸ known⟩

/-- The id of a grant that is held has been drawn, so it may be returned. -/
theorem returns {grant : Grant} (grant_mem : grant ∈ grants) :
    manager.HoldsGrants account grants
      (returned ++ [(manager.assignmentOf account grant).id]) now := by
  refine ⟨granted.holds, granted.single, granted.distinct, granted.apart, granted.drawn, ?_⟩
  intro id id_mem
  rcases List.mem_append.mp id_mem with returned_mem | new_mem
  · exact granted.known id returned_mem
  · obtain rfl := List.mem_singleton.mp new_mem
    obtain ⟨index, index_lt, drawn⟩ := granted.drawn grant grant_mem
    exact ⟨index, index_lt, by rw [assignmentOf, drawn]⟩

/-- The next id of the supply is not the name of a grant. -/
theorem current_not_mem : now.ids.current ∉ grants.map Grant.name := by
  intro current_mem
  obtain ⟨grant, grant_mem, same⟩ := List.mem_map.mp current_mem
  obtain ⟨index, index_lt, drawn⟩ := granted.drawn grant grant_mem
  have index_eq := granted.apart.injective (drawn.symm.trans same)
  exact absurd index_eq index_lt.ne

theorem has_current : (manager.grantDocuments account grants).has now.ids.current = false := by
  rw [Bool.eq_false_iff, ne_eq, has_grantDocuments]
  exact granted.current_not_mem

/-- A grant of a role that its principal does not have yet comes behind all others. -/
theorem add {grant : Grant} (isNext : grant.name = now.ids.current)
    (new : ∀ other ∈ grants.map (manager.assignmentOf account),
      other.grants grant.principalId grant.role = false)
    (holds : HoldsResources (manager.base ++ manager.grantsPath account)
      ((manager.grantDocuments account grants).store grant.name
        (manager.grantDocument account grant)) last.state)
    (ids : last.ids.name = now.ids.name ∧ now.ids.used < last.ids.used) :
    manager.HoldsGrants account (grants ++ [grant]) returned last := by
  obtain ⟨name_eq, used_lt⟩ := ids
  have absent : (manager.grantDocuments account grants).has grant.name = false := by
    rw [isNext]
    exact granted.has_current
  have notNamed : grant.name ∉ grants.map Grant.name := by
    rw [isNext]
    exact granted.current_not_mem
  refine ⟨?_, ?_, ?_, ⟨name_eq ▸ granted.apart.injective, name_eq ▸ granted.apart.plain⟩, ?_, ?_⟩
  · rw [Documents.store_of_has_eq_false absent] at holds
    simpa [grantDocuments] using holds
  · rw [List.pairwise_append]
    refine ⟨granted.single, List.pairwise_singleton _ _, ?_⟩
    intro first first_mem second second_mem sameRole
    obtain rfl := List.mem_singleton.mp second_mem
    have isNew := new _ (List.mem_map_of_mem first_mem)
    simpa [grants_assignmentOf, sameRole] using isNew
  · rw [List.map_append, List.map_singleton, ← List.concat_eq_append]
    exact granted.distinct.concat notNamed
  · intro held held_mem
    rcases List.mem_append.mp held_mem with old_mem | new_mem
    · obtain ⟨index, index_lt, drawn⟩ := granted.drawn held old_mem
      exact ⟨index, index_lt.trans used_lt, name_eq ▸ drawn⟩
    · obtain rfl := List.mem_singleton.mp new_mem
      exact ⟨now.ids.used, used_lt, by rw [name_eq, isNext, IdSupply.current]⟩
  · intro id id_mem
    obtain ⟨index, index_lt, known⟩ := granted.known id id_mem
    exact ⟨index, index_lt.trans used_lt, name_eq ▸ known⟩

end HoldsGrants

/-- Searching the assignments to a principal for one that grants it a role finds what searching all
of them finds. -/
theorem find?_assignmentsTo (given : Text.trim principalId ≠ "") (role : StorageRole)
    (assignments : List RoleAssignment) :
    (assignmentsTo (some (Text.trim principalId)) assignments).find?
      (fun assignment => assignment.grants (Text.trim principalId) role) =
    assignments.find? fun assignment => assignment.grants (Text.trim principalId) role := by
  have narrowed : (some (Text.trim principalId)).bind Text.nonBlank? =
      some (Text.trim principalId) := by
    simp [Text.nonBlank?, Text.trim_trim, given]
  have both : (fun assignment : RoleAssignment => decide (assignment.isTo (Text.trim principalId) ∧
      assignment.grants (Text.trim principalId) role)) =
      fun assignment => assignment.grants (Text.trim principalId) role := by
    funext assignment
    cases isTo : assignment.isTo (Text.trim principalId) <;> simp [RoleAssignment.grants, isTo]
  rw [assignmentsTo, narrowed, List.find?_filter, both]

/-- The assignments to a principal, in any case of its letters, that grant a role. -/
theorem filter_assignmentsTo {other : String} (given : principalId ≠ "")
    (same : Text.sameIgnoringCase (Text.trim other) principalId = true) (role : StorageRole)
    (assignments : List RoleAssignment) :
    (assignmentsTo (some other) assignments).filter
        (fun assignment => assignment.role? = some role) =
      assignments.filter fun assignment => assignment.grants principalId role := by
  rw [Text.sameIgnoringCase_iff] at same
  have otherGiven : Text.trim other ≠ "" := by
    intro blank
    rw [blank] at same
    have noCharacters : principalId.toList = [] := List.map_eq_nil_iff.mp same.symm
    exact given (String.toList_inj.mp noCharacters)
  have narrowed : (some other).bind Text.nonBlank? = some (Text.trim other) := by
    simp [Text.nonBlank?, otherGiven]
  rw [assignmentsTo, narrowed]
  simp only [List.filter_filter]
  apply List.filter_congr
  intro assignment _
  have isTo : assignment.isTo (Text.trim other) = assignment.isTo principalId := by
    rw [RoleAssignment.isTo, RoleAssignment.isTo, Bool.eq_iff_iff, Text.sameIgnoringCase_iff,
      Text.sameIgnoringCase_iff, same]
  rw [RoleAssignment.grants, isTo, Bool.and_comm]

/-- An assignment that is found for a grant is returned, and what is held stays the same. -/
theorem HoldsGrants.found (granted : manager.HoldsGrants account grants returned now)
    (named : manager.IsNamed) (plain : IsPlainName account) (grant : Grant)
    {assignment : RoleAssignment}
    (found : (manager.storedAssignments account now.state).find?
      (fun assignment => assignment.grants grant.principalId grant.role) = some assignment)
    (same : HoldsSame now.state last.state)
    (ids : last.ids.name = now.ids.name ∧ now.ids.used ≤ last.ids.used) {answer : Json} :
    manager.RoleAssigning account grant schedule now.state last.state
        [⟨manager.readGrants account, .ok answer⟩]
        (.returned ⟨assignment.id, grant.role.displayName, grant.principalId,
          manager.storageAccountScope account, false⟩) ∧
      ∃ later, manager.HoldsGrants account later (returned ++ [assignment.id]) last := by
  have stored := List.mem_of_find?_eq_some found
  have isGranted : assignment.grants grant.principalId grant.role = true := by
    simpa using List.find?_some found
  refine ⟨.found same.documents stored isGranted, grants, ?_⟩
  rw [storedAssignments_eq named plain granted.holds] at stored
  obtain ⟨kept, kept_mem, rfl⟩ := List.mem_map.mp stored
  exact (granted.of_same same ids).returns kept_mem

/-- A grant that is stored under the next id is one that an assignment may create. -/
theorem HoldsGrants.created (granted : manager.HoldsGrants account grants returned now)
    (named : manager.IsNamed) (plain : IsPlainName account) (grant : Grant)
    (isNext : grant.name = now.ids.current) (given : grant.principalId ≠ "")
    (new : ∀ other ∈ manager.storedAssignments account now.state,
      other.grants grant.principalId grant.role = false)
    (stores : last.state.documents = now.state.documents.store
      (manager.base ++ manager.grantsPath account ++ "/" ++ grant.name)
      (manager.grantDocument account grant))
    (holds : HoldsResources (manager.base ++ manager.grantsPath account)
      ((manager.grantDocuments account grants).store grant.name
        (manager.grantDocument account grant)) last.state)
    (ids : last.ids.name = now.ids.name ∧ now.ids.used < last.ids.used) {answer : Json} :
    manager.RoleAssigning account grant schedule now.state last.state
        [⟨manager.readGrants account, .ok answer⟩,
          ⟨manager.writeGrant account grant, .ok (manager.grantDocument account grant)⟩]
        (.returned ⟨(manager.assignmentOf account grant).id, grant.role.displayName,
          grant.principalId, manager.storageAccountScope account, true⟩) ∧
      ∃ later, manager.HoldsGrants account later
        (returned ++ [(manager.assignmentOf account grant).id]) last := by
  have stored_eq := storedAssignments_eq named plain granted.holds
  have absent : (manager.grantDocuments account grants).has grant.name = false := by
    rw [isNext]
    exact granted.has_current
  have added := granted.add isNext (stored_eq ▸ new) holds ids
  have stored_last := storedAssignments_eq named plain added.holds
  rw [List.map_append, ← stored_eq, List.map_singleton] at stored_last
  refine ⟨.created new ?_ stored_last ?_, _,
    added.returns (List.mem_append_right _ (List.mem_singleton_self grant))⟩
  · have unused : now.state.documents.has
        (manager.base ++ manager.grantsPath account ++ "/" ++ grant.name) = false := by
      rwa [Documents.has, granted.holds.find?_eq]
    rw [stores, Documents.store_of_has_eq_false unused]
    simp [assignmentOf, String.append_assoc]
  · intro other sameOther
    have isGranted :
        (manager.assignmentOf account grant).grants grant.principalId grant.role = true := by
      simp [grants_assignmentOf, Text.sameIgnoringCase]
    have noneBefore : (manager.storedAssignments account now.state).filter
        (fun assignment => assignment.grants grant.principalId grant.role) = [] := by
      simpa [List.filter_eq_nil_iff] using new
    rw [filter_assignmentsTo given sameOther, stored_last, List.filter_append, noneBefore,
      List.nil_append, List.filter_singleton, isGranted]
    rfl

theorem after_assignRole {ending : Ending OperationError RoleAssigned} (named : manager.IsNamed)
    (paged : manager.pageLimit ≠ 0) (plain : IsPlainName account)
    (ofAccount : Text.trim storageAccount = account)
    (runs : (manager.assignRole storageAccount principalId role).Runs
      (Client.interrupted schedule) now sent ending last)
    (granted : manager.HoldsGrants account grants returned now) :
    manager.RoleAssigning account ⟨now.ids.current, Text.trim principalId, role⟩ schedule now.state
        last.state sent ending ∧
      ∃ later, manager.HoldsGrants account later (returned ++ returnedIds ending) last := by
  have drawnLast := runs.ids_drawn
  rcases runs.of_check with ⟨_, refused, -⟩ | ⟨trimmed, accepted, checks⟩
  · rw [Argument.required_of_trim_ne (ofAccount ▸ plain.given)] at refused
    simp at refused
  obtain ⟨rfl, -⟩ := Argument.eq_trim_of_required accepted
  rw [ofAccount] at checks
  rcases checks.of_check with ⟨error, refused, rfl, rfl, rfl⟩ | ⟨trimmed, accepted, lists⟩
  · have blank : Text.trim principalId = "" := by
      by_contra given
      simp [Argument.required_of_trim_ne given] at refused
    exact ⟨.rejected blank rfl, grants, by simpa [returnedIds] using granted⟩
  obtain ⟨rfl, given⟩ := Argument.eq_trim_of_required accepted
  have ofSelf : Text.trim account = account := by rw [← ofAccount, Text.trim_trim]
  rcases (brings_listRoleAssignments named paged plain ofSelf _ granted.holds).of_bind lists with
    ⟨cause, rfl, rfl, same, refusal⟩ | ⟨answer, state, rest, rfl, same, calm, searches⟩
  · have disturbed : ¬Calm schedule now.state := by
      intro calm
      obtain ⟨refusal, refused⟩ := refusal calm
      rw [ofUrl_readGrants named plain] at refused
      exact granted.holds.read_ne_error refusal refused
    refine ⟨.unread same.documents disturbed, grants, ?_⟩
    simpa [returnedIds] using granted.of_same same drawnLast
  have grantedState : manager.HoldsGrants account grants returned { now with state } :=
    granted.of_same same ⟨rfl, le_rfl⟩
  -- the search goes on as if all assignments had been listed, not only those to the principal
  simp only [find?_assignmentsTo given] at searches
  cases found : (manager.storedAssignments account now.state).find? fun assignment =>
      assignment.grants (Text.trim principalId) role with
  | some assignment =>
      simp only [found] at searches
      obtain ⟨rfl, rfl, last_eq⟩ := searches.of_progress.unique Program.runs_done
      have sameLast : HoldsSame now.state last.state := by
        rw [last_eq]
        exact same
      exact granted.found named plain ⟨now.ids.current, Text.trim principalId, role⟩ found sameLast
        drawnLast
  | none =>
      simp only [found] at searches
      have new : ∀ other ∈ manager.storedAssignments account now.state,
          other.grants (Text.trim principalId) role = false := by
        simpa using List.find?_eq_none.mp found
      have plainName : IsPlainName now.ids.current := granted.apart.plain now.ids.used
      -- what is put bears the next id, which no grant can have yet
      have puts := searches.of_freshId.of_progress
      have drawnPut := puts.ids_drawn
      rcases put_of_runs named (named.assignmentsPath_plain plain) plainName puts
          grantedState.holds with
        ⟨cause, rfl, rfl, sameLast, disturbed⟩ |
        ⟨middle, others, document, made, rfl, stores, holdsLater, decodes⟩
      · have sameDocuments := sameLast.documents.trans same.documents
        refine ⟨.refused sameDocuments (disturbed ∘ calm) new, grants, ?_⟩
        simpa [returnedIds] using granted.of_same (same.trans sameLast) drawnLast
      · let grant : Grant := ⟨now.ids.current, Text.trim principalId, role⟩
        obtain rfl : document = manager.grantDocument account grant := made
        simp only [decode?_grantDocument] at decodes
        obtain ⟨rfl, rfl, last_eq⟩ := decodes.unique Program.runs_done
        have isLast : last.state = middle := by rw [last_eq]
        rw [← isLast] at stores holdsLater
        have storesGrant : last.state.documents = now.state.documents.store
            (manager.base ++ manager.grantsPath account ++ "/" ++ grant.name)
            (manager.grantDocument account grant) := by
          rw [← same.documents]
          exact stores
        exact granted.created named plain grant rfl given new storesGrant holdsLater drawnPut

/-- What deleting an assignment comes to.  The assignment is taken out, and nothing else is; or the
request fails, which an assignment that is stored gives no reason for. -/
inductive AssignmentDeletion (manager : ResourceManager) (account assignmentId : String)
    (schedule : Nat → Option RemoteError) (earlier later : Replica) :
    List Exchange → Ending OperationError Deleted → Prop where
  | failed {cause : RemoteError} (same : later.documents = earlier.documents)
      (reason : Calm schedule earlier →
        ∀ assignment ∈ manager.storedAssignments account earlier, assignment.id ≠ assignmentId) :
      AssignmentDeletion manager account assignmentId schedule earlier later
        [⟨⟨.delete, manager.url assignmentId RoleAssignment.version [], none⟩, .error cause⟩]
        (.failed (Deleted.failure "role assignment" assignmentId cause))
  | deleted {answer : Json} {before after : List RoleAssignment} {assignment : RoleAssignment}
      (wanted : assignment.id = assignmentId)
      (stored : manager.storedAssignments account earlier = before ++ assignment :: after)
      (left : manager.storedAssignments account later = before ++ after)
      (documents : later.documents = earlier.documents.filter fun (path, _) =>
        path ≠ manager.base ++ assignmentId) :
      AssignmentDeletion manager account assignmentId schedule earlier later
        [⟨⟨.delete, manager.url assignmentId RoleAssignment.version [], none⟩, .ok answer⟩]
        (.returned ⟨"role assignment", assignmentId⟩)

/-- The grants but the one of a name. -/
theorem exists_split_of_name {name : String} (distinct : (grants.map Grant.name).Nodup)
    (name_mem : name ∈ grants.map Grant.name) :
    ∃ before grant after, grants = before ++ grant :: after ∧ grant.name = name ∧
      (grants.filter fun other => other.name ≠ name) = before ++ after := by
  obtain ⟨grant, grant_mem, rfl⟩ := List.mem_map.mp name_mem
  obtain ⟨before, after, rfl⟩ := List.append_of_mem grant_mem
  refine ⟨before, grant, after, rfl, rfl, ?_⟩
  have others :
      (before ++ after).filter (fun other => other.name ≠ grant.name) = before ++ after := by
    rw [List.filter_eq_self]
    intro other other_mem
    simpa using ne_of_mem_others distinct other_mem
  rw [List.filter_append] at others ⊢
  simpa using others

/-- Without the grant of a name the others are held as before. -/
theorem HoldsGrants.delete {name : String}
    (granted : manager.HoldsGrants account grants returned now)
    (holds : HoldsResources (manager.base ++ manager.grantsPath account)
      ((manager.grantDocuments account grants).filter fun (other, _) => other ≠ name) last.state)
    (ids : last.ids.name = now.ids.name ∧ now.ids.used ≤ last.ids.used) :
    manager.HoldsGrants account (grants.filter fun other => other.name ≠ name) returned last := by
  obtain ⟨name_eq, used_le⟩ := ids
  refine ⟨?_, granted.single.filter _, ?_, ?_, ?_, ?_⟩
  · simpa [grantDocuments, List.filter_map, Function.comp_def] using holds
  · exact granted.distinct.sublist (List.filter_sublist.map _)
  · exact ⟨name_eq ▸ granted.apart.injective, name_eq ▸ granted.apart.plain⟩
  · intro grant grant_mem
    obtain ⟨index, index_lt, drawn⟩ := granted.drawn grant (List.mem_of_mem_filter grant_mem)
    exact ⟨index, index_lt.trans_le used_le, name_eq ▸ drawn⟩
  · intro id id_mem
    obtain ⟨index, index_lt, known⟩ := granted.known id id_mem
    exact ⟨index, index_lt.trans_le used_le, name_eq ▸ known⟩

/-- An id that was returned is accepted for a deletion. -/
theorem accepts_assignmentId {name : String} (named : manager.IsNamed) (plain : IsPlainName account)
    (plainName : IsPlainName name) :
    Text.startsWith "/" (manager.grantsPath account ++ "/" ++ name) = true ∧
      Text.contains "/roleAssignments/" (manager.grantsPath account ++ "/" ++ name) = true := by
  constructor
  · obtain ⟨relative, path_eq, -⟩ :=
      ((named.assignmentsPath_plain plain).child plainName.isPlainSegment).exists_relative
    rw [grantsPath, path_eq, Text.startsWith, String.toList_append, Text.dropStart?_self_append]
    rfl
  · have whole : manager.grantsPath account ++ "/" ++ name =
        manager.storageAccountScope account ++ "/providers/Microsoft.Authorization" ++
          "/roleAssignments/" ++ name := by
      simp [grantsPath, assignmentsPath, ← String.toList_inj]
    rw [whole, Text.contains, String.toList_append, String.toList_append]
    exact Text.occursIn_append _ _ _

theorem after_deleteRoleAssignment {assignmentId : String} {ending : Ending OperationError Deleted}
    (named : manager.IsNamed) (plain : IsPlainName account)
    (returned_mem : Text.trim assignmentId ∈ returned)
    (runs : (manager.deleteRoleAssignment assignmentId).Runs (Client.interrupted schedule) now sent
      ending last)
    (granted : manager.HoldsGrants account grants returned now) :
    manager.AssignmentDeletion account (Text.trim assignmentId) schedule now.state last.state sent
        ending ∧
      ∃ later, manager.HoldsGrants account later returned last := by
  have drawnLast := runs.ids_drawn
  have stored_eq := storedAssignments_eq named plain granted.holds
  obtain ⟨index, -, known⟩ := granted.known _ returned_mem
  have plainName := granted.apart.plain index
  have accepts := accepts_assignmentId named plain plainName
  have given : Text.trim assignmentId ≠ "" := by
    rw [known]
    simp
  rcases runs.of_check with ⟨_, refused, -⟩ | ⟨trimmed, accepted, checks⟩
  · simp [Argument.required_of_trim_ne given] at refused
  obtain ⟨rfl, -⟩ := Argument.eq_trim_of_required accepted
  rw [known] at checks ⊢
  rw [if_pos accepts] at checks
  rcases deletion_of_runs named (named.assignmentsPath_plain plain) plainName checks.of_progress
      granted.holds with
    ⟨cause, rfl, rfl, same, reason⟩ | ⟨document, rfl, rfl, stored, documents, holdsLater⟩
  · refine ⟨.failed same.documents ?_, grants, granted.of_same same drawnLast⟩
    intro calm assignment assignment_mem same_id
    rw [stored_eq] at assignment_mem
    obtain ⟨grant, grant_mem, rfl⟩ := List.mem_map.mp assignment_mem
    have same_name : grant.name = now.ids.name index := by
      simpa [assignmentOf, ← String.toList_inj] using same_id
    have absent : (manager.grantDocuments account grants).has (now.ids.name index) = false := by
      rw [Documents.has, (reason calm).1]
      rfl
    rw [Bool.eq_false_iff, ne_eq, has_grantDocuments] at absent
    exact absent (List.mem_map.mpr ⟨grant, grant_mem, same_name⟩)
  · have remaining := granted.delete holdsLater drawnLast
    obtain ⟨before, grant, after, split, same_name, left⟩ :=
      exists_split_of_name granted.distinct (has_grantDocuments.mp stored)
    have left_eq := storedAssignments_eq named plain remaining.holds
    rw [left, List.map_append] at left_eq
    rw [split, List.map_append, List.map_cons] at stored_eq
    refine ⟨.deleted ?_ stored_eq left_eq ?_, _, remaining⟩
    · rw [assignmentOf, same_name]
    · rw [documents, grantsPath, String.append_assoc, String.append_assoc, String.append_assoc]

/-- A run goes on from another one: the replica holds the same, whatever it is told to fail, and the
ids come from the same supply. -/
structure GoesOn (ended next : Run Replica) : Prop where
  same : HoldsSame ended.state next.state
  ids : next.ids = ended.ids

theorem GoesOn.refl (run : Run Replica) : GoesOn run run := ⟨⟨rfl, rfl, rfl⟩, rfl⟩

/-- Roles are assigned on a storage account, and assignments are deleted by ids that were returned
before, in runs that each go on from the one before. -/
inductive GrantRuns (manager : ResourceManager) (account : String) (start : Run Replica) :
    List String → Run Replica → Prop where
  | start : GrantRuns manager account start [] start
  | assign {returned : List String} {earlier now last : Run Replica}
      {schedule : Nat → Option RemoteError} {storageAccount principalId : String}
      {role : StorageRole} {sent : List Exchange} {ending : Ending OperationError RoleAssigned}
      (before : GrantRuns manager account start returned earlier) (goesOn : GoesOn earlier now)
      (onAccount : Text.trim storageAccount = account)
      (runs : (manager.assignRole storageAccount principalId role).Runs
        (Client.interrupted schedule) now sent ending last) :
      GrantRuns manager account start (returned ++ returnedIds ending) last
  | delete {returned : List String} {earlier now last : Run Replica}
      {schedule : Nat → Option RemoteError} {assignmentId : String} {sent : List Exchange}
      {ending : Ending OperationError Deleted}
      (before : GrantRuns manager account start returned earlier) (goesOn : GoesOn earlier now)
      (returned_mem : Text.trim assignmentId ∈ returned)
      (runs : (manager.deleteRoleAssignment assignmentId).Runs (Client.interrupted schedule) now
        sent ending last) : GrantRuns manager account start returned last

theorem HoldsGrants.of_goesOn (granted : manager.HoldsGrants account grants returned now)
    (goesOn : GoesOn now last) : manager.HoldsGrants account grants returned last :=
  granted.of_same goesOn.same (by simp [goesOn.ids])

theorem holdsGrants_of_runs {start : Run Replica} (named : manager.IsNamed)
    (paged : manager.pageLimit ≠ 0) (plain : IsPlainName account) (apart : start.ids.Apart)
    (empty : HoldsResources (manager.base ++ manager.grantsPath account) [] start.state)
    (history : manager.GrantRuns account start returned now) :
    ∃ grants, manager.HoldsGrants account grants returned now := by
  induction history with
  | start =>
      exact ⟨[], empty, .nil, .nil, apart, List.forall_mem_nil _, List.forall_mem_nil _⟩
  | assign before goesOn onAccount runs ih =>
      obtain ⟨grants, granted⟩ := ih
      exact (after_assignRole named paged plain onAccount runs (granted.of_goesOn goesOn)).2
  | delete before goesOn returned_mem runs ih =>
      obtain ⟨grants, granted⟩ := ih
      exact (after_deleteRoleAssignment named plain returned_mem runs (granted.of_goesOn goesOn)).2

/-- Of the assignments that come about no two grant one role to one principal, and each further run
keeps to what is there: a role is granted unless it is granted already, a deletion takes out the
assignment of its id, and a list shows what is stored.  Only what disturbs a run makes it fail. -/
theorem grants_stay_single {start : Run Replica} (named : manager.IsNamed)
    (paged : manager.pageLimit ≠ 0) (plain : IsPlainName account) (apart : start.ids.Apart)
    (empty : HoldsResources (manager.base ++ manager.grantsPath account) [] start.state)
    (history : manager.GrantRuns account start returned now) :
    (manager.storedAssignments account now.state).Pairwise (fun first second =>
      first.role? = second.role? → first.isTo second.properties.principalId = false) ∧
    ∀ (next : Run Replica) (schedule : Nat → Option RemoteError), GoesOn now next →
      (∀ (storageAccount principalId : String) (role : StorageRole) (sent : List Exchange)
        (ending : Ending OperationError RoleAssigned) (last : Run Replica),
        Text.trim storageAccount = account →
        (manager.assignRole storageAccount principalId role).Runs (Client.interrupted schedule) next
          sent ending last →
        manager.RoleAssigning account ⟨next.ids.current, Text.trim principalId, role⟩ schedule
          next.state last.state sent ending) ∧
      (∀ (assignmentId : String) (sent : List Exchange) (ending : Ending OperationError Deleted)
        (last : Run Replica), Text.trim assignmentId ∈ returned →
        (manager.deleteRoleAssignment assignmentId).Runs (Client.interrupted schedule) next sent
          ending last →
        manager.AssignmentDeletion account (Text.trim assignmentId) schedule next.state last.state
          sent ending) ∧
      ∀ (storageAccount : String) (principalId : Option String),
        Text.trim storageAccount = account →
        Brings (manager.listRoleAssignments storageAccount principalId)
            (manager.readGrants account) "role assignments" schedule next
            (assignmentsTo principalId (manager.storedAssignments account next.state)) ∧
          (Calm schedule next.state → ((manager.listRoleAssignments storageAccount principalId).run
            (Client.interrupted schedule) next).1 = .returned
              (assignmentsTo principalId (manager.storedAssignments account next.state))) := by
  obtain ⟨grants, granted⟩ := holdsGrants_of_runs named paged plain apart empty history
  constructor
  · rw [storedAssignments_eq named plain granted.holds, List.pairwise_map]
    refine granted.single.imp fun {first second} single sameRole => single ?_
    simpa [role?_assignmentOf] using sameRole
  intro next schedule goesOn
  have further := granted.of_goesOn goesOn
  refine ⟨?_, ?_, ?_⟩
  · intro storageAccount principalId role sent ending last onAccount runs
    exact (after_assignRole named paged plain onAccount runs further).1
  · intro assignmentId sent ending last returned_mem runs
    exact (after_deleteRoleAssignment named plain returned_mem runs further).1
  · intro storageAccount principalId onAccount
    have brings :
        Brings (manager.listRoleAssignments storageAccount principalId) _ _ schedule _ _ :=
      brings_listRoleAssignments named paged plain onAccount principalId further.holds
    refine ⟨brings, brings.returns ?_⟩
    rw [ofUrl_readGrants named plain]
    exact further.holds.read_ne_error

/-- A new grant is stored when nothing disturbs the run. -/
theorem RoleAssigning.creates {grant : Grant} {ending : Ending OperationError RoleAssigned}
    (assigning : manager.RoleAssigning account grant schedule earlier later sent ending)
    (given : grant.principalId ≠ "") (calm : Calm schedule earlier)
    (new : ∀ other ∈ manager.storedAssignments account earlier,
      other.grants grant.principalId grant.role = false) :
    ending = .returned ⟨(manager.assignmentOf account grant).id, grant.role.displayName,
        grant.principalId, manager.storageAccountScope account, true⟩ ∧
      manager.storedAssignments account later =
        manager.storedAssignments account earlier ++ [manager.assignmentOf account grant] := by
  cases assigning with
  | rejected blank => exact absurd blank given
  | unread _ disturbed => exact absurd calm disturbed
  | found _ stored granted => simp [new _ stored] at granted
  | refused _ disturbed => exact absurd calm disturbed
  | created _ _ added => exact ⟨rfl, added⟩

/-- The only assignment of a role to a principal is found when nothing disturbs the run. -/
theorem RoleAssigning.finds {grant : Grant} {ending : Ending OperationError RoleAssigned}
    {assignment : RoleAssignment}
    (assigning : manager.RoleAssigning account grant schedule earlier later sent ending)
    (given : grant.principalId ≠ "") (calm : Calm schedule earlier)
    (stored_eq : manager.storedAssignments account earlier = [assignment])
    (granted : assignment.grants grant.principalId grant.role = true) :
    ending = .returned ⟨assignment.id, grant.role.displayName, grant.principalId,
        manager.storageAccountScope account, false⟩ ∧
      later.documents = earlier.documents := by
  have stored : assignment ∈ manager.storedAssignments account earlier := by simp [stored_eq]
  cases assigning with
  | rejected blank => exact absurd blank given
  | unread _ disturbed => exact absurd calm disturbed
  | found same foundStored _ =>
      rw [stored_eq] at foundStored
      obtain rfl := List.mem_singleton.mp foundStored
      exact ⟨rfl, same⟩
  | refused _ disturbed => exact absurd calm disturbed
  | created new => simp [new _ stored] at granted

/-- An assignment that is stored is deleted when nothing disturbs the run. -/
theorem AssignmentDeletion.succeeds {assignment : RoleAssignment}
    {ending : Ending OperationError Deleted}
    (deletion : manager.AssignmentDeletion account assignment.id schedule earlier later sent ending)
    (calm : Calm schedule earlier)
    (stored_mem : assignment ∈ manager.storedAssignments account earlier) :
    ending = .returned ⟨"role assignment", assignment.id⟩ := by
  cases deletion with
  | failed _ reason => exact absurd rfl (reason calm assignment stored_mem)
  | deleted => rfl

/-- A replica with no assignments on the storage account of the samples. -/
def emptyAssignments : Run Replica :=
  ⟨(Replica.empty Directory.countedIds).withCollection
    (sampleGroup.base ++ sampleGroup.grantsPath "payrolldata"), Directory.countedIds, []⟩

/-- The assignment of the samples. -/
def sampleAssignment : RoleAssignment :=
  sampleGroup.assignmentOf "payrolldata" ⟨"i", "agent-app", .blobDataReader⟩

/-- The run that grants the role of the samples. -/
def firstGrant : Ending OperationError RoleAssigned × Run Replica :=
  (sampleGroup.assignRole " payrolldata" "agent-app" .blobDataReader).run
    (Client.interrupted fun _ => none) emptyAssignments

/-- The run that grants it again, to the principal in other letters. -/
def secondGrant : Ending OperationError RoleAssigned × Run Replica :=
  (sampleGroup.assignRole "payrolldata" "AGENT-app " .blobDataReader).run
    (Client.interrupted fun _ => none) firstGrant.2

/-- The run that deletes the assignment. -/
def revocation : Ending OperationError Deleted × Run Replica :=
  (sampleGroup.deleteRoleAssignment sampleAssignment.id).run
    (Client.interrupted fun _ => none) secondGrant.2

/-- A role is granted once, found for the principal in other letters, and deleted by its id. -/
theorem grants_stay_single_sample :
    firstGrant.1 = .returned ⟨sampleAssignment.id, "Storage Blob Data Reader", "agent-app",
        sampleGroup.storageAccountScope "payrolldata", true⟩ ∧
      secondGrant.1 = .returned ⟨sampleAssignment.id, "Storage Blob Data Reader", "AGENT-app",
        sampleGroup.storageAccountScope "payrolldata", false⟩ ∧
      revocation.1 = .returned ⟨"role assignment", sampleAssignment.id⟩ := by
  have plain : IsPlainName "payrolldata" := by decide
  have apart : emptyAssignments.ids.Apart := by
    refine ⟨Directory.countedIds_injective, fun index => ⟨?_, ?_⟩⟩
    · exact (Directory.isSegment_countedIds index).given
    · intro char char_mem
      have isLetter : char = 'i' := by
        simpa [emptyAssignments, Directory.countedIds] using char_mem
      rw [isLetter]
      decide
  have empty : HoldsResources (sampleGroup.base ++ sampleGroup.grantsPath "payrolldata") []
      emptyAssignments.state :=
    .of_empty isNamed_sampleGroup.origin (isNamed_sampleGroup.assignmentsPath_plain plain) _
  have unstored : sampleGroup.storedAssignments "payrolldata" emptyAssignments.state = [] := rfl
  have calm : Calm (fun _ => none) emptyAssignments.state := ⟨fun _ => rfl, rfl⟩
  -- the role is not granted yet
  have firstRuns : (sampleGroup.assignRole " payrolldata" "agent-app" .blobDataReader).Runs
      (Client.interrupted fun _ => none) emptyAssignments _ firstGrant.1 firstGrant.2 :=
    Program.runs_run _ _ _
  have untouched : sampleGroup.GrantRuns "payrolldata" emptyAssignments [] emptyAssignments :=
    .start
  have firstAssigning := ((grants_stay_single isNamed_sampleGroup (by decide) plain apart empty
    untouched).2 _ _ (.refl _)).1 _ _ _ _ _ _ (by decide) firstRuns
  obtain ⟨firstReturned, added⟩ := firstAssigning.creates (by decide) calm (by simp [unstored])
  have stored : sampleGroup.storedAssignments "payrolldata" firstGrant.2.state =
      [sampleAssignment] := by
    rw [added, unstored]
    rfl
  -- now it is
  have secondRuns : (sampleGroup.assignRole "payrolldata" "AGENT-app " .blobDataReader).Runs
      (Client.interrupted fun _ => none) firstGrant.2 _ secondGrant.1 secondGrant.2 :=
    Program.runs_run _ _ _
  have afterFirst := untouched.assign (.refl _) (by decide) firstRuns
  have secondAssigning := ((grants_stay_single isNamed_sampleGroup (by decide) plain apart empty
    afterFirst).2 _ _ (.refl _)).1 _ _ _ _ _ _ (by decide) secondRuns
  have firstCalm := (Replica.keeps_of_runs firstRuns).2 calm
  obtain ⟨secondReturned, same⟩ := secondAssigning.finds (by decide) firstCalm stored
    ((grants_assignmentOf _ _ _).trans (by decide))
  -- and it is found for deletion by its id
  have revokes : (sampleGroup.deleteRoleAssignment sampleAssignment.id).Runs
      (Client.interrupted fun _ => none) secondGrant.2 _ revocation.1 revocation.2 :=
    Program.runs_run _ _ _
  have afterSecond := afterFirst.assign (.refl _) (by decide) secondRuns
  have trimmed : Text.trim sampleAssignment.id = sampleAssignment.id :=
    ((isNamed_sampleGroup.assignmentsPath_plain plain).child
      (apart.plain 0).isPlainSegment).trim_eq
  have returned_mem : Text.trim sampleAssignment.id ∈
      [] ++ returnedIds firstGrant.1 ++ returnedIds secondGrant.1 := by
    rw [trimmed, firstReturned]
    exact List.mem_append_left _ (List.mem_singleton_self _)
  have deletion := ((grants_stay_single isNamed_sampleGroup (by decide) plain apart empty
    afterSecond).2 _ _ (.refl _)).2.1 _ _ _ _ returned_mem revokes
  rw [trimmed] at deletion
  have stillStored : sampleAssignment ∈
      sampleGroup.storedAssignments "payrolldata" secondGrant.2.state := by
    rw [storedAssignments_congr same, stored]
    exact List.mem_singleton_self _
  have secondCalm := (Replica.keeps_of_runs secondRuns).2 firstCalm
  exact ⟨firstReturned, secondReturned, deletion.succeeds secondCalm stillStored⟩

end ResourceManager

end Provision
