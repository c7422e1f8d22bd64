import Provision.Proofs.OperationFailures
import Provision.Proofs.Rehearsals

/-!
# Rehearsing the operations

Each operation is followed through its reads and its checks to its writes, and
from there with what a rehearsal makes up.  What is made up for a write repeats
its body with an id of zeros, which is enough to read the answer again for all
resources but one: a managed identity is asked for by its location alone, and its
name is not among what is made up.
-/

namespace Provision

open Program

variable {matching : Prop}

/-- Results of which nothing is said. -/
def Anyhow {Result : Type} (_ _ : Result) : Prop := True

/-- Results that are the same if the ids and the writes are. -/
def SameIf {Result : Type} (matching : Prop) (left right : Result) : Prop := matching → left = right

theorem Rehearsal.pretend_object {verb : Verb} {url : String} {members : List (String × Json)}
    (creates : verb = .post ∨ verb = .put) :
    pretend ⟨verb, url, some (.object members)⟩ =
      .object (Members.insertNew "id" (.string placeholderId) members) := by
  rcases creates with rfl | rfl <;> rfl

theorem find?_id_pretended {members : List (String × Json)}
    (noId : Members.find? "id" members = none) :
    Members.find? "id" (Members.insertNew "id" (.string Rehearsal.placeholderId) members) =
      some (.string Rehearsal.placeholderId) := Members.find?_insertNew_self noId

theorem Deleted.announced_rehearses {message resource id reported : String} {request : Request}
    (isWrite : request.isWrite = true) :
    Rehearses matching Anyhow .reading (announced message resource id request reported)
      (announced message resource id request reported) := by
  apply Rehearses.report
  exact rehearses_send isWrite isWrite (fun _ => rfl) (fun _ => ⟨_, rfl⟩) (fun _ => .done trivial)

/-- The rehearsal of a deletion makes the same check and holds back the same request. -/
theorem Deleted.checked_rehearses {check : Except PlanError String} {resource : String}
    {message reported url : String → String} :
    Rehearses matching Anyhow .reading
      ((liftM check : Program OperationError String) >>= fun id =>
        announced (message id) resource id ⟨.delete, url id, none⟩ (reported id))
      ((liftM check : Program OperationError String) >>= fun id =>
        announced (message id) resource id ⟨.delete, url id, none⟩ (reported id)) :=
  rehearses_check fun _ _ => announced_rehearses rfl

namespace Directory

variable (directory : Directory)

/-- What is made up for a new agent identity can be read. -/
theorem exists_agentIdentity_pretended {url blueprintAppId displayName : String}
    {sponsors : List String} :
    ∃ created : AgentIdentity, decode? (Rehearsal.pretend
      ⟨.post, url, some (directory.agentIdentityBody blueprintAppId displayName sponsors)⟩) =
        some created := by
  rcases agentIdentityBody_members directory blueprintAppId displayName sponsors with
    ⟨members, body_eq, noId, noAppId, displayNameFound, blueprintFound⟩
  have idFound := find?_id_pretended noId
  rw [body_eq, Rehearsal.pretend_object (.inl rfl)]
  simp [decode?, Json.fields?, Json.required, Json.withDefault, Json.optional, idFound,
    Members.find?_insertNew_of_ne, noAppId, displayNameFound, blueprintFound, Json.text?]

theorem createAgentIdentity_rehearses (blueprintAppId displayName : String)
    (sponsorIds : List String) (policy : Namesake.Policy) :
    Rehearses matching Anyhow .reading
      (directory.createAgentIdentity blueprintAppId displayName sponsorIds policy)
      (directory.createAgentIdentity blueprintAppId displayName sponsorIds policy) := by
  apply rehearses_check
  intro blueprintAppId _
  apply rehearses_check
  intro displayName _
  apply rehearses_check
  intro sponsors _
  apply (reads_listAgentIdentities directory _).rehearses_bind
  intro siblings
  apply rehearses_check
  intro decision _
  cases decision with
  | reuse existingId => exact .report (.done trivial)
  | create =>
      refine .report (rehearses_request rfl rfl (fun _ => rfl) ?_)
      intro document
      rcases exists_agentIdentity_pretended directory with ⟨created, pretended⟩
      rw [pretended]
      split
      · exact .done trivial
      · exact .fail

theorem exists_blueprint_pretended {url displayName : String} {sponsors owners : List String} :
    ∃ created : Blueprint, decode? (Rehearsal.pretend
      ⟨.post, url, some (directory.blueprintBody displayName sponsors owners)⟩) =
        some created := by
  rcases blueprintBody_members directory displayName sponsors owners with
    ⟨members, body_eq, noId, noAppId, noDate, displayNameFound⟩
  have idFound := find?_id_pretended noId
  rw [body_eq, Rehearsal.pretend_object (.inl rfl)]
  simp [decode?, Json.fields?, Json.required, Json.withDefault, Json.optional, idFound,
    Members.find?_insertNew_of_ne, noAppId, noDate, displayNameFound, Json.text?]

/-- The principal of a blueprint is asked for by the client id of the blueprint, which is another
one in a rehearsal; so the writes are not the same. -/
theorem createBlueprint_rehearses (displayName : String) (sponsorIds ownerIds : List String)
    (policy : Namesake.Policy) :
    Rehearses False Anyhow .reading
      (directory.createBlueprint displayName sponsorIds ownerIds policy)
      (directory.createBlueprint displayName sponsorIds ownerIds policy) := by
  apply rehearses_check
  intro displayName _
  apply rehearses_check
  intro sponsors _
  apply rehearses_check
  intro owners _
  apply (reads_listBlueprints directory none).rehearses_bind
  intro existing
  apply rehearses_check
  intro decision _
  cases decision with
  | reuse existingId => exact .report (.done trivial)
  | create =>
      refine .report (rehearses_request rfl rfl (fun _ => rfl) ?_)
      intro document
      rcases exists_blueprint_pretended directory with ⟨created, pretended⟩
      rw [pretended]
      split
      · apply Rehearses.after_progress
        apply rehearses_request rfl rfl False.elim
        intro principal
        exact .done trivial
      · exact .fail

theorem upsertCredential_rehearses (applicationId : String) (spec : CredentialSpec) :
    Rehearses matching Anyhow .reading (directory.upsertCredential applicationId spec)
      (directory.upsertCredential applicationId spec) := by
  apply rehearses_check
  intro applicationId _
  apply rehearses_check
  intro _ _
  apply (reads_fetchCredentials directory applicationId).rehearses_bind
  intro current
  apply rehearses_check
  intro planned _
  cases planned.item? with
  | none => exact .fail
  | some desired =>
      cases wasCreated : planned.wasCreated with
      | true =>
          simp only [if_true]
          refine .report (rehearses_request rfl rfl (fun _ => rfl) ?_)
          intro created
          exact .done trivial
      | false =>
          simp only [Bool.false_eq_true, if_false]
          split
          · exact .done trivial
          · refine .report (rehearses_request rfl rfl (fun _ => rfl) ?_)
            intro document
            exact .done trivial

theorem deleteSteps_rehearses (applicationId name : String) (plan : Removal Credential)
    (index : Nat) (steps : List (StepPosition × Step Credential)) :
    Rehearses matching Anyhow .writing (directory.deleteSteps applicationId name plan index steps)
      (directory.deleteSteps applicationId name plan index steps) := by
  induction steps generalizing index with
  | nil => exact .done trivial
  | cons positioned rest ih =>
      rcases positioned with ⟨position, step⟩
      apply Rehearses.report
      exact rehearses_send rfl rfl (fun _ => rfl) (fun _ => ⟨_, rfl⟩) (fun _ => ih (index + 1))

theorem removeCredential_rehearses (applicationId name : String) :
    Rehearses matching Anyhow .reading (directory.removeCredential applicationId name)
      (directory.removeCredential applicationId name) := by
  apply rehearses_check
  intro applicationId _
  apply rehearses_check
  intro name _
  apply (reads_fetchCredentials directory applicationId).rehearses_bind
  intro current
  apply rehearses_check
  intro plan _
  apply (deleteSteps_rehearses directory applicationId name plan 0 _).relax.bind_return
  intro _ _ _
  trivial

section ItemSets

variable {Element : Type} [Record Element] [Item Element] (itemSet : ItemSet Element)

theorem upsertFetched_rehearses {Spec : Type} [DecidableEq Element] [Specification Spec Element]
    (fetched : Fetched Element) (spec : Spec) :
    Rehearses matching (SameIf matching) .reading (directory.upsertFetched itemSet fetched spec)
      (directory.upsertFetched itemSet fetched spec) := by
  refine .fresh ?_
  intro id otherId sameId
  apply rehearses_checks
  intro upserted planned
  rcases Collection.exists_upsert_with_id planned otherId with ⟨other, otherPlanned, unchanged⟩
  have same : matching → upserted = other := by
    intro holds
    rw [← sameId holds, planned] at otherPlanned
    exact Except.ok.inj otherPlanned
  refine ⟨other, otherPlanned, ?_⟩
  by_cases asBefore : upserted.collection = fetched.collection
  · simp only [asBefore, unchanged.mpr asBefore, if_true]
    exact .done fun holds => by rw [same holds]
  · simp only [asBefore, mt unchanged.mp asBefore, if_false]
    apply Rehearses.report
    refine rehearses_send rfl rfl (fun holds => by rw [same holds]) (fun _ => ⟨_, rfl⟩) ?_
    exact fun _ => .done fun holds => by rw [same holds]

theorem upsertItem_rehearses {Spec : Type} [DecidableEq Element] [Specification Spec Element]
    (applicationId : String) (spec : Spec) :
    Rehearses matching (SameIf matching) .reading (directory.upsertItem itemSet applicationId spec)
      (directory.upsertItem itemSet applicationId spec) := by
  apply rehearses_check
  intro _ _
  apply (reads_fetch directory itemSet applicationId).rehearses_bind
  intro fetched
  exact upsertFetched_rehearses directory itemSet fetched spec

theorem writeSteps_rehearses (objectId : String) (plan : Removal Element) (index : Nat)
    (steps : List (StepPosition × Step Element)) :
    Rehearses matching (SameIf matching) .writing
      (directory.writeSteps itemSet objectId plan index steps)
      (directory.writeSteps itemSet objectId plan index steps) := by
  induction steps generalizing index with
  | nil => exact .done fun _ => rfl
  | cons positioned rest ih =>
      rcases positioned with ⟨position, step⟩
      apply Rehearses.report
      exact rehearses_send rfl rfl (fun _ => rfl) (fun _ => ⟨_, rfl⟩) (fun _ => ih (index + 1))

theorem removeItem_rehearses (applicationId key : String) :
    Rehearses matching (SameIf matching) .reading (directory.removeItem itemSet applicationId key)
      (directory.removeItem itemSet applicationId key) := by
  apply (reads_fetch directory itemSet applicationId).rehearses_bind
  intro fetched
  apply rehearses_check
  intro plan _
  apply (writeSteps_rehearses directory itemSet fetched.objectId plan 0 _).relax.bind_return
  intro _ _ _ _
  rfl

end ItemSets

theorem upsertScope_rehearses (applicationId : String) (spec : ScopeSpec) :
    Rehearses matching (SameIf matching) .reading (directory.upsertScope applicationId spec)
      (directory.upsertScope applicationId spec) := by
  apply rehearses_check
  intro applicationId _
  apply (upsertItem_rehearses directory _ applicationId spec).bind_return
  intro _ _ same holds
  rw [same holds]

theorem removeScope_rehearses (applicationId value : String) :
    Rehearses matching (SameIf matching) .reading (directory.removeScope applicationId value)
      (directory.removeScope applicationId value) := by
  apply rehearses_check
  intro applicationId _
  apply rehearses_check
  intro value _
  apply (removeItem_rehearses directory _ applicationId value).bind_return
  intro _ _ same holds
  rw [same holds]

theorem removeIdentifierUri_rehearses (applicationId uri : String) :
    Rehearses matching (SameIf matching) .reading
      (directory.removeIdentifierUri applicationId uri)
      (directory.removeIdentifierUri applicationId uri) := by
  apply rehearses_check
  intro applicationId _
  apply rehearses_check
  intro uri _
  apply (removeItem_rehearses directory _ applicationId uri).bind_return
  intro _ _ _ _
  rfl

theorem addIdentifierUri_rehearses (applicationId : String) (uri : Option String) :
    Rehearses matching (SameIf matching) .reading
      (directory.addIdentifierUri applicationId uri)
      (directory.addIdentifierUri applicationId uri) := by
  apply rehearses_check
  intro applicationId _
  cases uri with
  | some uri =>
      apply rehearses_check
      intro _ _
      apply (reads_fetch directory _ applicationId).rehearses_bind
      intro fetched
      apply (upsertFetched_rehearses directory _ fetched _).bind_return
      intro _ _ same holds
      rw [same holds]
  | none =>
      apply (reads_fetch directory _ applicationId).rehearses_bind
      intro fetched
      apply rehearses_check
      intro appId _
      apply (upsertFetched_rehearses directory _ fetched _).bind_return
      intro _ _ same holds
      rw [same holds]

end Directory

namespace ResourceManager

variable (manager : ResourceManager)

theorem deleteRoleAssignment_rehearses (assignmentId : String) :
    Rehearses matching Anyhow .reading (manager.deleteRoleAssignment assignmentId)
      (manager.deleteRoleAssignment assignmentId) := by
  apply rehearses_check
  intro assignmentId _
  split
  · exact Deleted.announced_rehearses rfl
  · exact .fail

theorem exists_roleAssignment_pretended {url principalId : String} {role : StorageRole} :
    ∃ created : RoleAssignment, decode? (Rehearsal.pretend
      ⟨.put, url, some (manager.assignmentBody principalId role)⟩) = some created := by
  rcases assignmentBody_members manager principalId role with ⟨body, body_eq, properties, decoded⟩
  refine ⟨⟨Rehearsal.placeholderId, "", properties⟩, ?_⟩
  rw [body_eq, Rehearsal.pretend_object (.inr rfl)]
  let members : List (String × Json) :=
    [("id", .string Rehearsal.placeholderId), ("properties", body)]
  change (do
    let id ← Json.required Json.text? "id" members
    let name ← Json.withDefault Json.text? "" "name" members
    let properties ← Json.required decode? "properties" members
    return (⟨id, name, properties⟩ : RoleAssignment)) = _
  simp [members, Json.required, Json.withDefault, Members.find?, decoded, Json.text?]

theorem assignRole_rehearses (storageAccount principalId : String) (role : StorageRole) :
    Rehearses matching Anyhow .reading (manager.assignRole storageAccount principalId role)
      (manager.assignRole storageAccount principalId role) := by
  apply rehearses_check
  intro storageAccount _
  apply rehearses_check
  intro principalId _
  apply (reads_listRoleAssignments manager storageAccount (some principalId)).rehearses_bind
  intro existing
  split
  · exact .report (.done trivial)
  · refine .fresh ?_
    intro name other sameName
    refine .report (rehearses_request rfl rfl (fun holds => by rw [sameName holds]) ?_)
    intro document
    rcases exists_roleAssignment_pretended manager with ⟨created, pretended⟩
    rw [pretended]
    split
    · exact .done trivial
    · exact .fail

/-- What is made up for a new managed identity has no name, so it cannot be read. -/
theorem decode_pretended_managedIdentity {url location : String} :
    (decode? (Rehearsal.pretend
      ⟨.put, url, some (Json.ofMembers [("location", .string location)])⟩) :
        Option ManagedIdentity) = none := by
  have pretended : Rehearsal.pretend
      ⟨.put, url, some (Json.ofMembers [("location", .string location)])⟩ =
        .object [("id", .string Rehearsal.placeholderId), ("location", .string location)] := rfl
  rw [pretended]
  simp [decode?, Json.fields?, Json.required, Members.find?, Json.text?]

theorem createManagedIdentity_rehearsal_fails {State : Type} (client : Client State)
    (name location : String) (start : Run (Rehearsal State)) :
    ∃ failure, ((manager.createManagedIdentity name location).run client.rehearsing start).1 =
      .failed failure := by
  unfold createManagedIdentity
  cases ManagedIdentity.checkName name with
  | error error => exact ⟨.plan error, rfl⟩
  | ok name =>
      cases Argument.required "location" location with
      | error error => exact ⟨.plan error, rfl⟩
      | ok location =>
          let request : Request := ⟨.put, manager.url (manager.identityPath name)
            ManagedIdentity.version [], some (Json.ofMembers [("location", .string location)])⟩
          have unread : (decode? (Rehearsal.pretend request) : Option ManagedIdentity) = none :=
            decode_pretended_managedIdentity
          refine ⟨.decode "managed identity", ?_⟩
          change (Program.run client.rehearsing (match decode? (Rehearsal.pretend request) with
            | some (created : ManagedIdentity) => pure created
            | none => .fail (OperationError.decode "managed identity")) _).1 = _
          rw [unread]
          rfl

end ResourceManager

section Commands

variable {State : Type} {context : Option String}

theorem Program.Rehearses.single {Outcome : Type} {toJson : Outcome → Json}
    {alike : Outcome → Outcome → Prop} {operation : Program OperationError Outcome}
    (rehearses : Rehearses matching alike .reading operation operation) :
    Rehearses matching Anyhow .reading ((Report.single toJson operation).within context)
      ((Report.single toJson operation).within context) := by
  apply Rehearses.mapFailure
  apply rehearses.bind_return
  intro _ _ _
  trivial

theorem Program.Reads.rehearses_listing {Element : Type} [Record Element] {name : String}
    {operation : Program OperationError (List Element)} (reads : operation.Reads) :
    Rehearses matching Anyhow .reading ((Report.listing name operation).within context)
      ((Report.listing name operation).within context) := by
  apply Rehearses.mapFailure
  apply reads.rehearses_bind
  intro results
  exact .done trivial

theorem Program.run_single_failed {Outcome : Type} {toJson : Outcome → Json}
    {operation : Program OperationError Outcome} {client : Client State} {now : Run State}
    {failure : OperationError} (failed : (operation.run client now).1 = .failed failure) :
    (((Report.single toJson operation).within context).run client now).1 =
      .failed ⟨context, failure⟩ := by
  rcases ended : operation.run client now with ⟨ending, later⟩
  obtain rfl : ending = .failed failure := by rw [← failed, ended]
  rw [Program.within, run_mapFailure, Report.single, run_bind, ended]
  rfl

end Commands

namespace Command

variable (directory : Directory) (manager : ResourceManager)

/-- All commands but one can be rehearsed. -/
theorem rehearses {command : Command}
    (other : ∀ name location, command ≠ .resources (.createIdentity name location)) :
    Rehearses False Anyhow .reading (command.program directory manager)
      (command.program directory manager) := by
  cases command with
  | directory command =>
      cases command <;> simp only [program, DirectoryCommand.run]
      case createBlueprint create owners =>
        exact (directory.createBlueprint_rehearses create.name create.sponsors owners
          create.onDuplicate).single
      case listBlueprints filter => exact (directory.reads_listBlueprints filter).rehearses_listing
      case deleteBlueprint id | deleteIdentity id => exact Deleted.checked_rehearses.single
      case createIdentity blueprintAppId create =>
        exact (directory.createAgentIdentity_rehearses blueprintAppId create.name create.sponsors
          create.onDuplicate).single
      case listIdentities blueprintAppId =>
        exact (directory.reads_listAgentIdentities blueprintAppId).rehearses_listing
      case upsertScope application spec =>
        exact (directory.upsertScope_rehearses application spec).single
      case listScopes application =>
        exact (directory.reads_listScopes application).rehearses_listing
      case removeScope application value =>
        exact (directory.removeScope_rehearses application value).single
      case addUri application uri =>
        exact (directory.addIdentifierUri_rehearses application uri).single
      case listUris application =>
        exact (directory.reads_listIdentifierUris application).rehearses_listing
      case removeUri application uri =>
        exact (directory.removeIdentifierUri_rehearses application uri).single
      case upsertCredential application spec =>
        exact (directory.upsertCredential_rehearses application spec).single
      case listCredentials application subject =>
        exact (directory.reads_listCredentials application subject).rehearses_listing
      case removeCredential application name =>
        exact (directory.removeCredential_rehearses application name).single
  | resources command =>
      cases command <;> simp only [program, ResourceCommand.run]
      case createIdentity name location => exact absurd rfl (other name location)
      case listIdentities => exact manager.reads_listManagedIdentities.rehearses_listing
      case deleteIdentity name => exact Deleted.checked_rehearses.single
      case assignRole storageAccount principalId role =>
        exact (manager.assignRole_rehearses storageAccount principalId role).single
      case listAssignments storageAccount principalId =>
        exact (manager.reads_listRoleAssignments storageAccount principalId).rehearses_listing
      case deleteAssignment id => exact (manager.deleteRoleAssignment_rehearses id).single

theorem createIdentity_not_returned {State : Type} {client : Client State}
    {name location : String} {start last : Run (Rehearsal State)} {held : List Exchange}
    {other : Report} :
    ¬((Command.resources (.createIdentity name location)).program directory manager).Runs
      client.rehearsing start held (.returned other) last := by
  intro rehearsed
  rcases manager.createManagedIdentity_rehearsal_fails client name location start with
    ⟨failure, failed⟩
  have commandFails : (((Report.single encode
      (manager.createManagedIdentity name location)).within none).run client.rehearsing start).1 =
        .failed ⟨none, failure⟩ := run_single_failed failed
  have returned := congrArg Prod.fst rehearsed.run_eq
  exact absurd (returned.symm.trans commandFails) (by simp)

/-- The rehearsal of a command that returns comes to its end too, unless the command is to create a
managed identity. -/
theorem rehearsal_returns_iff {State : Type} {client : Client State} {command : Command}
    {now later : Run State} {sent : List Exchange} {report : Report}
    (runs : (command.program directory manager).Runs client now sent (.returned report) later)
    {start : Run (Rehearsal State)} (sameState : start.state.inner = now.state) :
    (∃ held other last, (command.program directory manager).Runs client.rehearsing start held
        (.returned other) last) ↔
      ∀ name location, command ≠ .resources (.createIdentity name location) := by
  constructor
  · rintro ⟨held, other, last, rehearsed⟩ name location rfl
    exact createIdentity_not_returned directory manager rehearsed
  · intro otherCommand
    rcases (rehearses directory manager otherCommand).of_returned runs start (fun _ => sameState)
      False.elim with ⟨held, other, last, rehearsed, -, -⟩
    exact ⟨held, other, last, rehearsed⟩

/-- A run that starts at a replica with a group that has no managed identities, and with one service
principal. -/
def sampleStart : Run Replica :=
  ⟨((Replica.empty ⟨fun _ => "new", 0⟩).withCollection ("https://manager/subscriptions/s"
    ++ "/resourceGroups/g/providers/Microsoft.ManagedIdentity/userAssignedIdentities")).withDocument
      "https://directory/servicePrincipals/p1" (.object [("id", .string "p1")]),
    ⟨fun _ => "id", 0⟩, []⟩

/-- The rehearsal of a deletion comes to its end. -/
theorem rehearsal_returns_iff_sample :
    ∃ held other last, ((Command.directory (.deleteIdentity "p1")).program
      ⟨"https://directory", 1⟩ ⟨"https://manager", "s", "g", 1⟩).Runs Client.replica.rehearsing
        ⟨⟨sampleStart.state, []⟩, ⟨fun _ => "other", 0⟩, []⟩ held (.returned other) last := by
  have runs : ((Command.directory (.deleteIdentity "p1")).program ⟨"https://directory", 1⟩
      ⟨"https://manager", "s", "g", 1⟩).Runs Client.replica sampleStart _ (.returned _) _ :=
    Program.runs_of_ending rfl
  exact (rehearsal_returns_iff ⟨"https://directory", 1⟩ ⟨"https://manager", "s", "g", 1⟩ runs
    rfl).mpr (by simp)

/-- A managed identity that is created for real is not created in a rehearsal. -/
theorem createIdentity_not_rehearsed :
    (∃ sent report later, ((Command.resources (.createIdentity "deploy" "westeurope")).program
        ⟨"https://directory", 1⟩ ⟨"https://manager", "s", "g", 1⟩).Runs Client.replica sampleStart
          sent (.returned report) later) ∧
      ∀ held other last, ¬((Command.resources (.createIdentity "deploy" "westeurope")).program
        ⟨"https://directory", 1⟩ ⟨"https://manager", "s", "g", 1⟩).Runs
          Client.replica.rehearsing ⟨⟨sampleStart.state, []⟩, sampleStart.ids, []⟩ held
          (.returned other) last := by
  constructor
  · exact ⟨_, _, _, rfl, rfl⟩
  · intro held other last
    exact createIdentity_not_returned _ _

end Command

/-- Whenever a program returns, its rehearsal from the same state and with the same ids returns a
result that is `alike`, and holds back the writes of the program one by one in their order. -/
def Program.RehearsedAs {Failure Result : Type} (alike : Result → Result → Prop)
    (program : Program Failure Result) : Prop :=
  ∀ {State : Type} (client : Client State) (now later : Run State) (sent : List Exchange)
    (result : Result), program.Runs client now sent (.returned result) later →
    ∀ skipped messages, ∃ held other last,
      program.Runs client.rehearsing ⟨⟨now.state, skipped⟩, now.ids, messages⟩ held
        (.returned other) last ∧
      alike result other ∧
      last.state.skipped = skipped ++ (sent.filter Exchange.isWrite).map Exchange.request

theorem Program.Rehearses.rehearsedAs {Failure Result : Type} {alike : Result → Result → Prop}
    {program : Program Failure Result}
    (rehearses : Rehearses True alike .reading program program) : program.RehearsedAs alike := by
  intro State client now later sent result runs skipped messages
  rcases rehearses.of_returned runs ⟨⟨now.state, skipped⟩, now.ids, messages⟩ (fun _ => rfl)
    (fun _ => rfl) with ⟨held, other, last, rehearsed, isAlike, heldBack⟩
  exact ⟨held, other, last, rehearsed, isAlike, heldBack trivial⟩

/-- A program whose results in a rehearsal are the same if the ids and the writes are. -/
theorem Program.Rehearses.rehearsedAs_eq {Failure Result : Type} {program : Program Failure Result}
    (rehearses : Rehearses True (SameIf True) .reading program program) :
    program.RehearsedAs Eq := by
  apply rehearsedAs
  apply rehearses.weaken
  intro result other same
  exact same trivial

/-- Rehearsals never change the server, and report what would have been written. -/
theorem rehearsals_report_writes (directory : Directory) (manager : ResourceManager) :
    (∀ (commands : List Command) (now : Run (Rehearsal Replica)),
      Replica.OnlyRead now.state.inner (runAll Client.replica.rehearsing
        (commands.map (Command.program directory manager)) now).state.inner) ∧
    (∀ application spec, (directory.upsertScope application spec).RehearsedAs Eq) ∧
    (∀ application value, (directory.removeScope application value).RehearsedAs Eq) ∧
    (∀ application uri, (directory.addIdentifierUri application uri).RehearsedAs Eq) ∧
    (∀ application uri, (directory.removeIdentifierUri application uri).RehearsedAs Eq) ∧
    (∀ application spec, (directory.upsertCredential application spec).RehearsedAs Anyhow) ∧
    (∀ application name, (directory.removeCredential application name).RehearsedAs Anyhow) ∧
    (∀ blueprint name sponsors policy,
      (directory.createAgentIdentity blueprint name sponsors policy).RehearsedAs Anyhow) ∧
    (∀ account principal role, (manager.assignRole account principal role).RehearsedAs Anyhow) ∧
    (∀ id, (directory.deleteBlueprint id).RehearsedAs Anyhow) ∧
    (∀ id, (directory.deleteAgentIdentity id).RehearsedAs Anyhow) ∧
    (∀ name, (manager.deleteManagedIdentity name).RehearsedAs Anyhow) ∧
    ∀ id, (manager.deleteRoleAssignment id).RehearsedAs Anyhow := by
  refine ⟨fun commands now => onlyRead_runAll _ now, ?_, ?_, ?_, ?_, ?_, ?_, ?_, ?_, ?_, ?_, ?_, ?_⟩
  · exact fun application spec => (directory.upsertScope_rehearses application spec).rehearsedAs_eq
  · exact fun application value =>
      (directory.removeScope_rehearses application value).rehearsedAs_eq
  · exact fun application uri =>
      (directory.addIdentifierUri_rehearses application uri).rehearsedAs_eq
  · exact fun application uri =>
      (directory.removeIdentifierUri_rehearses application uri).rehearsedAs_eq
  · exact fun application spec =>
      (directory.upsertCredential_rehearses application spec).rehearsedAs
  · exact fun application name =>
      (directory.removeCredential_rehearses application name).rehearsedAs
  · exact fun blueprint name sponsors policy =>
      (directory.createAgentIdentity_rehearses blueprint name sponsors policy).rehearsedAs
  · exact fun account principal role =>
      (manager.assignRole_rehearses account principal role).rehearsedAs
  · exact fun id => Deleted.checked_rehearses.rehearsedAs
  · exact fun id => Deleted.checked_rehearses.rehearsedAs
  · exact fun name => Deleted.checked_rehearses.rehearsedAs
  · exact fun id => (manager.deleteRoleAssignment_rehearses id).rehearsedAs

/-- The rehearsal of a deletion holds back the one write of the deletion. -/
theorem rehearsals_report_writes_sample :
    ∃ held other last, ((⟨"https://directory", 1⟩ : Directory).deleteAgentIdentity " p1").Runs
        Client.replica.rehearsing
        ⟨⟨Command.sampleStart.state, []⟩, Command.sampleStart.ids, []⟩ held (.returned other)
        last ∧
      last.state.skipped = [⟨.delete, "https://directory/servicePrincipals/p1", none⟩] := by
  rcases rehearsals_report_writes ⟨"https://directory", 1⟩ ⟨"https://manager", "s", "g", 1⟩ with
    ⟨-, -, -, -, -, -, -, -, -, -, deletes, -, -⟩
  have runs : ((⟨"https://directory", 1⟩ : Directory).deleteAgentIdentity " p1").Runs
      Client.replica Command.sampleStart _ (.returned _) _ :=
    Program.runs_of_ending rfl
  rcases deletes " p1" Client.replica Command.sampleStart _ _ _ runs [] [] with
    ⟨held, other, last, rehearsed, -, skipped⟩
  exact ⟨held, other, last, rehearsed, skipped⟩

end Provision
