import Provision.Proofs.FailedRuns
import Provision.Proofs.ItemSetRuns

/-!
# How each operation fails

Listings read only.  Every other operation is a chain of checks and reads with
its writes at the end, and what the server makes of a new document can always be
read again.  Three operations are told apart here: a removal from a collection
may have written some of its steps, an upsert reports the state of an item, and
the creation of a blueprint writes twice.
-/

namespace Provision

open Program

/-- A failed run of an operation that sends at most one write does not look like a removal that
stopped half-way. -/
abbrev Program.FailsWhole {Result : Type} (operation : Program OperationError Result) : Prop :=
  operation.FailsWith (Stopped fun failure => failure.isPartial = false)

/-- The state that a refused write is reported with by its verb: an item that was to be created or
stored is taken to be absent, and one that was to be changed to be there. -/
inductive ReportedByVerb (request : Request) (detail : WriteFailure) : Prop where
  | created (isPost : request.verb = .post) (absent : detail.state = .absent)
  | stored (isPut : request.verb = .put) (absent : detail.state = .absent)
  | changed (isPatch : request.verb = .patch) (present : detail.state = .present none)

/-- No state that is reported by the verb is that of an item with its gate shut. -/
theorem FailsWhole.of_stoppedAt {Result : Type} {operation : Program OperationError Result}
    (fails : operation.FailsWith (StoppedAt ReportedByVerb)) : operation.FailsWhole := by
  apply fails.weaken
  intro sent failure stopped
  apply stopped.stopped
  rintro request detail cause (⟨-, state_eq⟩ | ⟨-, state_eq⟩ | ⟨-, state_eq⟩) <;>
    simp [OperationError.isPartial, state_eq, ItemState.isStranded]

namespace Deleted

/-- What all deletions do in the end: they say what they are going to do, send the one request, and
report what is deleted under an id of its own. -/
def announced (message resource id : String) (request : Request) (reported : String) :
    Program OperationError Deleted := do
  Program.progress message
  (do let _ ← Program.request request : Program RemoteError Unit).mapFailure (failure resource id)
  return ⟨resource, reported⟩

theorem isPartial_failure (resource id : String) (cause : RemoteError) :
    (failure resource id cause).isPartial = false := by
  unfold failure
  split <;> rfl

theorem announced_fails {message resource id : String} {request : Request} {reported : String} :
    (announced message resource id request reported).FailsWhole := by
  apply FailsWith.after_progress
  refine stopped_send (fun cause => ⟨_, rfl, ?_⟩) (fun _ _ => ⟨_, rfl⟩)
  exact isPartial_failure _ _ cause

/-- A deletion checks what it is given, and fails with that or with its one request. -/
theorem checked_fails {check : Except PlanError String} {resource : String}
    {message reported : String → String} {request : String → Request} :
    ((liftM check : Program OperationError String) >>= fun id =>
      announced (message id) resource id (request id) (reported id)).FailsWhole :=
  late_stopped.check fun _ _ => announced_fails

end Deleted

namespace ItemSet

variable {Element : Type} [Record Element] {itemSet : ItemSet Element}

theorem not_write_of_fetched? {applicationId : String} {application : Json}
    {failure : OperationError} (refused : itemSet.fetched? applicationId application =
      .error failure) (detail : WriteFailure) (cause : RemoteError) :
    failure ≠ .write detail cause := by
  unfold fetched? at refused
  split at refused
  · obtain rfl : _ = failure := Except.error.inj refused
    simp
  · obtain rfl : _ = failure := Except.error.inj refused
    simp
  · simp at refused

end ItemSet

namespace Directory

variable (directory : Directory)

theorem reads_listBlueprints (filter : Option String) :
    (directory.listBlueprints filter).Reads := by
  apply (reads_pages _ _ _ _).bind
  intro blueprints
  split <;> exact reads_return

theorem reads_listAgentIdentities (blueprintAppId : Option String) :
    (directory.listAgentIdentities blueprintAppId).Reads := by
  apply (reads_pages _ _ _ _).bind
  intro identities
  split <;> exact reads_return

theorem reads_fetchCredentials (applicationId : String) :
    (directory.fetchCredentials applicationId).Reads := by
  apply (reads_pages _ _ _ _).bind
  intro items
  exact reads_return

theorem reads_listCredentials (applicationId : String) (subject : Option String) :
    (directory.listCredentials applicationId subject).Reads := by
  apply reads_check
  intro applicationId _
  apply (reads_fetchCredentials directory applicationId).bind
  intro all
  split <;> exact reads_return

theorem agentIdentityBody_members (blueprintAppId displayName : String) (sponsors : List String) :
    ∃ members, directory.agentIdentityBody blueprintAppId displayName sponsors = .object members ∧
      Members.find? "id" members = none ∧ Members.find? "appId" members = none ∧
      Members.find? "displayName" members = some (.string displayName) ∧
      Members.find? "agentIdentityBlueprintId" members = some (.string blueprintAppId) := by
  refine ⟨_, rfl, ?_⟩
  simp [Members.ofList, Members.find?_insert, Members.find?]

/-- The document of a new agent identity is read again. -/
theorem exists_agentIdentity {url blueprintAppId displayName : String} {sponsors : List String}
    {document : Json} (answered : Replica.MayAnswer
      ⟨.post, url, some (directory.agentIdentityBody blueprintAppId displayName sponsors)⟩
      (.ok document)) : ∃ created : AgentIdentity, decode? document = some created := by
  rcases agentIdentityBody_members directory blueprintAppId displayName sponsors with
    ⟨members, body_eq, noId, noAppId, displayNameFound, blueprintFound⟩
  rw [body_eq] at answered
  rcases answered document rfl with ⟨earlier, later, handles⟩
  rcases Replica.of_handle_post noId noAppId handles with ⟨created, rfl, id, appId, others, -⟩
  rw [← others "displayName" (by decide) (by decide) (by decide)] at displayNameFound
  rw [← others "agentIdentityBlueprintId" (by decide) (by decide) (by decide)] at blueprintFound
  rcases appId with ⟨appId, appIdFound⟩
  simp [decode?, Json.fields?, Json.required, Json.optional, id, appIdFound,
    Replica.withDefault_of_find? displayNameFound, blueprintFound, Json.text?]

theorem createAgentIdentity_stops (blueprintAppId displayName : String)
    (sponsorIds : List String) (policy : Namesake.Policy) :
    (directory.createAgentIdentity blueprintAppId displayName sponsorIds policy).FailsWith
      (StoppedAt ReportedByVerb) := by
  apply late_stoppedAt.check
  intro blueprintAppId _
  apply late_stoppedAt.check
  intro displayName _
  apply late_stoppedAt.check
  intro sponsors _
  apply late_stoppedAt.bind (reads_listAgentIdentities directory _)
  intro siblings
  apply late_stoppedAt.check
  intro decision _
  cases decision with
  | reuse existingId => exact failsWith_return.after_progress
  | create =>
      apply FailsWith.after_progress
      apply stoppedAt_request
      · exact .created rfl rfl
      · intro document answered
        rcases exists_agentIdentity directory answered with ⟨created, decoded⟩
        simp only [decoded]
        exact ⟨_, rfl⟩

theorem blueprintBody_members (displayName : String) (sponsors owners : List String) :
    ∃ members, directory.blueprintBody displayName sponsors owners = .object members ∧
      Members.find? "id" members = none ∧ Members.find? "appId" members = none ∧
      Members.find? "createdDateTime" members = none ∧
      Members.find? "displayName" members = some (.string displayName) := by
  cases owners with
  | nil =>
      refine ⟨_, rfl, ?_⟩
      simp [Json.present, Members.ofList, Members.find?_insert, Members.find?]
  | cons owner owners =>
      refine ⟨_, rfl, ?_⟩
      simp [Json.present, Members.ofList, Members.find?_insert, Members.find?]

/-- How the creation of a blueprint fails: without any write, or between its two writes, when the
application is there and its principal is not. -/
inductive BlueprintFailure (displayName : String) : List Exchange → OperationError → Prop where
  | stopped {sent : List Exchange} {failure : OperationError}
      (holds : Stopped (fun failure => failure.isPartial = false ∧
        ∀ detail cause, failure = .write detail cause → detail.itemId = none) sent failure) :
      BlueprintFailure displayName sent failure
  | halfway {reads : List Exchange} {sponsors owners : List String} {document : Json}
      {blueprint : Blueprint} {request : Request} {cause : RemoteError}
      (onlyReads : ∀ exchange ∈ reads, exchange.isWrite = false)
      (decoded : decode? document = some blueprint) :
      BlueprintFailure displayName
        (reads ++ [⟨⟨.post, directory.url blueprintsPath,
          some (directory.blueprintBody displayName sponsors owners)⟩, .ok document⟩,
            ⟨request, .error cause⟩])
        (.write ⟨displayName, some blueprint.id, none, .present none⟩ cause)

theorem BlueprintFailure.late (displayName : String) :
    Late (directory.BlueprintFailure displayName) where
  early isEarly := .stopped (.early isEarly)
  afterReads onlyReads failed := by
    cases failed with
    | stopped holds => exact .stopped (holds.after_reads onlyReads)
    | halfway moreReads decoded =>
        rw [← List.append_assoc]
        exact .halfway (List.forall_mem_append.mpr ⟨onlyReads, moreReads⟩) decoded

/-- The document of a new blueprint is read again, with the id that it is stored under. -/
theorem exists_blueprint {earlier later : Replica} {url displayName : String}
    {sponsors owners : List String} {document : Json}
    (handles : Replica.handle earlier
      ⟨.post, url, some (directory.blueprintBody displayName sponsors owners)⟩ =
        .ok (document, later)) :
    ∃ blueprint : Blueprint, decode? document = some blueprint ∧
      blueprint.id = earlier.ids.current ∧ blueprint.displayName = displayName ∧
      later.documents = earlier.documents.store
        ((Replica.Location.ofUrl url).path ++ "/" ++ blueprint.id) document := by
  rcases blueprintBody_members directory displayName sponsors owners with
    ⟨members, body_eq, noId, noAppId, noDate, displayNameFound⟩
  rw [body_eq] at handles
  rcases Replica.of_handle_post noId noAppId handles with
    ⟨created, rfl, id, ⟨appId, appIdFound⟩, others, stored⟩
  rw [← others "displayName" (by decide) (by decide) (by decide)] at displayNameFound
  rw [← others "createdDateTime" (by decide) (by decide) (by decide)] at noDate
  refine ⟨⟨earlier.ids.current, appId, displayName, none⟩, ?_, rfl, rfl, stored⟩
  simp [decode?, Json.fields?, Json.required, Json.optional, id, appIdFound,
    Replica.withDefault_of_find? displayNameFound, noDate, Json.text?]

theorem createBlueprint_fails (displayName : String) (sponsorIds ownerIds : List String)
    (policy : Namesake.Policy) :
    (directory.createBlueprint displayName sponsorIds ownerIds policy).FailsWith
      (directory.BlueprintFailure (Text.trim displayName)) := by
  have late := BlueprintFailure.late directory (Text.trim displayName)
  apply late.check
  intro displayName accepted
  rcases Argument.eq_trim_of_required accepted with ⟨rfl, -⟩
  apply late.check
  intro sponsors _
  apply late.check
  intro owners _
  apply late.bind (reads_listBlueprints directory none)
  intro existing
  apply late.check
  intro decision _
  cases decision with
  | reuse existingId => exact failsWith_return.after_progress
  | create =>
      apply FailsWith.after_progress
      apply failsWith_request
      · intro cause
        apply BlueprintFailure.stopped
        refine .refused_first ⟨rfl, ?_⟩
        rintro detail _ ⟨⟩
        rfl
      · intro document mayAnswer
        rcases mayAnswer document rfl with ⟨earlier, later, handles⟩
        rcases exists_blueprint directory handles with ⟨blueprint, decoded, -⟩
        simp only [decoded]
        apply FailsWith.after_progress
        apply failsWith_request
        · intro cause
          have noReads : ∀ exchange ∈ ([] : List Exchange), exchange.isWrite = false := by simp
          exact .halfway noReads decoded
        · intro principal _
          exact failsWith_return

theorem upsertCredential_stops (applicationId : String) (spec : CredentialSpec) :
    (directory.upsertCredential applicationId spec).FailsWith (StoppedAt ReportedByVerb) := by
  apply late_stoppedAt.check
  intro applicationId _
  apply late_stoppedAt.check
  intro _ _
  apply late_stoppedAt.bind (reads_fetchCredentials directory applicationId)
  intro current
  apply late_stoppedAt.check
  intro planned _
  cases planned.item? with
  | none => exact failsWith_fail (.early ⟨by simp, by simp⟩)
  | some desired =>
      cases wasCreated : planned.wasCreated with
      | true =>
          simp only [if_true]
          apply FailsWith.after_progress
          apply stoppedAt_request
          · exact .created rfl rfl
          · exact fun document _ => ⟨_, rfl⟩
      | false =>
          simp only [Bool.false_eq_true, if_false]
          split
          · exact failsWith_return
          · apply FailsWith.after_progress
            apply stoppedAt_request
            · exact .changed rfl rfl
            · exact fun document _ => ⟨_, rfl⟩

/-- The removal of a credential takes a single step. -/
theorem removeCredential_fails (applicationId name : String) :
    (directory.removeCredential applicationId name).FailsWhole := by
  apply late_stopped.check
  intro applicationId _
  apply late_stopped.check
  intro name _
  apply late_stopped.bind (reads_fetchCredentials directory applicationId)
  intro current
  apply late_stopped.check
  intro plan planned
  rcases Collection.removeByKey_cases planned with ⟨_, _, before, target, after, _, _, _, rfl⟩
  apply FailsWith.after_progress
  refine stopped_send (fun cause => ⟨_, rfl, rfl⟩) (fun _ _ => ⟨_, rfl⟩)

section ItemSets

variable {Element : Type} [Record Element] (itemSet : ItemSet Element)

omit [Record Element] in
theorem onlyReads_readRequest {applicationId : String} {answer : Except RemoteError Json} :
    ∀ exchange ∈ [(⟨directory.readRequest itemSet applicationId, answer⟩ : Exchange)],
      exchange.isWrite = false := by
  simp [Exchange.isWrite, Request.isWrite, readRequest]

/-- Fetching a collection reads the application and says what is made of it. -/
theorem fetch_ensures {admits : Request → Except RemoteError Json → Prop}
    (applicationId : String) :
    (directory.fetch itemSet applicationId).Ensures admits fun sent ending =>
      (∃ failure, ending = .failed failure ∧ EarlyFailure sent failure) ∨
        ∃ document fetched, ending = .returned fetched ∧
          itemSet.fetched? applicationId document = .ok fetched ∧
          sent = [⟨directory.readRequest itemSet applicationId, .ok document⟩] := by
  rw [fetch_eq]
  refine ensures_send fun answer _ => ?_
  cases answer with
  | error cause =>
      refine ensures_fail (.inl ?_)
      exact ⟨_, rfl, onlyReads_readRequest directory itemSet, by simp⟩
  | ok document =>
      apply ensures_ofExcept
      cases read : itemSet.fetched? applicationId document with
      | error failure =>
          left
          exact ⟨failure, rfl, onlyReads_readRequest directory itemSet,
            ItemSet.not_write_of_fetched? read⟩
      | ok fetched =>
          right
          exact ⟨document, fetched, rfl, read, rfl⟩

theorem reads_fetch (applicationId : String) :
    (directory.fetch itemSet applicationId).Reads := by
  rw [fetch_eq]
  refine .send rfl ?_
  intro answer
  cases answer with
  | error cause => exact .fail (by simp)
  | ok document =>
      change (ofExcept (itemSet.fetched? applicationId document)).Reads
      cases read : itemSet.fetched? applicationId document with
      | error failure => exact .fail (ItemSet.not_write_of_fetched? read)
      | ok fetched => exact reads_return

theorem reads_listScopes (applicationId : String) :
    (directory.listScopes applicationId).Reads := by
  apply reads_check
  intro applicationId _
  apply (reads_fetch directory _ applicationId).bind
  intro fetched
  exact reads_return

theorem reads_listIdentifierUris (applicationId : String) :
    (directory.listIdentifierUris applicationId).Reads := by
  apply reads_check
  intro applicationId _
  apply (reads_fetch directory _ applicationId).bind
  intro fetched
  exact reads_return

/-- What is said of the refused write of an upsert: the item is in the state that it was fetched
in. -/
def refusedUpsert {Spec : Type} [Item Element] [Specification Spec Element]
    (current : Collection Element) (spec : Spec) (upserted : Upserted Element) : WriteFailure where
  key := Specification.key spec
  itemId := if upserted.wasCreated then none else some upserted.itemId
  position := none
  state := ItemState.of current upserted.itemId

/-- An upsert cannot be planned, or is refused at its only write. -/
inductive UpsertFailure {Spec : Type} [Item Element] [Specification Spec Element]
    (itemSet : ItemSet Element) (fetched : Fetched Element) (spec : Spec) (newId : String) :
    List Exchange → OperationError → Prop where
  | notPlanned {error : PlanError} : UpsertFailure itemSet fetched spec newId [] (.plan error)
  | refused {upserted : Upserted Element} {refusal : RemoteError}
      (planned : fetched.collection.upsert spec newId = .ok upserted) :
      UpsertFailure itemSet fetched spec newId
        [⟨directory.writeRequest itemSet fetched.objectId upserted.collection, .error refusal⟩]
        (.write (refusedUpsert fetched.collection spec upserted) refusal)

/-- An upsert draws the id of a new item first, and fails in one of two ways with it. -/
theorem exists_upsertFetched_fails {Spec : Type} [Item Element] [DecidableEq Element]
    [Specification Spec Element] (fetched : Fetched Element) (spec : Spec) :
    ∃ withId, directory.upsertFetched itemSet fetched spec = freshId >>= withId ∧
      ∀ newId, (withId newId).FailsWith (directory.UpsertFailure itemSet fetched spec newId) := by
  refine ⟨_, rfl, ?_⟩
  intro newId
  apply failsWith_check
  · intro error
    exact .notPlanned
  · intro upserted planned
    split
    · exact failsWith_return
    · apply FailsWith.after_progress
      refine ⟨ensures_send fun answer _ => ?_⟩
      cases answer with
      | error refusal =>
          apply ensures_fail
          rintro _ ⟨⟩
          exact .refused planned
      | ok document =>
          apply ensures_done
          intro failure failed
          simp at failed

theorem upsertFetched_fails {Spec : Type} [Item Element] [DecidableEq Element]
    [Specification Spec Element] (fetched : Fetched Element) (spec : Spec) :
    (directory.upsertFetched itemSet fetched spec).FailsWith (Stopped fun failure =>
      ∃ detail cause itemId, failure = .write detail cause ∧
        detail.state = ItemState.of fetched.collection itemId) := by
  rcases exists_upsertFetched_fails directory itemSet fetched spec with ⟨withId, eq, fails⟩
  rw [eq]
  apply FailsWith.after_fresh
  intro newId
  apply (fails newId).weaken
  intro sent failure failed
  cases failed with
  | notPlanned => exact .early ⟨by simp, by simp⟩
  | refused _ => exact .refused_first ⟨_, _, _, rfl, rfl⟩

theorem upsertScope_fails (applicationId : String) (spec : ScopeSpec) :
    (directory.upsertScope applicationId spec).FailsWith (Stopped fun _ => True) := by
  apply late_stopped.check
  intro applicationId _
  apply FailsWith.bind_return
  apply late_stopped.check
  intro _ _
  apply late_stopped.bind (reads_fetch directory _ applicationId)
  intro fetched
  apply (upsertFetched_fails directory _ fetched spec).weaken
  intro sent failure stopped
  exact stopped.weaken fun _ _ => trivial

/-- An identifier URI has no gate that could be seen shut. -/
theorem IdentifierUri.isStranded_eq_false (uris : Collection IdentifierUri) (id : String) :
    (ItemState.of uris id).isStranded = false := by
  unfold ItemState.of
  split <;> rfl

theorem addIdentifierUri_fails (applicationId : String) (uri : Option String) :
    (directory.addIdentifierUri applicationId uri).FailsWhole := by
  have upsert_fails (fetched : Fetched IdentifierUri) (spec : UriSpec) :
      (directory.upsertFetched ItemSet.identifierUris fetched spec).FailsWhole := by
    apply (upsertFetched_fails directory _ fetched spec).weaken
    intro sent failure stopped
    apply stopped.weaken
    rintro _ ⟨detail, cause, itemId, rfl, state_eq⟩
    rw [OperationError.isPartial, state_eq]
    exact IdentifierUri.isStranded_eq_false fetched.collection itemId
  apply late_stopped.check
  intro applicationId _
  cases uri with
  | some uri =>
      apply late_stopped.check
      intro _ _
      apply late_stopped.bind (reads_fetch directory _ applicationId)
      intro fetched
      exact (upsert_fails fetched _).bind_return
  | none =>
      apply late_stopped.bind (reads_fetch directory _ applicationId)
      intro fetched
      apply late_stopped.check
      intro appId _
      exact (upsert_fails fetched _).bind_return

/-- The writes of the remaining steps of a removal fail as far as they got. -/
theorem writeSteps_ensures [Item Element] (below : itemSet.path ≠ []) (objectId : String)
    (plan : Removal Element) (index : Nat) (steps : List (StepPosition × Step Element)) :
    (directory.writeSteps itemSet objectId plan index steps).Ensures Replica.MayAnswer
      fun sent ending => ∃ written,
        Progress directory itemSet objectId plan index steps written sent ending := by
  induction steps generalizing index with
  | nil => exact ensures_done ⟨[], .finished index⟩
  | cons positioned rest ih =>
      rcases positioned with ⟨position, step⟩
      refine ensures_report (ensures_send fun answer mayAnswer => ?_)
      cases answer with
      | error cause => exact ensures_fail ⟨[], .stopped index position step rest cause⟩
      | ok document =>
          rcases mayAnswer document rfl with ⟨earlier, later, handles⟩
          rw [ItemSet.patchBody_eq below] at handles
          rcases Replica.of_handle_patch handles with ⟨rfl, -⟩
          refine (ih (index + 1)).weaken ?_
          rintro sent ending ⟨written, progress⟩
          exact ⟨step.collection :: written, .wrote progress⟩

/-- A removal from a collection fails before it writes, or at a step of the plan that was made from
the application it read. -/
inductive RemovalFailure [Item Element] (itemSet : ItemSet Element) (applicationId key : String) :
    List Exchange → OperationError → Prop where
  | early {sent : List Exchange} {failure : OperationError} (isEarly : EarlyFailure sent failure) :
      RemovalFailure itemSet applicationId key sent failure
  | writing {document : Json} {fetched : Fetched Element} {plan : Removal Element}
      {written : List (Collection Element)} {sent : List Exchange} {failure : OperationError}
      (planned : removalPlan? itemSet applicationId key document = .ok (fetched, plan))
      (progress : Progress directory itemSet fetched.objectId plan 0 plan.positioned written sent
        (.failed failure)) :
      RemovalFailure itemSet applicationId key
        (⟨directory.readRequest itemSet applicationId, .ok document⟩ :: sent) failure

theorem removeItem_fails [Item Element] (below : itemSet.path ≠ []) (applicationId key : String) :
    (directory.removeItem itemSet applicationId key).FailsWith
      (directory.RemovalFailure itemSet applicationId key) := by
  apply FailsWith.bind (fetch_ensures directory itemSet applicationId)
  · rintro sent failure (⟨_, ⟨⟩, isEarly⟩ | ⟨_, _, ⟨⟩, -⟩)
    exact .early isEarly
  · rintro sent fetched (⟨_, ⟨⟩, -⟩ | ⟨document, _, ⟨⟩, read, rfl⟩)
    cases planned : fetched.collection.removeByKey key itemSet.disableFirst with
    | error error =>
        apply failsWith_fail
        exact .early ⟨onlyReads_readRequest directory itemSet, by simp⟩
    | ok plan =>
        have plans : removalPlan? itemSet applicationId key document = .ok (fetched, plan) := by
          simp [removalPlan?, read, planned, Bind.bind, Except.bind, Except.mapError, pure,
            Except.pure]
        apply FailsWith.bind (writeSteps_ensures directory itemSet below fetched.objectId plan 0 _)
        · rintro sent failure ⟨written, progress⟩
          exact .writing plans progress
        · rintro sent _ _
          exact failsWith_return

end ItemSets

/-- A removal of a scope was planned from an application and its first write, with the scope
disabled, succeeded; its second write, without the scope, was refused. -/
def OmissionRefused (applicationId value objectId : String) (disabled : Collection Scope)
    (sent : List Exchange) : Prop :=
  ∃ document fetched plan omitted refusal,
    removalPlan? ItemSet.permissionScopes applicationId value document = .ok (fetched, plan) ∧
    fetched.objectId = objectId ∧
    plan.steps = [⟨.disable, disabled⟩, ⟨.leaveOut, omitted⟩] ∧
    sent =
      [⟨directory.readRequest ItemSet.permissionScopes applicationId, .ok document⟩,
        ⟨directory.writeRequest ItemSet.permissionScopes objectId disabled, .ok .null⟩,
        ⟨directory.writeRequest ItemSet.permissionScopes objectId omitted, .error refusal⟩]

/-- The removal of a scope fails before it writes, at its first step or at its second step. -/
inductive ScopeRemovalFailure (applicationId value : String) :
    List Exchange → OperationError → Prop where
  | early {sent : List Exchange} {failure : OperationError} (isEarly : EarlyFailure sent failure) :
      ScopeRemovalFailure applicationId value sent failure
  | atDisabling {document : Json} {fetched : Fetched Scope} {plan : Removal Scope}
      {disabled : Collection Scope} {detail : WriteFailure} {refusal : RemoteError}
      (planned : removalPlan? ItemSet.permissionScopes applicationId value document =
        .ok (fetched, plan))
      (position : detail.position = some ⟨1, 2, .disable⟩)
      (state_eq : detail.state = ItemState.of fetched.collection plan.targetId) :
      ScopeRemovalFailure applicationId value
        [⟨directory.readRequest ItemSet.permissionScopes applicationId, .ok document⟩,
          ⟨directory.writeRequest ItemSet.permissionScopes fetched.objectId disabled,
            .error refusal⟩]
        (.write detail refusal)
  | atOmission {sent : List Exchange} {objectId : String} {disabled : Collection Scope}
      {detail : WriteFailure} {refusal : RemoteError}
      (refused : directory.OmissionRefused applicationId value objectId disabled sent)
      (position : detail.position = some ⟨2, 2, .leaveOut⟩)
      (state_eq : detail.state = .present (some false)) :
      ScopeRemovalFailure applicationId value sent (.write detail refusal)

theorem ScopeRemovalFailure.of_removalFailure {applicationId value : String} {sent : List Exchange}
    {failure : OperationError}
    (fails : directory.RemovalFailure ItemSet.permissionScopes applicationId value sent failure) :
    directory.ScopeRemovalFailure applicationId value sent failure := by
  cases fails with
  | early isEarly => exact .early isEarly
  | writing planned progress =>
      rcases removalPlan?_cases planned with ⟨-, steps⟩
      rcases Collection.removeByKey_cases steps with
        ⟨_, _, before, target, after, items_eq, _, first, rfl⟩
      cases progress with
      | stopped =>
          exact .atDisabling planned rfl (Collection.itemState_of_first items_eq rfl first).symm
      | wrote onward =>
          cases onward with
          | wrote last => cases last
          | stopped =>
              refine .atOmission ⟨_, _, _, _, _, planned, rfl, rfl, rfl⟩ rfl ?_
              exact Collection.itemState_of_first rfl rfl first

theorem removeScope_fails (applicationId value : String) :
    (directory.removeScope applicationId value).FailsWith
      (directory.ScopeRemovalFailure (Text.trim applicationId) (Text.trim value)) := by
  have early (error : PlanError) : directory.ScopeRemovalFailure
      (Text.trim applicationId) (Text.trim value) [] (.plan error) :=
    .early ⟨by simp, by simp⟩
  apply failsWith_check early
  intro applicationId accepted
  rcases Argument.eq_trim_of_required accepted with ⟨rfl, -⟩
  apply failsWith_check early
  intro value accepted
  rcases Argument.eq_trim_of_required accepted with ⟨rfl, -⟩
  apply FailsWith.bind_return
  apply (removeItem_fails directory _ ItemSet.below_permissionScopes _ _).weaken
  intro sent failure fails
  exact .of_removalFailure directory fails

/-- The removal of an identifier URI takes a single step. -/
theorem removeIdentifierUri_fails (applicationId uri : String) :
    (directory.removeIdentifierUri applicationId uri).FailsWhole := by
  apply late_stopped.check
  intro applicationId _
  apply late_stopped.check
  intro uri _
  apply FailsWith.bind_return
  apply (removeItem_fails directory _ ItemSet.below_identifierUris applicationId uri).weaken
  intro sent failure failed
  cases failed with
  | early isEarly => exact .early isEarly
  | writing planned progress =>
      rcases removalPlan?_cases planned with ⟨-, steps⟩
      rcases Collection.removeByKey_cases steps with ⟨_, _, before, target, after, _, _, _, rfl⟩
      cases progress with
      | stopped =>
          exact .refused (onlyReads_readRequest directory ItemSet.identifierUris) rfl
      | wrote onward => cases onward

end Directory

namespace ResourceManager

variable (manager : ResourceManager)

theorem reads_listManagedIdentities : manager.listManagedIdentities.Reads :=
  reads_pages _ _ _ _

theorem reads_listRoleAssignments (storageAccount : String) (principalId : Option String) :
    (manager.listRoleAssignments storageAccount principalId).Reads := by
  apply reads_check
  intro storageAccount _
  apply (reads_pages _ _ _ _).bind
  intro assignments
  split <;> exact reads_return

/-- The document of a new managed identity is read again. -/
theorem exists_managedIdentity {url location : String} {document : Json}
    (answered : Replica.MayAnswer
      ⟨.put, url, some (Json.ofMembers [("location", .string location)])⟩ (.ok document)) :
    ∃ created : ManagedIdentity, decode? document = some created := by
  rcases answered document rfl with ⟨earlier, later, handles⟩
  rcases Replica.of_handle_put rfl rfl handles with
    ⟨created, rfl, ⟨id, idFound⟩, ⟨name, nameFound⟩, others⟩
  have locationFound : Members.find? "location" created = some (.string location) :=
    others "location" (by decide) (by decide)
  have noProperties : Members.find? "properties" created = none :=
    others "properties" (by decide) (by decide)
  simp [decode?, Json.fields?, Json.required, idFound, nameFound,
    Replica.withDefault_of_find? locationFound, Replica.withDefault_of_absent noProperties,
    Json.text?]

theorem createManagedIdentity_stops (name location : String) :
    (manager.createManagedIdentity name location).FailsWith (StoppedAt ReportedByVerb) := by
  apply late_stoppedAt.check
  intro name _
  apply late_stoppedAt.check
  intro location _
  apply FailsWith.after_progress
  apply stoppedAt_request
  · exact .stored rfl rfl
  · intro document answered
    rcases exists_managedIdentity answered with ⟨created, decoded⟩
    simp only [decoded]
    exact ⟨_, rfl⟩

theorem assignmentBody_members (principalId : String) (role : StorageRole) :
    ∃ document, manager.assignmentBody principalId role = .object [("properties", document)] ∧
      ∃ properties : RoleAssignmentProperties, decode? document = some properties := by
  refine ⟨_, rfl, ?_⟩
  simp [decode?, Json.ofMembers, Json.fields?, Json.required, Json.optional, Members.ofList,
    Members.find?_insert, Members.find?, Json.text?]

/-- The document of a new role assignment is read again. -/
theorem exists_roleAssignment {url principalId : String} {role : StorageRole} {document : Json}
    (answered : Replica.MayAnswer
      ⟨.put, url, some (manager.assignmentBody principalId role)⟩ (.ok document)) :
    ∃ created : RoleAssignment, decode? document = some created := by
  rcases assignmentBody_members manager principalId role with ⟨body, body_eq, properties, decoded⟩
  rw [body_eq] at answered
  rcases answered document rfl with ⟨earlier, later, handles⟩
  rcases Replica.of_handle_put rfl rfl handles with
    ⟨created, rfl, ⟨id, idFound⟩, ⟨name, nameFound⟩, others⟩
  have propertiesFound : Members.find? "properties" created = some body :=
    others "properties" (by decide) (by decide)
  refine ⟨⟨id, name, properties⟩, ?_⟩
  change (do
    let id ← Json.required Json.text? "id" created
    let name ← Json.withDefault Json.text? "" "name" created
    let properties ← Json.required decode? "properties" created
    return (⟨id, name, properties⟩ : RoleAssignment)) = _
  simp [Json.required, idFound, Replica.withDefault_of_find? nameFound, propertiesFound, decoded,
    Json.text?]

theorem assignRole_stops (storageAccount principalId : String) (role : StorageRole) :
    (manager.assignRole storageAccount principalId role).FailsWith (StoppedAt ReportedByVerb) := by
  apply late_stoppedAt.check
  intro storageAccount _
  apply late_stoppedAt.check
  intro principalId _
  apply late_stoppedAt.bind (reads_listRoleAssignments manager storageAccount (some principalId))
  intro existing
  split
  · exact failsWith_return.after_progress
  · apply FailsWith.after_fresh
    intro name
    apply FailsWith.after_progress
    apply stoppedAt_request
    · exact .stored rfl rfl
    · intro document answered
      rcases exists_roleAssignment manager answered with ⟨created, decoded⟩
      simp only [decoded]
      exact ⟨_, rfl⟩

theorem deleteRoleAssignment_fails (assignmentId : String) :
    (manager.deleteRoleAssignment assignmentId).FailsWhole := by
  apply late_stopped.check
  intro assignmentId _
  split
  · exact Deleted.announced_fails
  · exact failsWith_fail (.early ⟨by simp, by simp⟩)

end ResourceManager

/-- The operation of a command, sent to the server that it is meant for. -/
def Command.program (directory : Directory) (manager : ResourceManager) :
    Command → Program CommandError Report
  | .directory command => command.run directory
  | .resources command => command.run manager

/-- How the operation of a command fails. -/
def Command.FailsBy (directory : Directory) :
    Command → List Exchange → OperationError → Prop
  | .directory (.createBlueprint create _) => directory.BlueprintFailure (Text.trim create.name)
  | .directory (.removeScope application value) =>
    directory.ScopeRemovalFailure (Text.trim application) (Text.trim value)
  | .directory (.upsertScope _ _) => Stopped fun _ => True
  | _ => Stopped fun failure => failure.isPartial = false

section Commands

variable {left : List Exchange → OperationError → Prop} {context : Option String}

theorem Program.FailsWith.single {Outcome : Type} {toJson : Outcome → Json}
    {operation : Program OperationError Outcome} (fails : operation.FailsWith left) :
    ((Report.single toJson operation).within context).FailsWith
      fun sent error => left sent error.cause :=
  FailsWith.mapFailure fails.bind_return

theorem Program.Runs.of_single {Outcome State : Type} {toJson : Outcome → Json}
    {operation : Program OperationError Outcome} {client : Client State} {now later : Run State}
    {sent : List Exchange} {error : CommandError}
    (runs : ((Report.single toJson operation).within context).Runs client now sent (.failed error)
      later) : operation.Runs client now sent (.failed error.cause) later := by
  rcases runs.of_mapFailure with ⟨failure, rfl, reports⟩
  rw [Report.single] at reports
  exact reports.of_bind_return

theorem Program.Reads.listing {described : OperationError → Prop} {Element : Type}
    [Record Element] {name : String} {operation : Program OperationError (List Element)}
    (reads : operation.Reads) :
    ((Report.listing name operation).within context).FailsWith
      fun sent error => Stopped described sent error.cause := by
  apply FailsWith.mapFailure
  apply FailsWith.bind_return
  apply reads.failsWith.weaken
  intro sent failure isEarly
  exact .early isEarly

end Commands

theorem Command.fails (directory : Directory) (manager : ResourceManager) (command : Command) :
    (command.program directory manager).FailsWith
      fun sent error => command.FailsBy directory sent error.cause := by
  cases command with
  | directory command =>
      cases command <;> simp only [program, DirectoryCommand.run, FailsBy]
      case createBlueprint create owners =>
        exact (directory.createBlueprint_fails create.name create.sponsors owners
          create.onDuplicate).single
      case listBlueprints filter => exact (directory.reads_listBlueprints filter).listing
      case deleteBlueprint id | deleteIdentity id => exact Deleted.checked_fails.single
      case createIdentity blueprintAppId create =>
        exact (FailsWhole.of_stoppedAt (directory.createAgentIdentity_stops blueprintAppId
          create.name create.sponsors create.onDuplicate)).single
      case listIdentities blueprintAppId =>
        exact (directory.reads_listAgentIdentities blueprintAppId).listing
      case upsertScope application spec =>
        exact (directory.upsertScope_fails application spec).single
      case listScopes application => exact (directory.reads_listScopes application).listing
      case removeScope application value =>
        exact (directory.removeScope_fails application value).single
      case addUri application uri => exact (directory.addIdentifierUri_fails application uri).single
      case listUris application => exact (directory.reads_listIdentifierUris application).listing
      case removeUri application uri =>
        exact (directory.removeIdentifierUri_fails application uri).single
      case upsertCredential application spec =>
        exact (FailsWhole.of_stoppedAt (directory.upsertCredential_stops application spec)).single
      case listCredentials application subject =>
        exact (directory.reads_listCredentials application subject).listing
      case removeCredential application name =>
        exact (directory.removeCredential_fails application name).single
  | resources command =>
      cases command <;> simp only [program, ResourceCommand.run, FailsBy]
      case createIdentity name location =>
        exact (FailsWhole.of_stoppedAt (manager.createManagedIdentity_stops name location)).single
      case listIdentities => exact manager.reads_listManagedIdentities.listing
      case deleteIdentity name => exact Deleted.checked_fails.single
      case assignRole storageAccount principalId role =>
        exact (FailsWhole.of_stoppedAt
          (manager.assignRole_stops storageAccount principalId role)).single
      case listAssignments storageAccount principalId =>
        exact (manager.reads_listRoleAssignments storageAccount principalId).listing
      case deleteAssignment id => exact (manager.deleteRoleAssignment_fails id).single

end Provision
