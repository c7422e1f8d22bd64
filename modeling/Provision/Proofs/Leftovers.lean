import Provision.Proofs.Locations
import Provision.Proofs.OperationFailures
import Provision.Proofs.TwoPhaseRemoval

/-!
# What failed operations leave behind

An operation that fails leaves all documents as they were, with two exceptions.
A removal of a scope whose second write was refused leaves the scope disabled,
and the creation of a blueprint whose second write was refused leaves the
blueprint without a principal.  Both failures say so: the one by its place in
the plan, the other by the id of the blueprint.
-/

namespace Provision

namespace Replica

variable {path : String} {document : Json} {documents : Documents}

/-- Storing a document at a new path puts it behind all others. -/
theorem Documents.store_of_has_eq_false (absent : documents.has path = false) :
    documents.store path document = documents ++ [(path, document)] := by
  induction documents with
  | nil => rfl
  | cons stored rest ih =>
      rcases stored with ⟨first, kept⟩
      by_cases same : first = path
      · simp [has, find?, Members.find?, same] at absent
      · have absentBelow : Documents.has path rest = false := by
          simpa [has, find?, Members.find?, same] using absent
        simp [store, same, ih absentBelow]

/-- No document is stored under the next id. -/
def NextIdUnused (replica : Replica) : Prop :=
  ∀ path, replica.documents.has (path ++ "/" ++ replica.ids.current) = false

end Replica

/-- The removal of a scope stopped between its steps: the documents that are left are those that its
first write made of the earlier ones. -/
def Directory.LeavesDisabled (directory : Directory) (applicationId value : String)
    (sent : List Exchange) (earlier later : Replica.Documents) : Prop :=
  ∃ objectId disabled members,
    directory.OmissionRefused applicationId value objectId disabled sent ∧
    earlier.find? (Replica.Location.ofUrl (directory.applicationUrl objectId)).path =
      some (.object members) ∧
    later = earlier.store (Replica.Location.ofUrl (directory.applicationUrl objectId)).path
      (.object (ItemSet.permissionScopes.put disabled members))

/-- What a failed operation leaves of the documents. -/
structure Leftovers (directory : Directory) (command : Command) (sent : List Exchange)
    (failure : OperationError) (earlier later : Replica.Documents) : Prop where
  /-- A failure that is not one of a write changes nothing. -/
  notWriting : (∀ detail cause, failure ≠ .write detail cause) → later = earlier
  /-- Nothing is changed apart from the two exceptions. -/
  unchanged :
    (∀ application value detail cause kind, command = .directory (.removeScope application value) →
      failure = .write detail cause → detail.position ≠ some ⟨2, 2, kind⟩) →
    (∀ create owners detail cause id, command = .directory (.createBlueprint create owners) →
      failure = .write detail cause → detail.itemId ≠ some id) → later = earlier
  /-- A removal of a scope that fails at the second of two steps has disabled the scope. -/
  disabled : ∀ application value detail cause kind,
    command = .directory (.removeScope application value) → failure = .write detail cause →
    detail.position = some ⟨2, 2, kind⟩ →
    directory.LeavesDisabled (Text.trim application) (Text.trim value) sent earlier later
  /-- A creation of a blueprint whose failure has an id has added the blueprint of that id. -/
  added : ∀ create owners detail cause id,
    command = .directory (.createBlueprint create owners) → failure = .write detail cause →
    detail.itemId = some id →
    ∃ (document : Json) (blueprint : Blueprint), decode? document = some blueprint ∧
      blueprint.id = id ∧ blueprint.displayName = Text.trim create.name ∧
      later = earlier ++
        [((Replica.Location.ofUrl (directory.url "applications")).path ++ "/" ++ id, document)]

namespace Directory

variable {directory : Directory} {schedule : Nat → Option RemoteError} {sent : List Exchange}
  {earlier later : Replica} {failure : OperationError}

/-- A removal of a scope that was refused at its second write leaves what its first one made of the
documents. -/
theorem leavesDisabled_of_omissionRefused {applicationId value objectId : String}
    {disabled : Collection Scope}
    (refused : directory.OmissionRefused applicationId value objectId disabled sent)
    (leads : Replica.Leads sent earlier later) :
    directory.LeavesDisabled applicationId value sent earlier.documents later.documents := by
  have omission := refused
  rcases refused with ⟨document, fetched, plan, omitted, refusal, -, rfl, -, rfl⟩
  let read : Exchange :=
    ⟨directory.readRequest ItemSet.permissionScopes applicationId, .ok document⟩
  have onlyReads : ∀ exchange ∈ [read], exchange.isWrite = false :=
    onlyReads_readRequest directory ItemSet.permissionScopes
  obtain ⟨start, finish, documents, -, handles, finished⟩ :=
    Replica.Leads.single_write leads onlyReads (by simp)
  simp only [writeRequest, ItemSet.patchBody_eq ItemSet.below_permissionScopes] at handles
  rcases Replica.of_handle_patch handles with ⟨-, members, held, stored⟩
  rw [Replica.document?, documents] at held
  rw [documents] at stored
  exact ⟨fetched.objectId, disabled, members, omission, held, finished.trans stored⟩

/-- A removal of a scope changes nothing when it was refused at its first write, or before it. -/
theorem removal_leaves {applicationId value : String}
    (fails : directory.ScopeRemovalFailure applicationId value sent failure)
    (leads : Replica.Leads sent earlier later) :
    ((∀ detail cause, failure = .write detail cause → detail.position = some ⟨1, 2, .disable⟩) ∧
        later.documents = earlier.documents) ∨
      (∃ detail cause, failure = .write detail cause ∧
        detail.position = some ⟨2, 2, .leaveOut⟩) ∧
        directory.LeavesDisabled applicationId value sent earlier.documents later.documents := by
  cases fails with
  | early isEarly =>
      left
      refine ⟨fun detail cause failed => absurd failed (isEarly.notWriting detail cause), ?_⟩
      exact (leads.unchanged (none_written_of_onlyReads isEarly.onlyReads)).1
  | atDisabling _ position _ =>
      left
      refine ⟨?_, (leads.unchanged ?_).1⟩
      · rintro _ _ ⟨⟩
        exact position
      · simp [Exchange.isWrite, Request.isWrite, readRequest]
  | atOmission refused position _ =>
      right
      exact ⟨⟨_, _, rfl, position⟩, leavesDisabled_of_omissionRefused refused leads⟩

/-- A creation of a blueprint that fails without an id changes nothing; one that fails with an id
has added the blueprint of that id. -/
theorem creation_leaves {displayName : String} (unused : earlier.NextIdUnused)
    (fails : directory.BlueprintFailure displayName sent failure)
    (leads : Replica.Leads sent earlier later) :
    ((∀ detail cause, failure = .write detail cause → detail.itemId = none) ∧
        later.documents = earlier.documents) ∨
      ∃ (detail : WriteFailure) (cause : RemoteError) (document : Json) (blueprint : Blueprint),
        failure = .write detail cause ∧ detail.itemId = some blueprint.id ∧
        decode? document = some blueprint ∧ blueprint.displayName = displayName ∧
        later.documents = earlier.documents ++
          [((Replica.Location.ofUrl (directory.url "applications")).path ++ "/" ++ blueprint.id,
            document)] := by
  cases fails with
  | stopped stops =>
      left
      refine ⟨?_, (leads.unchanged stops.none_written).1⟩
      intro detail cause failed
      cases stops with
      | early isEarly => exact absurd failed (isEarly.notWriting detail cause)
      | refused _ holds => exact holds.2 detail cause failed
  | @halfway reads sponsors owners document blueprint request cause onlyReads decoded =>
      right
      obtain ⟨start, finish, documents, ids, handles, finished⟩ :=
        leads.single_write onlyReads (by simp)
      rcases exists_blueprint directory handles with
        ⟨created, decodedAgain, sameId, sameName, stored⟩
      obtain rfl : created = blueprint := by simpa [decoded] using decodedAgain.symm
      refine ⟨_, _, document, created, rfl, rfl, decoded, sameName, ?_⟩
      have absent := unused (Replica.Location.ofUrl (directory.url blueprintsPath)).path
      rw [← ids, ← sameId, ← documents] at absent
      rw [finished, stored, Replica.Documents.store_of_has_eq_false absent, documents,
        path_ofUrl_blueprints]

end Directory

section Leftovers

variable {directory : Directory} {command : Command} {sent : List Exchange}
  {failure : OperationError} {documents : Replica.Documents}

/-- A failure that is neither exception has to leave all documents as they were. -/
theorem leftovers_of_unchanged
    (notOmitting : ∀ application value detail cause kind,
      command = .directory (.removeScope application value) → failure = .write detail cause →
      detail.position ≠ some ⟨2, 2, kind⟩)
    (notAdding : ∀ create owners detail cause id,
      command = .directory (.createBlueprint create owners) → failure = .write detail cause →
      detail.itemId ≠ some id) :
    Leftovers directory command sent failure documents documents where
  notWriting _ := rfl
  unchanged _ _ := rfl
  disabled application value detail cause kind isRemoval failed omitting :=
    absurd omitting (notOmitting application value detail cause kind isRemoval failed)
  added create owners detail cause id isCreation failed hasId :=
    absurd hasId (notAdding create owners detail cause id isCreation failed)

end Leftovers

/-- An operation that fails leaves the documents as they were, whatever they are and whichever of
its requests fail, unless it fails at the second of two writes, and then it leaves what the first
write made of them. -/
theorem Command.failed_run_leaves (directory : Directory) (manager : ResourceManager)
    (command : Command) (schedule : Nat → Option RemoteError) (now later : Run Replica)
    (sent : List Exchange) (error : CommandError) (unused : now.state.NextIdUnused)
    (runs : (command.program directory manager).Runs (Client.interrupted schedule) now sent
      (.failed error) later) :
    Leftovers directory command sent error.cause now.state.documents later.state.documents := by
  have fails : command.FailsBy directory sent error.cause :=
    (command.fails directory manager).of_runs runs
  have leads := Replica.leads_of_runs runs
  have unchanged {described : OperationError → Prop} (stops : Stopped described sent error.cause) :
      later.state.documents = now.state.documents := (leads.unchanged stops.none_written).1
  unfold FailsBy at fails
  split at fails
  next create owners =>
    rcases Directory.creation_leaves unused fails leads with
      ⟨noId, same⟩ | ⟨detail, cause, document, blueprint, failed, hasId, decoded, sameName, added⟩
    · rw [same]
      apply leftovers_of_unchanged
      · simp
      · intro _ _ detail cause id _ failed
        simp [noId detail cause failed]
    · constructor
      · intro notWriting
        exact absurd failed (notWriting detail cause)
      · intro _ notAdding
        exact absurd hasId (notAdding create owners detail cause blueprint.id rfl failed)
      · simp
      · intro otherCreate otherOwners otherDetail otherCause id isCreation otherFailed otherId
        obtain ⟨rfl, rfl⟩ : create = otherCreate ∧ owners = otherOwners := by
          simpa using isCreation
        obtain ⟨rfl, rfl⟩ : detail = otherDetail ∧ cause = otherCause := by
          simpa [failed] using otherFailed
        obtain rfl : blueprint.id = id := by simpa [hasId] using otherId
        exact ⟨document, blueprint, decoded, rfl, sameName, added⟩
  next application value =>
    rcases Directory.removal_leaves fails leads with
      ⟨atFirst, same⟩ | ⟨⟨detail, cause, failed, omitting⟩, disabled⟩
    · rw [same]
      apply leftovers_of_unchanged
      · intro _ _ detail cause kind _ failed
        simp [atFirst detail cause failed]
      · simp
    · constructor
      · intro notWriting
        exact absurd failed (notWriting detail cause)
      · intro notOmitting _
        exact absurd omitting (notOmitting application value detail cause _ rfl failed)
      · intro otherApplication otherValue _ _ _ isRemoval _ _
        obtain ⟨rfl, rfl⟩ : application = otherApplication ∧ value = otherValue := by
          simpa using isRemoval
        exact disabled
      · simp
  next =>
    rw [unchanged fails]
    apply leftovers_of_unchanged <;> simp
  next notCreation notRemoval _ =>
    rw [unchanged fails]
    apply leftovers_of_unchanged
    · intro application value _ _ _ isRemoval
      exact absurd isRemoval (notRemoval application value)
    · intro create owners _ _ _ isCreation
      exact absurd isCreation (notCreation create owners)

theorem nextIdUnused_sampleReplica : Directory.sampleReplica.NextIdUnused := by
  intro path
  have apart : "https://directory/applications/a1" ≠ path ++ "/new" := by
    intro same
    have lastOfNew : (path ++ "/new").toList.getLast? = some 'w' := by simp
    rw [← same] at lastOfNew
    exact absurd lastOfNew (by decide)
  have spelled : path ++ "/" ++ "new" = path ++ "/new" := by simp [← String.toList_inj]
  change Replica.Documents.has (path ++ "/" ++ "new")
    [("https://directory/applications/a1", Directory.sampleApplication)] = false
  simp [spelled, Replica.Documents.has, Replica.Documents.find?, Members.find?, apart]

/-- The removal of a scope whose second write is refused leaves the scope disabled. -/
theorem Command.failed_run_leaves_sample :
    Directory.sampleReplica.NextIdUnused ∧ ∃ sent error later,
      (Command.program ⟨"https://directory", 1⟩ ⟨"https://manager", "s", "g", 1⟩
        (.directory (.removeScope "a1" "read"))).Runs (Client.interrupted fun _ => none)
          ⟨Directory.sampleReplica, ⟨fun _ => "new", 0⟩, []⟩ sent (.failed error) later ∧
      error.cause = .write ⟨"read", some "s1", some ⟨2, 2, .leaveOut⟩, .present (some false)⟩
        (.refused .patch "https://directory/applications/a1" 503 "busy") ∧
      Leftovers ⟨"https://directory", 1⟩ (.directory (.removeScope "a1" "read")) sent error.cause
        Directory.sampleReplica.documents later.state.documents := by
  refine ⟨nextIdUnused_sampleReplica, _, ⟨none, .write ⟨"read", some "s1",
    some ⟨2, 2, .leaveOut⟩, .present (some false)⟩
      (.refused .patch "https://directory/applications/a1" 503 "busy")⟩, _, ⟨rfl, rfl⟩, rfl, ?_⟩
  exact Command.failed_run_leaves ⟨"https://directory", 1⟩ ⟨"https://manager", "s", "g", 1⟩ _
    (fun _ => none) ⟨Directory.sampleReplica, ⟨fun _ => "new", 0⟩, []⟩ _ _ _
    nextIdUnused_sampleReplica ⟨rfl, rfl⟩

end Provision
