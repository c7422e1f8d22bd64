import Mathlib.Logic.Relation
import Provision.Proofs.TwoPhaseRemoval

/-!
# Running an interrupted removal again

The removal of a scope can be interrupted at each of its requests.  It leaves one
of two snapshots of the application: the one it found, or that with the scope
disabled.  Planned from either of them, the removal ends with the same list, so
however often it was interrupted, the first run that is not interrupted finishes
the job.  A run after that finds nothing to remove.
-/

namespace Provision

open Record (Lossless)

/-- How far the steps of the removal of a scope that is disabled first can get. -/
theorem Directory.Progress.of_ofSplit {Element : Type} [Record Element] [Item Element]
    {directory : Directory} {itemSet : ItemSet Element} {objectId : String}
    {before after : List Element} {target : Element} {written : List (Collection Element)}
    {sent : List Exchange} {ending : Ending OperationError Unit}
    (progress : Progress directory itemSet objectId (Removal.ofSplit before target after true) 0
      (Removal.ofSplit before target after true).positioned written sent ending) :
    (∃ error, ending = .failed error ∧
      (written = [] ∨ written = [⟨before ++ Item.setEnabled false target :: after⟩])) ∨
    (ending = .returned () ∧
      written = [⟨before ++ Item.setEnabled false target :: after⟩, ⟨before ++ after⟩]) := by
  have positioned : (Removal.ofSplit before target after true).positioned =
      [(⟨1, 2, .disable⟩, ⟨.disable, ⟨before ++ Item.setEnabled false target :: after⟩⟩),
        (⟨2, 2, .leaveOut⟩, ⟨.leaveOut, ⟨before ++ after⟩⟩)] := rfl
  rw [positioned] at progress
  cases progress with
  | stopped => exact Or.inl ⟨_, rfl, Or.inl rfl⟩
  | wrote onward =>
      cases onward with
      | stopped => exact Or.inl ⟨_, rfl, Or.inr rfl⟩
      | wrote last =>
          cases last
          exact Or.inr ⟨rfl, rfl⟩

namespace Directory

/-- The client id of an application is missing or a text. -/
def ReadableClientId (members : List (String × Json)) : Prop :=
  ∀ found, Members.find? "appId" members = some found → ∃ text, found = .string text

/-- An application from which a scope can be removed: it has its own id and a client id that can be
read, and the keys and ids of its scopes tell them apart. -/
structure Removable (objectId : String) (members : List (String × Json)) (before : List Scope)
    (target : Scope) (after : List Scope) : Prop where
  ownId : Members.find? "id" members = some (.string objectId)
  clientId : ReadableClientId members
  decoded : ItemSet.permissionScopes.extract? (.object members) =
    some ⟨before ++ target :: after⟩
  distinctKeys : (⟨before ++ target :: after⟩ : Collection Scope).Distinct
  distinctIds : ((before ++ target :: after).map Scope.id).Nodup
  unpadded : ∀ scope ∈ before ++ target :: after, Text.trim scope.id = scope.id
  notBlank : ∀ scope ∈ before ++ target :: after, scope.id ≠ ""

/-- The arguments of a removal name an application and a scope. -/
structure Names (applicationId value objectId : String) (target : Scope) : Prop where
  application : Text.trim applicationId = objectId
  applicationGiven : objectId ≠ ""
  value : Text.trim value = target.value
  valueGiven : target.value ≠ ""

/-- An attempt at the removal of a scope, with any failures that are due and any requests lost. -/
def Attempt (directory : Directory) (applicationId value : String) (earlier : Replica)
    (sent : List Exchange) (ending : Ending OperationError ScopeRemoved) (later : Replica) : Prop :=
  ∃ schedule failures ids messages last,
    (directory.removeScope applicationId value).Runs (Client.interrupted schedule)
      ⟨{ earlier with failures }, ids, messages⟩ sent ending last ∧ last.state = later

/-- An attempt that fails leads from one state to another. -/
def Interruption (directory : Directory) (applicationId value : String)
    (earlier later : Replica) : Prop :=
  ∃ sent error, directory.Attempt applicationId value earlier sent (.failed error) later

/-- An attempt leads from one state to another. -/
def Repetition (directory : Directory) (applicationId value : String)
    (earlier later : Replica) : Prop :=
  ∃ sent ending, directory.Attempt applicationId value earlier sent ending later

/-- There is nothing left to remove: after any further attempts, one that reads the application
fails for want of the scope and writes nothing. -/
def NothingLeft (directory : Directory) (applicationId value : String) (state : Replica) : Prop :=
  ∀ repeated sent ending later application,
    Relation.ReflTransGen (directory.Repetition applicationId value) state repeated →
    directory.Attempt applicationId value repeated sent ending later →
    ⟨directory.readRequest ItemSet.permissionScopes (Text.trim applicationId), .ok application⟩ ∈
      sent →
    (∃ what, ending = .failed (.plan (.notFound what))) ∧
      ∀ exchange ∈ sent, exchange.isWrite = false

/-- An attempt without failures removes the scope in two steps.  Of what was there at the start it
changes the application alone, and it leaves nothing to remove. -/
def Finishes (directory : Directory) (applicationId value scopeId : String) (final : Json)
    (start state : Replica) : Prop :=
  ∀ ids messages, ∃ sent last,
    (directory.removeScope applicationId value).Runs Client.replica
      ⟨{ state with failures := [] }, ids, messages⟩ sent
      (.returned ⟨Text.trim applicationId, Text.trim value, scopeId, [.disable, .leaveOut]⟩) last ∧
    Replica.DiffersAt (directory.applicationUrl (Text.trim applicationId)) final start last.state ∧
    directory.NothingLeft applicationId value last.state

variable {directory : Directory} {applicationId value objectId : String}
  {members current : List (String × Json)} {before after : List Scope} {target shown : Scope}
  {schedule : Nat → Option RemoteError} {now : Run Replica}

theorem ReadableClientId.exists_read (clientId : ReadableClientId members) :
    ∃ appId, Json.withDefault Json.text? "" "appId" members = some appId := by
  cases found : Members.find? "appId" members with
  | none => exact ⟨"", by simp [Json.withDefault, found]⟩
  | some document =>
      rcases clientId document found with ⟨text, rfl⟩
      exact ⟨text, by simp [Json.withDefault, found, Json.text?]⟩

theorem ReadableClientId.put {scopes : Collection Scope} (clientId : ReadableClientId members) :
    ReadableClientId (ItemSet.permissionScopes.put scopes members) := by
  unfold ReadableClientId
  rw [ItemSet.find?_put_of_ne (by decide)]
  exact clientId

namespace Removable

/-- The removal is planned around the scope that is named. -/
theorem exists_plan (removable : Removable objectId members before target after)
    (names : Names applicationId value objectId target) :
    ∃ fetched, removalPlan? ItemSet.permissionScopes objectId (Text.trim value) (.object members) =
      .ok (fetched, Removal.ofSplit before target after true) := by
  have planned : (⟨before ++ target :: after⟩ : Collection Scope).removeByKey (Text.trim value)
      true = .ok (Removal.ofSplit before target after true) := by
    apply Collection.removeByKey_of_holdsOnly removable.distinctIds removable.unpadded
    · rw [Text.trim_trim, names.value]
      exact .of_distinct removable.distinctKeys
    · rw [Text.trim_trim, names.value]
      exact names.valueGiven
    · exact removable.notBlank target (by simp)
  rcases removable.clientId.exists_read with ⟨appId, appIdFound⟩
  have identified : applicationIds? (.object members) = some (objectId, appId) := by
    simp [applicationIds?, Json.fields?, Json.required, removable.ownId, Json.text?, appIdFound]
  exact exists_removalPlan identified removable.decoded planned

/-- An attempt is refused at its first request, or it goes through the steps around the scope. -/
theorem attempt_runs (removable : Removable objectId members before target after)
    (names : Names applicationId value objectId target)
    (stored : now.state.document? (directory.applicationUrl objectId) =
      some (.object members)) :
    (∃ sent error later,
      (directory.removeScope applicationId value).Runs (Client.interrupted schedule) now sent
        (.failed error) later ∧
      later.state.documents = now.state.documents ∧ ¬now.state.Calm schedule) ∨
    ∃ written steps sent ending later,
      Progress directory ItemSet.permissionScopes objectId
        (Removal.ofSplit before target after true) 0
        (Removal.ofSplit before target after true).positioned written steps ending ∧
      (directory.removeScope applicationId value).Runs (Client.interrupted schedule) now sent
        (ending.map fun _ => ⟨objectId, Text.trim value, target.id, [.disable, .leaveOut]⟩) later ∧
      Replica.DiffersAt (directory.applicationUrl objectId)
        (.object (ItemSet.permissionScopes.putAll written members)) now.state later.state ∧
      (now.state.Calm schedule → ending = .returned ()) := by
  rcases removable.exists_plan names with ⟨fetched, planned⟩
  have valueGiven : Text.trim value ≠ "" := names.value.trans_ne names.valueGiven
  obtain rfl : Text.trim applicationId = objectId := names.application
  rcases removeItem_runs ItemSet.below_permissionScopes (Text.trim value) stored removable.ownId
    with ⟨error, later, runs, unchanged, disturbed⟩ | ⟨error, later, refused, -⟩ |
      ⟨_, plan, written, sent, ending, later, otherPlanned, progress, runs, changed, calm⟩
  · left
    exact ⟨_, _, later, removeScope_runs names.applicationGiven valueGiven runs, unchanged,
      disturbed⟩
  · simp [planned] at refused
  · right
    obtain ⟨-, rfl⟩ : fetched = _ ∧ Removal.ofSplit before target after true = plan := by
      simpa [planned] using otherPlanned
    have attempt := removeScope_runs names.applicationGiven valueGiven runs
    rw [Ending.map_map] at attempt
    exact ⟨written, _, _, ending, later, progress, attempt, changed,
      fun calmNow => (calm calmNow).2⟩

end Removable

section Unplanned

variable {state repeated later : Replica} {sent : List Exchange} {error : OperationError}
  {ending : Ending OperationError ScopeRemoved}
  (idGiven : Text.trim applicationId ≠ "") (valueGiven : Text.trim value ≠ "")
  (stored : state.document? (directory.applicationUrl (Text.trim applicationId)) =
    some (.object members))
  (ownId : Members.find? "id" members = some (.string (Text.trim applicationId)))
include idGiven valueGiven stored ownId

/-- An attempt that is not planned reads the application, or is refused that, and changes
nothing. -/
theorem attempt_of_unplanned
    (unplanned : removalPlan? ItemSet.permissionScopes (Text.trim applicationId) (Text.trim value)
      (.object members) = .error error)
    (attempt : directory.Attempt applicationId value state sent ending later) :
    later.documents = state.documents ∧ ∃ answer,
      sent = [⟨directory.readRequest ItemSet.permissionScopes (Text.trim applicationId), answer⟩] ∧
      (answer.isOk = true → ending = .failed error) := by
  rcases attempt with ⟨schedule, failures, ids, messages, last, runs, rfl⟩
  let now : Run Replica := ⟨{ state with failures }, ids, messages⟩
  have storedNow : now.state.document? (directory.applicationUrl (Text.trim applicationId)) =
      some (.object members) := stored
  rcases removeItem_runs ItemSet.below_permissionScopes (Text.trim value) storedNow ownId with
    ⟨_, _, others, unchanged, -⟩ | ⟨_, _, sameError, others, unchanged, -⟩ |
      ⟨_, _, _, _, _, _, planned, -⟩
  · rcases runs.unique (removeScope_runs idGiven valueGiven others) with ⟨rfl, -, rfl⟩
    exact ⟨unchanged, _, rfl, by simp [Except.isOk, Except.toBool]⟩
  · obtain rfl : error = _ := by simpa [unplanned] using sameError
    rcases runs.unique (removeScope_runs idGiven valueGiven others) with ⟨rfl, rfl, rfl⟩
    exact ⟨unchanged, _, rfl, fun _ => rfl⟩
  · simp [unplanned] at planned

/-- However often an attempt that is not planned is made, the application stays. -/
theorem stored_of_unplanned
    (unplanned : removalPlan? ItemSet.permissionScopes (Text.trim applicationId) (Text.trim value)
      (.object members) = .error error)
    (repetitions : Relation.ReflTransGen (directory.Repetition applicationId value) state
      repeated) :
    repeated.document? (directory.applicationUrl (Text.trim applicationId)) =
      some (.object members) := by
  induction repetitions with
  | refl => exact stored
  | tail _ repetition ih =>
      rcases repetition with ⟨_, _, attempt⟩
      have unchanged := (attempt_of_unplanned idGiven valueGiven ih ownId unplanned attempt).1
      rw [Replica.document?, unchanged]
      exact ih

/-- An application without a scope of the value leaves nothing to remove. -/
theorem nothingLeft_of_absent {scopes : Collection Scope} (clientId : ReadableClientId members)
    (decoded : ItemSet.permissionScopes.extract? (.object members) = some scopes)
    (absent : ∀ scope ∈ scopes.items, scope.value ≠ Text.trim value) :
    directory.NothingLeft applicationId value state := by
  rcases clientId.exists_read with ⟨appId, appIdFound⟩
  have refused : scopes.removeByKey (Text.trim value) ItemSet.permissionScopes.disableFirst =
      .error (.notFound ("item '" ++ Text.trim value ++ "'")) := by
    rw [← Text.trim_trim value] at absent valueGiven
    rw [Collection.removeByKey_of_absent absent valueGiven, Text.trim_trim]
  have unplanned : removalPlan? ItemSet.permissionScopes (Text.trim applicationId)
      (Text.trim value) (.object members) =
        .error (.plan (.notFound ("item '" ++ Text.trim value ++ "'"))) := by
    simp [removalPlan?, ItemSet.fetched?_of_extract? ownId appIdFound decoded, refused, bind,
      Except.bind, Except.mapError]
  intro repeated sent ending later application repetitions attempt read_mem
  have storedThen := stored_of_unplanned idGiven valueGiven stored ownId unplanned repetitions
  rcases attempt_of_unplanned idGiven valueGiven storedThen ownId unplanned attempt with
    ⟨-, answer, rfl, notFound⟩
  obtain rfl : .ok application = answer := by simpa using read_mem
  exact ⟨⟨_, notFound rfl⟩, by simp [Exchange.isWrite, Request.isWrite, readRequest]⟩

end Unplanned

/-- What interrupted attempts make of an application and of the scope: nothing, or the scope is
disabled. -/
inductive Snapshot (members : List (String × Json)) (before : List Scope) (target : Scope)
    (after : List Scope) : List (String × Json) → Scope → Prop where
  | whole : Snapshot members before target after members target
  | disabled : Snapshot members before target after
      (ItemSet.permissionScopes.put ⟨before ++ Item.setEnabled false target :: after⟩ members)
      (Item.setEnabled false target)

/-- A state has an application in one of the snapshots, and all else as it was at the start. -/
def Underway (directory : Directory) (objectId : String) (members : List (String × Json))
    (before : List Scope) (target : Scope) (after : List Scope) (start state : Replica) : Prop :=
  ∃ current shown, Snapshot members before target after current shown ∧
    Replica.DiffersAt (directory.applicationUrl objectId) (.object current) start state

namespace Snapshot

variable (snapshot : Snapshot members before target after current shown)
include snapshot

theorem id_eq : shown.id = target.id := by
  cases snapshot <;> rfl

theorem names (named : Names applicationId value objectId target) :
    Names applicationId value objectId shown := by
  cases snapshot <;> exact ⟨named.1, named.2, named.3, named.4⟩

/-- Disabling the scope leads from each of the snapshots to the second one. -/
theorem disable : Snapshot members before target after
    (ItemSet.permissionScopes.put ⟨before ++ Item.setEnabled false shown :: after⟩ current)
    (Item.setEnabled false shown) := by
  cases snapshot with
  | whole => exact disabled
  | disabled =>
      rw [ItemSet.put_put]
      exact disabled

/-- The list without the scope makes the same application of each of the snapshots. -/
theorem put_eq {collection : Collection Scope} :
    ItemSet.permissionScopes.put collection current =
      ItemSet.permissionScopes.put collection members := by
  cases snapshot with
  | whole => rfl
  | disabled => exact ItemSet.put_put

/-- The scope can be removed from each of the snapshots. -/
theorem removable (original : Removable objectId members before target after)
    (lossless : ∀ scope ∈ before ++ target :: after, Lossless scope) :
    Removable objectId current before shown after := by
  cases snapshot with
  | whole => exact original
  | disabled =>
      have target_mem : target ∈ before ++ target :: after := by simp
      constructor
      · rw [ItemSet.find?_put_of_ne (by decide)]
        exact original.ownId
      · exact original.clientId.put
      · exact ItemSet.extract?_put ItemSet.below_permissionScopes
          (forall_mem_replaced lossless
            (Item.Durable.lossless_setEnabled false (lossless target target_mem)))
      · simpa [Collection.Distinct, Item.Steady.key_setEnabled] using original.distinctKeys
      · simpa [Item.setEnabled] using original.distinctIds
      · exact forall_mem_replaced original.unpadded (original.unpadded target target_mem)
      · exact forall_mem_replaced original.notBlank (original.notBlank target target_mem)

end Snapshot

/-- The list without the scope is read as it was written. -/
theorem extract?_put_leftOut (lossless : ∀ scope ∈ before ++ target :: after, Lossless scope) :
    ItemSet.permissionScopes.extract?
      (.object (ItemSet.permissionScopes.put ⟨before ++ after⟩ members)) =
        some ⟨before ++ after⟩ := by
  apply ItemSet.extract?_put ItemSet.below_permissionScopes
  intro scope others_mem
  exact lossless scope ((sublist_others before target after).subset others_mem)

section Attempts

variable {start state later : Replica}
  (names : Names applicationId value objectId target)
  (original : Removable objectId members before target after)
  (lossless : ∀ scope ∈ before ++ target :: after, Lossless scope)
include names original lossless

/-- An attempt that is interrupted leaves one of the snapshots. -/
theorem Underway.step
    (underway : directory.Underway objectId members before target after start state)
    (interruption : directory.Interruption applicationId value state later) :
    directory.Underway objectId members before target after start later := by
  rcases underway with ⟨current, shown, snapshot, differs⟩
  rcases interruption with ⟨_, error, schedule, failures, ids, messages, last, runs, rfl⟩
  let now : Run Replica := ⟨{ state with failures }, ids, messages⟩
  have stored : now.state.document? (directory.applicationUrl objectId) =
      some (.object current) := differs.here
  rcases (snapshot.removable original lossless).attempt_runs (snapshot.names names) stored with
    ⟨_, _, _, others, unchanged, -⟩ | ⟨written, _, _, ending, _, progress, others, changed, -⟩
  · rcases runs.unique others with ⟨-, -, rfl⟩
    exact ⟨current, shown, snapshot, differs.trans (.of_unchanged unchanged stored)⟩
  · rcases runs.unique others with ⟨-, failed, rfl⟩
    -- the failures that are due are no documents
    have changedFrom : Replica.DiffersAt (directory.applicationUrl objectId)
        (.object (ItemSet.permissionScopes.putAll written current)) state last.state :=
      ⟨changed.here, changed.elsewhere⟩
    rcases progress.of_ofSplit with ⟨_, rfl, rfl | rfl⟩ | ⟨rfl, -⟩
    · exact ⟨current, shown, snapshot, differs.trans changedFrom⟩
    · exact ⟨_, _, snapshot.disable, differs.trans changedFrom⟩
    · simp [Ending.map] at failed

/-- However often the removal is interrupted, it leaves one of the snapshots. -/
theorem Underway.run
    (underway : directory.Underway objectId members before target after start state)
    (interruptions : Relation.ReflTransGen (directory.Interruption applicationId value) state
      later) : directory.Underway objectId members before target after start later := by
  induction interruptions with
  | refl => exact underway
  | tail _ interruption ih => exact ih.step names original lossless interruption

/-- The list without the scope leaves nothing to remove. -/
theorem nothingLeft_of_put
    (stored : state.document? (directory.applicationUrl objectId) =
      some (.object (ItemSet.permissionScopes.put ⟨before ++ after⟩ members))) :
    directory.NothingLeft applicationId value state := by
  have valueGiven : Text.trim value ≠ "" := names.value.trans_ne names.valueGiven
  have ownId : Members.find? "id" (ItemSet.permissionScopes.put ⟨before ++ after⟩ members) =
      some (.string objectId) := (ItemSet.find?_put_of_ne (by decide)).trans original.ownId
  have clientId : ReadableClientId (ItemSet.permissionScopes.put ⟨before ++ after⟩ members) :=
    original.clientId.put
  obtain rfl : Text.trim applicationId = objectId := names.application
  apply nothingLeft_of_absent names.applicationGiven valueGiven stored ownId clientId
  · exact extract?_put_leftOut lossless
  · intro scope others_mem
    rw [names.value]
    exact ne_of_mem_others original.distinctKeys others_mem

/-- From each of the snapshots an attempt without failures stores the list without the scope. -/
theorem Underway.finishes
    (underway : directory.Underway objectId members before target after start state) :
    directory.Finishes applicationId value target.id
      (.object (ItemSet.permissionScopes.put ⟨before ++ after⟩ members)) start state := by
  rcases underway with ⟨current, shown, snapshot, differs⟩
  intro ids messages
  let now : Run Replica := ⟨{ state with failures := [] }, ids, messages⟩
  have calm : now.state.Calm fun _ => none := ⟨fun _ => rfl, rfl⟩
  have stored : now.state.document? (directory.applicationUrl objectId) =
      some (.object current) := differs.here
  rcases (snapshot.removable original lossless).attempt_runs (snapshot.names names) stored with
    ⟨_, _, _, -, -, disturbed⟩ |
      ⟨written, _, sent, ending, later, progress, runs, changed, finished⟩
  · exact absurd calm disturbed
  · obtain rfl : ending = .returned () := finished calm
    rcases progress.of_ofSplit with ⟨_, ⟨⟩, -⟩ | ⟨-, rfl⟩
    have onlyLast : ItemSet.permissionScopes.putAll
        [⟨before ++ Item.setEnabled false shown :: after⟩, ⟨before ++ after⟩] current =
          ItemSet.permissionScopes.put ⟨before ++ after⟩ members :=
      ItemSet.put_put.trans snapshot.put_eq
    rw [onlyLast] at changed
    obtain rfl : Text.trim applicationId = objectId := names.application
    refine ⟨sent, later, ?_, differs.trans ⟨changed.here, changed.elsewhere⟩, ?_⟩
    · rw [← snapshot.id_eq]
      exact runs
    · exact nothingLeft_of_put names original lossless changed.here

end Attempts

/-- However often and wherever the removal of a scope is interrupted, the first attempt without
failures disables the scope and leaves it out, and the application that is left is the one that a
single attempt leaves.  Any attempt after that finds no scope and writes nothing. -/
theorem removeScope_resumes (directory : Directory) (applicationId value objectId : String)
    (members : List (String × Json)) (before : List Scope) (target : Scope) (after : List Scope)
    (start interrupted : Replica) (names : Names applicationId value objectId target)
    (stored : start.document? (directory.applicationUrl objectId) = some (.object members))
    (ordered : (Json.object members).Ordered)
    (removable : Removable objectId members before target after)
    (interruptions : Relation.ReflTransGen (directory.Interruption applicationId value) start
      interrupted) :
    ∃ final, ItemSet.permissionScopes.extract? final = some ⟨before ++ after⟩ ∧
      directory.Finishes applicationId value target.id final start start ∧
      directory.Finishes applicationId value target.id final start interrupted := by
  have lossless : ∀ scope ∈ before ++ target :: after, Lossless scope :=
    ItemSet.lossless_items_of_extract? ordered removable.decoded
  have untouched : directory.Underway objectId members before target after start start :=
    ⟨members, target, .whole, .of_unchanged rfl stored⟩
  refine ⟨.object (ItemSet.permissionScopes.put ⟨before ++ after⟩ members),
    extract?_put_leftOut lossless, ?_, ?_⟩
  · exact untouched.finishes names removable lossless
  · exact (untouched.run names removable lossless interruptions).finishes names removable lossless

/-- A removal that fails has been interrupted. -/
theorem exists_interruption {error : OperationError}
    (failed : ((directory.removeScope applicationId value).run Client.replica now).1 =
      .failed error) :
    ∃ later, directory.Interruption applicationId value now.state later := by
  have runs := Program.runs_of_ending failed
  rw [← Client.interrupted_never] at runs
  exact ⟨_, _, error, fun _ => none, now.state.failures, now.ids, now.messages, _, runs, rfl⟩

/-- The removal of the first of two scopes is finished after it was refused to leave the scope
out. -/
theorem removeScope_resumes_sample :
    ∃ refused, Interruption ⟨"https://directory", 1⟩ "a1" "read" sampleReplica refused ∧
      ∃ final, ItemSet.permissionScopes.extract? final = some ⟨sampleScopes.items.tail⟩ ∧
        Finishes ⟨"https://directory", 1⟩ "a1" "read" "s1" final sampleReplica sampleReplica ∧
        Finishes ⟨"https://directory", 1⟩ "a1" "read" "s1" final sampleReplica refused := by
  obtain ⟨refused, interruption⟩ : ∃ refused,
      Interruption ⟨"https://directory", 1⟩ "a1" "read" sampleReplica refused :=
    exists_interruption removeScope_run_sampleReplica
  refine ⟨refused, interruption, ?_⟩
  let target : Scope := Specification.build { value := "read" : ScopeSpec } "s1"
  have names : Names "a1" "read" "a1" target := ⟨by decide, by decide, by decide, by decide⟩
  let members : List (String × Json) :=
    [("api", .object [("oauth2PermissionScopes", encode sampleScopes)]), ("id", .string "a1")]
  have ordered : (Json.object members).Ordered := by decide
  have distinctKeys : sampleScopes.Distinct := by
    unfold Collection.Distinct
    decide
  have removable : Removable "a1" members [] target sampleScopes.items.tail :=
    { ownId := rfl
      clientId := by simp [ReadableClientId, members, Members.find?]
      decoded := rfl
      distinctKeys
      distinctIds := by decide
      unpadded := by decide
      notBlank := by decide }
  exact removeScope_resumes ⟨"https://directory", 1⟩ "a1" "read" "a1" members [] target
    sampleScopes.items.tail sampleReplica refused names rfl ordered removable (.single interruption)

/-- A scope without a value cannot be named, and an application whose client id is no text is not
fetched, though the scopes can be read. -/
theorem removeScope_needs_value_and_client_id :
    let scopes (value : String) : Collection Scope :=
      ⟨[Specification.build { value : ScopeSpec } "s1"]⟩
    let application (value : String) (clientId : Json) : Json := .object
      [("api", .object [("oauth2PermissionScopes", encode (scopes value))]), ("appId", clientId),
        ("id", .string "a1")]
    let attempt (value : String) (clientId : Json) : Ending OperationError ScopeRemoved :=
      (((⟨"https://directory", 1⟩ : Directory).removeScope "a1" value).run Client.replica
        ⟨(Replica.empty ⟨fun _ => "new", 0⟩).withDocument "https://directory/applications/a1"
          (application value clientId), ⟨fun _ => "new", 0⟩, []⟩).1
    ItemSet.permissionScopes.extract? (application "" (.string "c1")) = some (scopes "") ∧
      attempt "" (.string "c1") = .failed (.plan (.missing "value")) ∧
      ItemSet.permissionScopes.extract? (application "read" .null) = some (scopes "read") ∧
      attempt "read" .null = .failed (.decode "application 'a1'") :=
  ⟨rfl, rfl, rfl, rfl⟩

end Directory

end Provision
