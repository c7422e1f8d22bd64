import Provision.Directory.Scopes
import Provision.Proofs.ItemSetRuns

/-!
# Removing a permission scope in two phases

The server refuses to drop a scope that is enabled.  A removal writes the list of
scopes with the target disabled, and after that the list without the target.
Wherever the requests of a run fail, what is stored afterwards is the list of
the last write that succeeded, and a failure reports just that.

The lists of the three phases are those before the run, after the first write and
after the second one; the number of writes that succeeded is the number of the
phase.
-/

namespace Provision

open Record (Lossless)

namespace Scope

/-- The lists that the removal of a scope passes through. -/
def removalPhases (before : List Scope) (target : Scope) (after : List Scope) :
    List (Collection Scope) :=
  [⟨before ++ target :: after⟩, ⟨before ++ { target with isEnabled := false } :: after⟩,
    ⟨before ++ after⟩]

/-- What is seen of a scope in the phases of its removal. -/
def removalStates (target : Scope) : List ItemState :=
  [.present (some target.isEnabled), .present (some false), .absent]

end Scope

namespace Directory

/-- The writes of a run go through the phases of the removal of a target in order, and the run ends
in the phase of its last write that succeeded. -/
structure TargetPhases (directory : Directory) (objectId : String) (before : List Scope)
    (target : Scope) (after : List Scope) (writes : List Exchange)
    (ending : Ending OperationError ScopeRemoved) (scopes : Collection Scope) : Prop where
  /-- The writes are the disabling one and the omitting one, or the first of them, or none. -/
  requests : writes.map Exchange.request <+: (Scope.removalPhases before target after).tail.map
    (directory.writeRequest ItemSet.permissionScopes objectId)
  /-- The omitting write is sent only after the disabling one succeeded. -/
  inOrder : ∀ disabling omitting, writes = [disabling, omitting] → disabling.succeeded = true
  /-- The stored list is that of the last write that succeeded. -/
  stored : (Scope.removalPhases before target after)[writes.countP Exchange.succeeded]? =
    some scopes
  /-- The target moves from its first state to disabled to absent. -/
  state : (Scope.removalStates target)[writes.countP Exchange.succeeded]? =
    some (ItemState.of scopes target.id)
  /-- A failed write reports its place in the plan and the state of the target that is stored. -/
  failure : ∀ failure cause, ending = .failed (.write failure cause) →
    (∃ kind, failure.position = some ⟨writes.countP Exchange.succeeded + 1, 2, kind⟩) ∧
      failure.itemId = some target.id ∧ failure.state = ItemState.of scopes target.id
  /-- A run that wrote returns or reports the write that failed. -/
  reported : writes ≠ [] → (∃ removed, ending = .returned removed) ∨
    ∃ failure cause, ending = .failed (.write failure cause)
  /-- The run returns when both writes succeeded, and only then. -/
  returned : (∃ removed, ending = .returned removed) ↔ writes.countP Exchange.succeeded = 2

/-- What a removal of the scope with a value leaves behind: a list of scopes that is the old one
when no scope has the value, and otherwise the list of a phase of the removal of the scope that has
it. -/
def TwoPhaseOutcome (directory : Directory) (objectId value : String) (scopes : Collection Scope)
    (writes : List Exchange) (ending : Ending OperationError ScopeRemoved) (later : Replica) :
    Prop :=
  ∃ document scopesLater,
    later.document? (directory.applicationUrl objectId) = some document ∧
    ItemSet.permissionScopes.extract? document = some scopesLater ∧
    ((∀ scope ∈ scopes.items, scope.value ≠ value) → writes = [] ∧ scopesLater = scopes) ∧
    ∀ before target after, scopes.items = before ++ target :: after → target.value = value →
      TargetPhases directory objectId before target after writes ending scopesLater

variable {directory : Directory} {objectId value : String} {before after : List Scope}
  {target : Scope} {scopes : Collection Scope} {schedule : Nat → Option RemoteError}

section States

variable (distinctIds : ((before ++ target :: after).map Scope.id).Nodup)
include distinctIds

theorem itemState_split {shown : Scope} (sameId : shown.id = target.id) :
    ItemState.of ⟨before ++ shown :: after⟩ target.id = .present (some shown.isEnabled) := by
  have found : (⟨before ++ shown :: after⟩ : Collection Scope).get? target.id = some shown :=
    Collection.get?_split rfl sameId fun other before_mem =>
      ne_of_mem_others distinctIds (List.mem_append_left _ before_mem)
  simp [ItemState.of, found, Item.enabled]

theorem itemState_leftOut : ItemState.of ⟨before ++ after⟩ target.id = .absent := by
  have notFound : (⟨before ++ after⟩ : Collection Scope).get? target.id = none := by
    rw [Collection.get?, List.find?_eq_none]
    intro other other_mem
    have apart : Item.id other ≠ target.id := ne_of_mem_others distinctIds other_mem
    simpa using apart
  simp [ItemState.of, notFound]

/-- A run without a write stays in the first phase. -/
theorem targetPhases_of_no_write {ending : Ending OperationError ScopeRemoved}
    (notReturned : ∀ removed, ending ≠ .returned removed)
    (notWritten : ∀ failure cause, ending ≠ .failed (.write failure cause)) :
    TargetPhases directory objectId before target after [] ending
      ⟨before ++ target :: after⟩ where
  requests := List.nil_prefix
  inOrder := by simp
  stored := rfl
  state := by simp [Scope.removalStates, itemState_split distinctIds rfl]
  failure := by
    intro failure cause failed
    exact absurd failed (notWritten failure cause)
  reported := by simp
  returned := by
    constructor
    · rintro ⟨removed, isReturned⟩
      exact absurd isReturned (notReturned removed)
    · simp

/-- However far the steps of a removal get, the run ends in the phase of the last list that was
written. -/
theorem targetPhases_of_progress {written : List (Collection Scope)} {sent : List Exchange}
    {ending : Ending OperationError Unit} {removed : ScopeRemoved}
    (progress : Progress directory ItemSet.permissionScopes objectId
      (Removal.ofSplit before target after true) 0
      (Removal.ofSplit before target after true).positioned written sent ending) :
    TargetPhases directory objectId before target after sent (ending.map fun _ => removed)
      (written.getLastD ⟨before ++ target :: after⟩) := by
  have enabled : ItemState.of ⟨before ++ target :: after⟩ target.id =
      .present (some target.isEnabled) := itemState_split distinctIds rfl
  have disabled : ItemState.of ⟨before ++ Item.setEnabled false target :: after⟩ target.id =
      .present (some false) := itemState_split distinctIds rfl
  have leftOut : ItemState.of ⟨before ++ after⟩ target.id = .absent :=
    itemState_leftOut distinctIds
  have positioned : (Removal.ofSplit before target after true).positioned =
      [(⟨1, 2, .disable⟩, ⟨.disable, ⟨before ++ Item.setEnabled false target :: after⟩⟩),
        (⟨2, 2, .leaveOut⟩, ⟨.leaveOut, ⟨before ++ after⟩⟩)] := rfl
  rw [positioned] at progress
  cases progress with
  | stopped _ _ _ _ cause =>
      constructor
      · simp [Scope.removalPhases, Item.setEnabled]
      · simp
      · rfl
      · simp [Scope.removalStates, enabled]
      · intro failure cause failed
        obtain ⟨rfl, rfl⟩ : _ = failure ∧ _ = cause := by simpa [Ending.map] using failed
        exact ⟨⟨.disable, rfl⟩, rfl, enabled.symm⟩
      · simp [Ending.map]
      · simp [Ending.map]
  | wrote onward =>
      cases onward with
      | stopped _ _ _ _ cause =>
          constructor
          · simp [Scope.removalPhases, Item.setEnabled]
          · simp
          · rfl
          · simp [Scope.removalStates, disabled, List.countP_cons]
          · intro failure cause failed
            obtain ⟨rfl, rfl⟩ : _ = failure ∧ _ = cause := by simpa [Ending.map] using failed
            exact ⟨⟨.leaveOut, rfl⟩, rfl, rfl⟩
          · simp [Ending.map]
          · simp [Ending.map, List.countP_cons]
      | wrote last =>
          cases last
          constructor
          · simp [Scope.removalPhases, Item.setEnabled]
          · simp
          · rfl
          · simp [Scope.removalStates, leftOut, List.countP_cons]
          · simp [Ending.map]
          · simp [Ending.map]
          · simp [Ending.map, List.countP_cons]

end States

variable {later : Run Replica} {members : List (String × Json)} {document : Json}

/-- A run that fails before its first write leaves everything as it was. -/
theorem twoPhaseOutcome_of_no_write {error : OperationError}
    (stored : later.state.document? (directory.applicationUrl objectId) = some document)
    (decoded : ItemSet.permissionScopes.extract? document = some scopes)
    (distinctIds : (scopes.items.map Scope.id).Nodup)
    (notWritten : ∀ failure cause, error ≠ .write failure cause) :
    TwoPhaseOutcome directory objectId value scopes [] (.failed error) later.state := by
  refine ⟨document, scopes, stored, decoded, fun _ => ⟨rfl, rfl⟩, ?_⟩
  intro before target after items_eq _
  obtain rfl : scopes = ⟨before ++ target :: after⟩ := by rw [← items_eq]
  refine targetPhases_of_no_write distinctIds (by simp) ?_
  intro failure cause failed
  exact notWritten failure cause (by simpa using failed)

/-- A run that writes the steps of its plan goes through the phases of the removal of the only scope
with the value. -/
theorem twoPhaseOutcome_of_progress {plan : Removal Scope} {written : List (Collection Scope)}
    {sent : List Exchange} {ending : Ending OperationError Unit} {removed : ScopeRemoved}
    (ordered : (Json.object members).Ordered)
    (decoded : ItemSet.permissionScopes.extract? (.object members) = some scopes)
    (distinctIds : (scopes.items.map Scope.id).Nodup)
    (unpadded : ∀ scope ∈ scopes.items, Text.trim scope.id = scope.id)
    (planned : scopes.removeByKey value true = .ok plan)
    (progress : Progress directory ItemSet.permissionScopes objectId plan 0 plan.positioned written
      sent ending)
    (stored : later.state.document? (directory.applicationUrl objectId) =
      some (.object (ItemSet.permissionScopes.putAll written members))) :
    TwoPhaseOutcome directory objectId (Text.trim value) scopes sent (ending.map fun _ => removed)
      later.state := by
  have losslessWritten : ∀ collection ∈ written, ∀ item ∈ collection.items, Lossless item := by
    intro collection written_mem
    rcases progress.exists_step_of_mem written_mem with ⟨step, step_mem, rfl⟩
    rw [Removal.map_snd_positioned] at step_mem
    exact Collection.lossless_removal (ItemSet.lossless_items_of_extract? ordered decoded) planned
      step_mem
  rcases Collection.removeByKey_of_distinct_ids distinctIds unpadded planned with
    ⟨before, target, after, holds, rfl⟩
  refine ⟨_, written.getLastD scopes, stored,
    ItemSet.extract?_putAll ItemSet.below_permissionScopes losslessWritten decoded, ?_, ?_⟩
  · intro absent
    exact absurd holds.key_eq (absent target (by simp [holds.items_eq]))
  · intro otherBefore other otherAfter items_eq otherValue
    rcases holds.split_eq items_eq otherValue with ⟨rfl, rfl, rfl⟩
    obtain rfl : scopes = ⟨before ++ target :: after⟩ := by rw [← items_eq]
    exact targetPhases_of_progress distinctIds progress

/-- With arguments that are not blank, the removal of a scope is the removal of an item. -/
theorem removeScope_runs {client : Client Replica} {now : Run Replica} {applicationId : String}
    {sent : List Exchange} {ending : Ending OperationError (Removal Scope)}
    (idGiven : Text.trim applicationId ≠ "") (valueGiven : Text.trim value ≠ "")
    (runs : (directory.removeItem ItemSet.permissionScopes (Text.trim applicationId)
      (Text.trim value)).Runs client now sent ending later) :
    (directory.removeScope applicationId value).Runs client now sent
      (ending.map fun plan => {
        applicationId := Text.trim applicationId
        value := Text.trim value
        scopeId := plan.targetId
        steps := plan.steps.map Step.kind }) later :=
  Program.Runs.bind_ok (Argument.required_of_trim_ne idGiven)
    (Program.Runs.bind_ok (Argument.required_of_trim_ne valueGiven) runs.bind_return)

/-- Whichever of its requests fail, a removal of a scope writes the list with the target disabled,
and then, if that succeeded, the list without the target; what is stored is the list that was
written last, and a failed write reports the state of the target in it. -/
theorem removeScope_two_phase (directory : Directory) (schedule : Nat → Option RemoteError)
    (now : Run Replica) (applicationId objectId value : String) (document : Json)
    (scopes : Collection Scope) (named : Text.trim applicationId = objectId)
    (stored : now.state.document? (directory.applicationUrl objectId) = some document)
    (ordered : document.Ordered) (ownId : document.get? "id" = some (.string objectId))
    (decoded : ItemSet.permissionScopes.extract? document = some scopes)
    (distinctIds : (scopes.items.map Scope.id).Nodup)
    (unpadded : ∀ scope ∈ scopes.items, Text.trim scope.id = scope.id) :
    ∃ sent ending later,
      (directory.removeScope applicationId value).Runs (Client.interrupted schedule) now sent ending
        later ∧
      TwoPhaseOutcome directory objectId (Text.trim value) scopes (sent.filter Exchange.isWrite)
        ending later.state ∧
      ((∀ exchange ∈ sent, exchange.succeeded = true) →
        (applicationIds? document).isSome = true → objectId ≠ "" → Text.trim value ≠ "" →
        ∀ before target after, scopes.HoldsOnly (Text.trim value) before target after →
          target.id ≠ "" → ∃ removed, ending = .returned removed) := by
  subst named
  by_cases blankId : Text.trim applicationId = ""
  · exact ⟨[], _, now, Program.Runs.bind_error (Argument.required_of_trim_eq blankId),
      twoPhaseOutcome_of_no_write stored decoded distinctIds (by simp),
      fun _ _ given => absurd blankId given⟩
  by_cases blankValue : Text.trim value = ""
  · exact ⟨[], _, now, Program.Runs.bind_ok (Argument.required_of_trim_ne blankId)
        (Program.Runs.bind_error (Argument.required_of_trim_eq blankValue)),
      twoPhaseOutcome_of_no_write stored decoded distinctIds (by simp),
      fun _ _ _ given => absurd blankValue given⟩
  cases document with
  | object members =>
      have storedLater {later : Run Replica}
          (unchanged : later.state.documents = now.state.documents) :
          later.state.document? (directory.applicationUrl (Text.trim applicationId)) =
            some (.object members) := by
        rw [Replica.document?, unchanged]
        exact stored
      have idFound : Members.find? "id" members = some (.string (Text.trim applicationId)) := by
        simpa [Json.get?, Json.members?] using ownId
      rcases removeItem_runs ItemSet.below_permissionScopes (Text.trim value) stored idFound with
        ⟨error, later, runs, unchanged, -⟩ | ⟨error, later, refused, runs, unchanged, -⟩ |
          ⟨fetched, plan, written, sent, ending, later, planned, progress, runs, changed, -⟩
      · refine ⟨_, _, later, removeScope_runs blankId blankValue runs,
          twoPhaseOutcome_of_no_write (storedLater unchanged) decoded distinctIds (by simp), ?_⟩
        intro succeeded
        simp at succeeded
      · refine ⟨_, _, later, removeScope_runs blankId blankValue runs,
          twoPhaseOutcome_of_no_write (storedLater unchanged) decoded distinctIds
            (not_write_of_removalPlan? refused), ?_⟩
        intro _ identified _ _ before target after holds idGiven
        have idUnpadded : Text.trim target.id = target.id :=
          unpadded target (by simp [holds.items_eq])
        rcases Option.isSome_iff_exists.mp identified with ⟨ids, idsFound⟩
        rw [← Text.trim_trim value] at holds
        obtain ⟨plan, steps⟩ : ∃ plan, scopes.removeByKey (Text.trim value) true = .ok plan :=
          Collection.exists_removal_of_holdsOnly holds (by simpa [Text.trim_trim] using blankValue)
            (idUnpadded.trans_ne idGiven) idUnpadded
        obtain ⟨fetched, planned⟩ : ∃ fetched, removalPlan? ItemSet.permissionScopes
            (Text.trim applicationId) (Text.trim value) (.object members) = .ok (fetched, plan) :=
          exists_removalPlan idsFound decoded steps
        simp [planned] at refused
      · rcases removalPlan?_cases planned with ⟨read, steps⟩
        rcases ItemSet.fetched?_cases read ownId with ⟨-, extracted⟩
        obtain rfl : fetched.collection = scopes := by simpa [extracted] using decoded
        refine ⟨_, _, later, removeScope_runs blankId blankValue runs, ?_, ?_⟩
        · rw [List.filter_cons_of_neg (by simp [Exchange.isWrite, Request.isWrite, readRequest]),
            progress.filter_isWrite, Ending.map_map, ← Text.trim_trim value]
          exact twoPhaseOutcome_of_progress ordered decoded distinctIds unpadded steps progress
            changed.here
        · intro succeeded _ _ _ _ _ _ _ _
          have finished : ending = .returned () := by
            apply progress.returned_of_succeeded
            intro exchange later_mem
            exact succeeded exchange (List.mem_cons_of_mem _ later_mem)
          exact ⟨_, by rw [finished]; rfl⟩
  | _ => simp [Json.get?, Json.members?] at ownId

def sampleScopes : Collection Scope :=
  ⟨[Specification.build { value := "read" : ScopeSpec } "s1",
    Specification.build { value := "write", consenter := .admin : ScopeSpec } "s2"]⟩

def sampleApplication : Json :=
  .object [("api", .object [("oauth2PermissionScopes", encode sampleScopes)]),
    ("id", .string "a1")]

/-- A replica that holds an application with two scopes and refuses its second change. -/
def sampleReplica : Replica :=
  ((Replica.empty ⟨fun _ => "new", 0⟩).withDocument "https://directory/applications/a1"
    sampleApplication).withFailure ⟨.patch, "a1", 1, 503, "busy"⟩

/-- The removal of the first of two scopes goes through the phases when its second write is
refused. -/
theorem removeScope_two_phase_sample :
    ∃ sent ending later,
      ((⟨"https://directory", 1⟩ : Directory).removeScope " a1" "read ").Runs
        (Client.interrupted fun _ => none) ⟨sampleReplica, ⟨fun _ => "new", 0⟩, []⟩ sent ending
        later ∧
      TwoPhaseOutcome ⟨"https://directory", 1⟩ "a1" "read" sampleScopes
        (sent.filter Exchange.isWrite) ending later.state ∧
      ((∀ exchange ∈ sent, exchange.succeeded = true) →
        (applicationIds? sampleApplication).isSome = true → "a1" ≠ "" → "read" ≠ "" →
        ∀ before target after, sampleScopes.HoldsOnly "read" before target after →
          target.id ≠ "" → ∃ removed, ending = .returned removed) := by
  have ordered : sampleApplication.Ordered := by decide
  exact removeScope_two_phase ⟨"https://directory", 1⟩ (fun _ => none)
    ⟨sampleReplica, ⟨fun _ => "new", 0⟩, []⟩ " a1" "a1" "read " _ sampleScopes rfl rfl ordered rfl
    rfl (by decide) (by decide)

/-- The removal of the first scope is refused at its second write. -/
theorem removeScope_run_sampleReplica :
    (((⟨"https://directory", 1⟩ : Directory).removeScope "a1" "read").run Client.replica
      ⟨sampleReplica, ⟨fun _ => "new", 0⟩, []⟩).1 =
    .failed (.write ⟨"read", some "s1", some ⟨2, 2, .leaveOut⟩, .present (some false)⟩
      (.refused .patch "https://directory/applications/a1" 503 "busy")) := by
  rfl

end Directory

end Provision
