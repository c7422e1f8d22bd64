import Provision.Launch
import Provision.Proofs.OperationFailures
import Provision.Proofs.TwoPhaseRemoval

/-!
# When a failure looks like an interrupted removal

A failure is taken for that of a removal that stopped between its two steps when
it reports an item that is listed with its gate shut.  That is right for every
removal that stopped there.  But a scope can be found disabled before anything
was written, and then every refused write of it looks the same: the first step
of its removal, and an update of it.
-/

namespace Provision

open Program

namespace Directory

variable {directory : Directory} {schedule : Nat → Option RemoteError} {now later : Run Replica}
  {sent : List Exchange} {failure : OperationError} {applicationId : String}

section ItemSets

variable {Element : Type} [Record Element] {itemSet : ItemSet Element}

/-- A list is no application, so what a collection was fetched from is stored. -/
theorem stored_of_fetched? {earlier after : Replica} {document : Json} {fetched : Fetched Element}
    (handles : earlier.handle (directory.readRequest itemSet applicationId) = .ok (document, after))
    (read : itemSet.fetched? applicationId document = .ok fetched) :
    earlier.document? (directory.applicationUrl applicationId) = some document := by
  rw [Replica.document?, ← ofUrl_selection directory applicationId itemSet.selected,
    ← Replica.document?]
  rw [readRequest] at handles
  cases stored : earlier.document?
      (directory.url ("applications/" ++ applicationId ++ "?$select=" ++ itemSet.selected)) with
  | none =>
      obtain ⟨rfl, -⟩ := Replica.of_handle_get_list stored handles
      simp [ItemSet.fetched?, applicationIds?, Json.fields?, Json.required, Members.find?] at read
  | some held =>
      have found := stored
      rw [Replica.document?] at found
      simp only [Replica.handle, Replica.read, found, Bind.bind, Except.bind, pure, Except.pure,
        Except.ok.injEq, Prod.mk.injEq] at handles
      rw [handles.1]

/-- An operation that fetches a collection first fails early, or goes on from the collection of the
application that is stored.  Fetching draws no id. -/
theorem of_fetch_runs {Result : Type} {next : Fetched Element → Program OperationError Result}
    (runs : (directory.fetch itemSet applicationId >>= next).Runs (Client.interrupted schedule) now
      sent (.failed failure) later) :
    EarlyFailure sent failure ∨ ∃ document fetched rest middle,
      now.state.document? (directory.applicationUrl applicationId) = some document ∧
      itemSet.fetched? applicationId document = .ok fetched ∧
      sent = ⟨directory.readRequest itemSet applicationId, .ok document⟩ :: rest ∧
      middle.ids = now.ids ∧
      (next fetched).Runs (Client.interrupted schedule) middle rest (.failed failure) later := by
  rcases runs.of_bind with
    ⟨sentFirst, sentLater, fetched, middle, rfl, fetches, goesOn⟩ | ⟨_, ⟨⟩, fetches⟩ | ⟨⟨⟩, -⟩
  · rw [fetch_eq] at fetches
    rcases fetches.of_request with ⟨_, _, _, ⟨⟩, _⟩ | ⟨document, state, rest, sends, rfl, reads⟩
    obtain ⟨rfl, ended, rfl⟩ := reads.unique (runs_ofExcept _)
    have read : itemSet.fetched? applicationId document = .ok fetched := by
      cases made : itemSet.fetched? applicationId document <;> rw [made] at ended <;> cases ended
      rfl
    rcases Replica.send_cases sends with ⟨_, ⟨⟩, -⟩ | ⟨requests, failures, _, ⟨⟩, handles⟩
    have stored := stored_of_fetched? handles read
    exact .inr ⟨document, fetched, sentLater, { now with state }, stored, read, rfl, rfl, goesOn⟩
  · exact .inl ((reads_fetch directory itemSet applicationId).failsWith.of_runs fetches)

/-- An upsert was planned with the next id for the collection of an application that is stored, and
its only write was refused. -/
inductive UpsertRefused {Spec : Type} [Item Element] [Specification Spec Element]
    (directory : Directory) (itemSet : ItemSet Element) (applicationId : String) (spec : Spec)
    (now : Run Replica) : List Exchange → OperationError → Prop where
  | atWrite {document : Json} {fetched : Fetched Element} {upserted : Upserted Element}
      {refusal : RemoteError}
      (stored : now.state.document? (directory.applicationUrl applicationId) = some document)
      (read : itemSet.fetched? applicationId document = .ok fetched)
      (planned : fetched.collection.upsert spec now.ids.current = .ok upserted) :
      UpsertRefused directory itemSet applicationId spec now
        [⟨directory.readRequest itemSet applicationId, .ok document⟩,
          ⟨directory.writeRequest itemSet fetched.objectId upserted.collection, .error refusal⟩]
        (.write (refusedUpsert fetched.collection spec upserted) refusal)

/-- An upsert in a list fails before it writes, or its only write is refused. -/
theorem upsert_failed_run {Spec : Type} [Item Element] [DecidableEq Element]
    [Specification Spec Element] {document : Json} {fetched : Fetched Element} {spec : Spec}
    {middle : Run Replica}
    (stored : now.state.document? (directory.applicationUrl applicationId) = some document)
    (read : itemSet.fetched? applicationId document = .ok fetched) (ids : middle.ids = now.ids)
    (runs : (directory.upsertFetched itemSet fetched spec).Runs (Client.interrupted schedule) middle
      sent (.failed failure) later) :
    let whole := ⟨directory.readRequest itemSet applicationId, .ok document⟩ :: sent
    EarlyFailure whole failure ∨
      directory.UpsertRefused itemSet applicationId spec now whole failure := by
  rcases exists_upsertFetched_fails directory itemSet fetched spec with ⟨withId, upserts_eq, fails⟩
  rw [upserts_eq] at runs
  have failed := (fails middle.ids.current).of_runs runs.of_freshId
  rw [ids] at failed
  cases failed with
  | notPlanned =>
      left
      exact ⟨onlyReads_readRequest directory itemSet, by simp⟩
  | refused planned =>
      right
      exact .atWrite stored read planned

end ItemSets

theorem upsertScope_failed_run {spec : ScopeSpec}
    (runs : (directory.upsertScope applicationId spec).Runs (Client.interrupted schedule) now sent
      (.failed failure) later) :
    EarlyFailure sent failure ∨
      directory.UpsertRefused ItemSet.permissionScopes (Text.trim applicationId) spec now sent
        failure := by
  rcases runs.of_check with ⟨error, -, rfl, ⟨⟩, -⟩ | ⟨application, accepted, runs⟩
  · exact Or.inl ⟨by simp, by simp⟩
  rcases Argument.eq_trim_of_required accepted with ⟨rfl, -⟩
  rcases runs.of_bind_return.of_check with ⟨error, -, rfl, ⟨⟩, -⟩ | ⟨_, -, runs⟩
  · exact Or.inl ⟨by simp, by simp⟩
  rcases of_fetch_runs runs with
    isEarly | ⟨document, fetched, rest, middle, stored, read, rfl, ids, upserts⟩
  · exact Or.inl isEarly
  · exact upsert_failed_run stored read ids upserts

end Directory

namespace ItemState

theorem isStranded_iff {state : ItemState} :
    state.isStranded = true ↔ state = .present (some false) := by
  cases state with
  | absent => simp [isStranded]
  | present enabled =>
      cases enabled with
      | none => simp [isStranded]
      | some isOpen => cases isOpen <;> simp [isStranded]

end ItemState

namespace Command

/-- The application and the id of the scope that a command is planned to write or to remove, given
the listed scopes and the next id. -/
def scopeTarget? (newId : String) (scopes : Collection Scope) :
    Command → Option (String × String)
  | .directory (.upsertScope application spec) =>
    (scopes.upsert spec newId).toOption.map fun upserted =>
      (Text.trim application, upserted.itemId)
  | .directory (.removeScope application value) =>
    (scopes.removeByKey (Text.trim value) true).toOption.map fun plan =>
      (Text.trim application, plan.targetId)
  | _ => none

/-- A run read an application that lists its target as disabled, and its first write was refused. -/
def FoundDisabled (directory : Directory) (newId : String) (command : Command)
    (sent : List Exchange) : Prop :=
  ∃ applicationId targetId document fetched written refusal,
    sent =
      [⟨directory.readRequest ItemSet.permissionScopes applicationId, .ok document⟩,
        ⟨directory.writeRequest ItemSet.permissionScopes fetched.objectId written,
          .error refusal⟩] ∧
    ItemSet.permissionScopes.fetched? applicationId document = .ok fetched ∧
    command.scopeTarget? newId fetched.collection = some (applicationId, targetId) ∧
    ItemState.of fetched.collection targetId = .present (some false)

/-- A run disabled the scope that it was to remove, and the write without the scope was refused. -/
def HalfRemoved (directory : Directory) (command : Command) (sent : List Exchange) : Prop :=
  ∃ application value objectId disabled,
    command = .directory (.removeScope application value) ∧
    directory.OmissionRefused (Text.trim application) (Text.trim value) objectId disabled sent

variable {directory : Directory} {command : Command} {newId : String} {sent : List Exchange}

theorem not_foundDisabled_of_onlyReads (onlyReads : ∀ exchange ∈ sent, exchange.isWrite = false) :
    ¬command.FoundDisabled directory newId sent := by
  rintro ⟨applicationId, targetId, document, fetched, written, refusal, rfl, -⟩
  simp [Exchange.isWrite, Request.isWrite, Directory.writeRequest] at onlyReads

theorem not_halfRemoved_of_noneWritten
    (noneWritten : ∀ exchange ∈ sent, exchange.isWrite = true → exchange.succeeded = false) :
    ¬command.HalfRemoved directory sent := by
  rintro ⟨application, value, objectId, disabled, -,
    document, fetched, plan, omitted, refusal, -, -, -, rfl⟩
  simp [Exchange.isWrite, Request.isWrite, Directory.writeRequest] at noneWritten

theorem not_foundDisabled_of_halfRemoved (half : command.HalfRemoved directory sent) :
    ¬command.FoundDisabled directory newId sent := by
  rcases half with ⟨application, value, objectId, disabled, -,
    document, fetched, plan, omitted, refusal, -, -, -, rfl⟩
  rintro ⟨_, _, _, _, _, _, sent_eq, -⟩
  simp at sent_eq

/-- Whether a refused command found its target disabled is seen in what it fetched. -/
theorem foundDisabled_iff {applicationId targetId : String} {document : Json}
    {fetched : Fetched Scope} {written : Collection Scope} {refusal : RemoteError}
    (sent_eq : sent =
      [⟨directory.readRequest ItemSet.permissionScopes applicationId, .ok document⟩,
        ⟨directory.writeRequest ItemSet.permissionScopes fetched.objectId written,
          .error refusal⟩])
    (read : ItemSet.permissionScopes.fetched? applicationId document = .ok fetched)
    (target : command.scopeTarget? newId fetched.collection = some (applicationId, targetId)) :
    command.FoundDisabled directory newId sent ↔
      ItemState.of fetched.collection targetId = .present (some false) := by
  constructor
  · rintro ⟨_, otherId, otherDocument, other, _, _, otherSent, otherRead, otherTarget, disabled⟩
    obtain rfl : document = otherDocument := by
      rw [sent_eq] at otherSent
      simp only [List.cons.injEq, Exchange.mk.injEq, Except.ok.injEq] at otherSent
      exact otherSent.1.2
    have sameCollection : fetched.collection = other.collection := by
      rw [← Option.some.injEq, ← (ItemSet.of_fetched? read).2, (ItemSet.of_fetched? otherRead).2]
    rw [← sameCollection] at otherTarget disabled
    obtain ⟨-, rfl⟩ : _ ∧ targetId = otherId := by simpa [target] using otherTarget
    exact disabled
  · intro disabled
    exact ⟨applicationId, targetId, document, fetched, written, refusal, sent_eq, read, target,
      disabled⟩

theorem not_foundDisabled_of_scopeTarget
    (noTarget : ∀ scopes, command.scopeTarget? newId scopes = none) :
    ¬command.FoundDisabled directory newId sent := by
  rintro ⟨_, _, _, fetched, _, _, -, -, target, -⟩
  simp [noTarget fetched.collection] at target

/-- How the failure of a command looks, and why: like that of no removal that stopped between its
steps, or of one that did, or of one that would have had to. -/
inductive Appearance (directory : Directory) (newId : String) (command : Command)
    (sent : List Exchange) (failure : OperationError) : Prop where
  | whole (notPartial : failure.isPartial = false)
      (notFound : ¬command.FoundDisabled directory newId sent)
      (notHalf : ¬command.HalfRemoved directory sent)
  | halfRemoved (isPartial : failure.isPartial = true)
      (half : command.HalfRemoved directory sent)
  | foundDisabled (isPartial : failure.isPartial = true)
      (found : command.FoundDisabled directory newId sent)

section Appearances

variable {failure : OperationError}

theorem Appearance.of_early (isEarly : EarlyFailure sent failure) :
    Appearance directory newId command sent failure := by
  apply whole isEarly.isPartial_eq_false
  · exact not_foundDisabled_of_onlyReads isEarly.onlyReads
  · exact not_halfRemoved_of_noneWritten (none_written_of_onlyReads isEarly.onlyReads)

/-- A command whose only write was refused looks as its target did when it was fetched. -/
theorem Appearance.of_refused {applicationId targetId : String} {document : Json}
    {fetched : Fetched Scope} {written : Collection Scope} {detail : WriteFailure}
    {refusal : RemoteError}
    (sent_eq : sent =
      [⟨directory.readRequest ItemSet.permissionScopes applicationId, .ok document⟩,
        ⟨directory.writeRequest ItemSet.permissionScopes fetched.objectId written,
          .error refusal⟩])
    (read : ItemSet.permissionScopes.fetched? applicationId document = .ok fetched)
    (target : command.scopeTarget? newId fetched.collection = some (applicationId, targetId))
    (state_eq : detail.state = ItemState.of fetched.collection targetId) :
    Appearance directory newId command sent (.write detail refusal) := by
  have found_iff : command.FoundDisabled directory newId sent ↔
      ItemState.of fetched.collection targetId = .present (some false) :=
    foundDisabled_iff sent_eq read target
  by_cases disabled : ItemState.of fetched.collection targetId = .present (some false)
  · apply foundDisabled
    · rw [OperationError.isPartial, state_eq, disabled]
      rfl
    · exact found_iff.mpr disabled
  · apply whole
    · rw [OperationError.isPartial, state_eq, Bool.eq_false_iff]
      exact mt ItemState.isStranded_iff.mp disabled
    · exact mt found_iff.mp disabled
    · apply not_halfRemoved_of_noneWritten
      simp [sent_eq, Exchange.isWrite, Request.isWrite, Directory.readRequest]

theorem Appearance.of_removal {application value : String}
    (fails : directory.ScopeRemovalFailure (Text.trim application) (Text.trim value) sent
      failure) :
    Appearance directory newId (.directory (.removeScope application value)) sent failure := by
  cases fails with
  | early isEarly => exact .of_early isEarly
  | atDisabling planned _ state_eq =>
      rcases Directory.removalPlan?_cases planned with ⟨read, steps⟩
      have planned : Collection.removeByKey _ (Text.trim value) true = .ok _ := steps
      refine .of_refused rfl read ?_ state_eq
      simp [scopeTarget?, planned, Except.toOption]
  | atOmission refused _ state_eq =>
      apply halfRemoved
      · rw [OperationError.isPartial, state_eq]
        rfl
      · exact ⟨application, value, _, _, rfl, refused⟩

theorem Appearance.of_creation {create : CreateArguments} {owners : List String}
    (fails : directory.BlueprintFailure (Text.trim create.name) sent failure) :
    Appearance directory newId (.directory (.createBlueprint create owners)) sent failure := by
  apply whole
  · cases fails with
    | halfway _ _ => rfl
    | stopped stops =>
      cases stops with
      | early isEarly => exact isEarly.isPartial_eq_false
      | refused _ holds => exact holds.1
  · exact not_foundDisabled_of_scopeTarget fun _ => rfl
  · rintro ⟨_, _, _, _, isRemoval, -⟩
    simp at isRemoval

/-- An upsert of a scope is followed request by request: it is the id that it draws that counts. -/
theorem Appearance.of_upsert {manager : ResourceManager} {schedule : Nat → Option RemoteError}
    {now later : Run Replica} {application : String} {spec : ScopeSpec} {error : CommandError}
    (runs : (program directory manager (.directory (.upsertScope application spec))).Runs
      (Client.interrupted schedule) now sent (.failed error) later) :
    Appearance directory now.ids.current (.directory (.upsertScope application spec)) sent
      error.cause := by
  simp only [program, DirectoryCommand.run] at runs
  rcases Directory.upsertScope_failed_run runs.of_single with isEarly | refused
  · exact .of_early isEarly
  · rcases error with ⟨context, failure⟩
    cases refused with
    | atWrite _ read planned =>
        refine .of_refused rfl read ?_ rfl
        simp [scopeTarget?, planned, Except.toOption]

end Appearances

end Command

namespace Launch

/-- The advice to repeat a removal. -/
def repeatAdvice : String :=
  "the item was disabled but is still present; run the same remove again to finish"

/-- The advice to repeat a removal is printed for the failures that look like an interrupted one. -/
theorem repeatAdvice_mem_failureLines {error : CommandError} :
    repeatAdvice ∈ failureLines error ↔ error.cause.isPartial = true := by
  have notHeadline (parts : List String) : repeatAdvice ≠ errorLine parts := by
    intro same
    have first := congrArg (fun text : String => text.toList.head?) same
    simp [repeatAdvice, errorLine] at first
  have notCode (code : String) : "service error code: " ++ code ≠ repeatAdvice := by
    intro same
    have first := congrArg (fun text : String => text.toList.head?) same
    simp [repeatAdvice] at first
  have advised : repeatAdvice ∈ (if error.cause.isPartial = true then [repeatAdvice] else []) ↔
      error.cause.isPartial = true := by
    by_cases isPartial : error.cause.isPartial = true <;> simp [isPartial]
  have notCodes (codes : Option String) :
      repeatAdvice ∉ (codes.map fun code => "service error code: " ++ code).toList := by
    simp [notCode]
  rw [failureLines, List.mem_append, List.mem_append, List.mem_singleton]
  constructor
  · rintro ((headline | listed) | code)
    · exact absurd headline (notHeadline _)
    · exact advised.mp listed
    · exact absurd code (notCodes _)
  · intro isPartial
    exact Or.inl (Or.inr (advised.mpr isPartial))

end Launch

/-- The failure of an operation looks like that of a removal that stopped between its two steps
exactly when it is one, unless the run found its scope disabled and had its first write refused:
then it looks like one and is none.  The advice to repeat the removal is printed whenever it looks
like one. -/
theorem Command.isPartial_iff_of_failed_run (directory : Directory) (manager : ResourceManager)
    (command : Command) (schedule : Nat → Option RemoteError) (now later : Run Replica)
    (sent : List Exchange) (error : CommandError)
    (runs : (command.program directory manager).Runs (Client.interrupted schedule) now sent
      (.failed error) later) :
    (¬command.FoundDisabled directory now.ids.current sent →
      (error.cause.isPartial = true ↔ command.HalfRemoved directory sent)) ∧
    (command.FoundDisabled directory now.ids.current sent →
      error.cause.isPartial = true ∧ ¬command.HalfRemoved directory sent) ∧
    (Launch.repeatAdvice ∈ Launch.failureLines error ↔ error.cause.isPartial = true) := by
  have fails : command.FailsBy directory sent error.cause :=
    (command.fails directory manager).of_runs runs
  have appearance : Appearance directory now.ids.current command sent error.cause := by
    unfold FailsBy at fails
    split at fails
    next create owners => exact .of_creation fails
    next application value => exact .of_removal fails
    next application spec => exact .of_upsert runs
    next noCreation noRemoval noUpsert =>
      apply Appearance.whole fails.isPartial_eq_false
      · apply not_foundDisabled_of_scopeTarget
        intro scopes
        unfold scopeTarget?
        split
        next application spec => exact absurd rfl (noUpsert application spec)
        next application value => exact absurd rfl (noRemoval application value)
        next => rfl
      · rintro ⟨application, value, _, _, isRemoval, -⟩
        exact noRemoval application value isRemoval
  cases appearance with
  | whole notPartial notFound notHalf =>
      refine ⟨?_, fun found => absurd found notFound, Launch.repeatAdvice_mem_failureLines⟩
      intro _
      simp [notPartial, notHalf]
  | halfRemoved isPartial half =>
      refine ⟨?_, fun found => absurd found (not_foundDisabled_of_halfRemoved half),
        Launch.repeatAdvice_mem_failureLines⟩
      intro _
      simp [isPartial, half]
  | foundDisabled isPartial found =>
      refine ⟨fun notFound => absurd found notFound, ?_, Launch.repeatAdvice_mem_failureLines⟩
      intro _
      exact ⟨isPartial, fun half => not_foundDisabled_of_halfRemoved half found⟩

/-- The second write of a removal is refused. -/
theorem Command.isPartial_iff_of_failed_run_sample :
    ∃ sent error later,
      (Command.program ⟨"https://directory", 1⟩ ⟨"https://manager", "s", "g", 1⟩
        (.directory (.removeScope "a1" "read"))).Runs (Client.interrupted fun _ => none)
          ⟨Directory.sampleReplica, ⟨fun _ => "new", 0⟩, []⟩ sent (.failed error) later ∧
      error.cause.isPartial = true ∧
      (¬FoundDisabled ⟨"https://directory", 1⟩ "new" (.directory (.removeScope "a1" "read")) sent →
        HalfRemoved ⟨"https://directory", 1⟩ (.directory (.removeScope "a1" "read")) sent) := by
  have runs : (Command.program ⟨"https://directory", 1⟩ ⟨"https://manager", "s", "g", 1⟩
      (.directory (.removeScope "a1" "read"))).Runs (Client.interrupted fun _ => none)
        ⟨Directory.sampleReplica, ⟨fun _ => "new", 0⟩, []⟩ _
        (.failed ⟨none, .write ⟨"read", some "s1", some ⟨2, 2, .leaveOut⟩, .present (some false)⟩
          (.refused .patch "https://directory/applications/a1" 503 "busy")⟩) _ :=
    Program.runs_of_ending rfl
  refine ⟨_, _, _, runs, rfl, ?_⟩
  intro notFound
  exact ((Command.isPartial_iff_of_failed_run ⟨"https://directory", 1⟩
    ⟨"https://manager", "s", "g", 1⟩ _ (fun _ => none)
    ⟨Directory.sampleReplica, ⟨fun _ => "new", 0⟩, []⟩ _ _ _ runs).1 notFound).mp rfl

/-- An application whose only scope is disabled. -/
def disabledApplication : Json :=
  .object [("api", .object [("oauth2PermissionScopes", .array
    [.object [("id", .string "s1"), ("value", .string "read")]])]), ("id", .string "a1")]

/-- A replica that holds an application with a disabled scope and refuses its next change. -/
def disabledReplica : Replica :=
  ((Replica.empty ⟨fun _ => "new", 0⟩).withDocument "https://directory/applications/a1"
    disabledApplication).withFailure ⟨.patch, "a1", 0, 503, "busy"⟩

/-- The refused update of a scope that is disabled looks like an interrupted removal of it. -/
theorem Command.upsertScope_looks_half_removed :
    ∃ sent error later,
      (Command.program ⟨"https://directory", 1⟩ ⟨"https://manager", "s", "g", 1⟩
        (.directory (.upsertScope "a1" {
          value := "read"
          adminConsentDisplayName := some "Read"
          adminConsentDescription := some "Read all" }))).Runs (Client.interrupted fun _ => none)
          ⟨disabledReplica, ⟨fun _ => "new", 0⟩, []⟩ sent (.failed error) later ∧
      error.cause.isPartial = true ∧
      ∀ directory spec, ¬HalfRemoved directory (.directory (.upsertScope "a1" spec)) sent := by
  refine ⟨_, ⟨none, .write ⟨"read", some "s1", none, .present (some false)⟩
    (.refused .patch "https://directory/applications/a1" 503 "busy")⟩, _, Program.runs_of_ending rfl, rfl,
    ?_⟩
  rintro directory spec ⟨_, _, _, _, isRemoval, -⟩
  simp at isRemoval

end Provision
