import Provision.Directory.ItemSet
import Provision.Proofs.Answers
import Provision.Proofs.ItemSets
import Provision.Proofs.Planning
import Provision.Proofs.Runs

/-!
# Runs on the collections of an application

What fetching a collection of a stored application, writing it back and writing
the steps of a removal come to when requests may fail: which requests are sent
with which answers, how the operation ends and which document is stored then.
A collection is written to the application that its document names, so the
document has to bear the id under which it is stored.
-/

namespace Provision

/-- A replica holds a document under a URL, and under all others what an earlier one holds. -/
structure Replica.DiffersAt (url : String) (document : Json) (earlier later : Replica) : Prop where
  here : later.document? url = some document
  elsewhere : ∀ other, (Replica.Location.ofUrl other).path ≠ (Replica.Location.ofUrl url).path →
    later.document? other = earlier.document? other

section DiffersAt

variable {url : String} {document changed : Json} {earlier middle later : Replica}

theorem Replica.DiffersAt.of_store
    (stored : later.documents =
      earlier.documents.store (Replica.Location.ofUrl url).path document) :
    Replica.DiffersAt url document earlier later := by
  constructor
  · rw [Replica.document?, stored, Replica.Documents.find?_store_self]
  · intro other apart
    rw [Replica.document?, stored, Replica.Documents.find?_store_of_ne apart, Replica.document?]

theorem Replica.DiffersAt.of_unchanged (unchanged : later.documents = earlier.documents)
    (held : earlier.document? url = some document) :
    Replica.DiffersAt url document earlier later := by
  constructor
  · rw [Replica.document?, unchanged]
    exact held
  · intro other _
    rw [Replica.document?, unchanged, Replica.document?]

theorem Replica.DiffersAt.trans (first : Replica.DiffersAt url document earlier middle)
    (second : Replica.DiffersAt url changed middle later) :
    Replica.DiffersAt url changed earlier later := by
  refine ⟨second.here, ?_⟩
  intro other apart
  rw [second.elsewhere other apart, first.elsewhere other apart]

end DiffersAt

namespace ItemSet

variable {Element : Type} [Record Element] {itemSet : ItemSet Element} {document : Json}
  {applicationId : String}

/-- What a collection is called in messages about the application it belongs to. -/
def applicationLabel (applicationId : String) : String := "application '" ++ applicationId ++ "'"

/-- What is made of an application that was read for the sake of a collection. -/
def fetched? (itemSet : ItemSet Element) (applicationId : String) (application : Json) :
    Except OperationError (Fetched Element) :=
  match Directory.applicationIds? application, itemSet.extract? application with
  | none, _ => .error (.decode (applicationLabel applicationId))
  | some _, none => .error (.decode itemSet.label)
  | some (objectId, appId), some collection => .ok ⟨objectId, appId, collection⟩

theorem fetched?_of_extract? {objectId appId : String} {members : List (String × Json)}
    {collection : Collection Element}
    (idFound : Members.find? "id" members = some (.string objectId))
    (appIdFound : Json.withDefault Json.text? "" "appId" members = some appId)
    (extracted : itemSet.extract? (.object members) = some collection) :
    itemSet.fetched? applicationId (.object members) = .ok ⟨objectId, appId, collection⟩ := by
  simp [fetched?, Directory.applicationIds?, Json.fields?, Json.required, idFound, Json.text?,
    appIdFound, extracted]

/-- What is fetched is read from the application. -/
theorem of_fetched? {fetched : Fetched Element}
    (read : itemSet.fetched? applicationId document = .ok fetched) :
    Directory.applicationIds? document = some (fetched.objectId, fetched.appId) ∧
      itemSet.extract? document = some fetched.collection := by
  unfold fetched? at read
  split at read
  · simp at read
  · simp at read
  next identified extracted =>
    rcases Except.ok.inj read with rfl
    exact ⟨identified, extracted⟩

/-- The id that is read from an application is the one that it bears. -/
theorem objectId_of_applicationIds? {ids : String × String} {objectId : String}
    (identified : Directory.applicationIds? document = some ids)
    (ownId : document.get? "id" = some (.string objectId)) : ids.1 = objectId := by
  cases document with
  | object members =>
      have idFound : Members.find? "id" members = some (.string objectId) := by
        simpa [Json.get?, Json.members?] using ownId
      cases appId : Json.withDefault Json.text? "" "appId" members with
      | none =>
          simp [Directory.applicationIds?, Json.fields?, Json.required, idFound, Json.text?,
            appId] at identified
      | some found =>
          have same : (objectId, found) = ids := by
            simpa [Directory.applicationIds?, Json.fields?, Json.required, idFound, Json.text?,
              appId] using identified
          rw [← same]
  | _ => simp [Json.get?, Json.members?] at ownId

/-- An application that bears its own id is fetched under that id. -/
theorem fetched?_cases {fetched : Fetched Element} {objectId : String}
    (read : itemSet.fetched? applicationId document = .ok fetched)
    (ownId : document.get? "id" = some (.string objectId)) :
    fetched.objectId = objectId ∧ itemSet.extract? document = some fetched.collection := by
  rcases of_fetched? read with ⟨identified, extracted⟩
  exact ⟨objectId_of_applicationIds? identified ownId, extracted⟩

end ItemSet

namespace Directory

variable {Element : Type} [Record Element] {directory : Directory} {itemSet : ItemSet Element}
  {schedule : Nat → Option RemoteError} {now : Run Replica} {objectId : String} {document : Json}
  {members : List (String × Json)} {collection : Collection Element}

/-- The request that reads a collection of an application. -/
def readRequest (directory : Directory) (itemSet : ItemSet Element) (objectId : String) : Request :=
  ⟨.get, directory.url ("applications/" ++ objectId ++ "?$select=" ++ itemSet.selected), none⟩

/-- The request that replaces a collection of an application. -/
def writeRequest (directory : Directory) (itemSet : ItemSet Element) (objectId : String)
    (collection : Collection Element) : Request :=
  ⟨.patch, directory.applicationUrl objectId, some (itemSet.patchBody collection)⟩

/-- Fetching a collection is reading the application and taking the collection out of it. -/
theorem fetch_eq :
    directory.fetch itemSet objectId =
      (Program.request (directory.readRequest itemSet objectId)).mapFailure
          (.read (ItemSet.applicationLabel objectId)) >>=
        fun application => Program.ofExcept (itemSet.fetched? objectId application) := by
  unfold fetch
  change Program.send _ _ = Program.send _ _
  congr 1
  funext answer
  cases answer with
  | error error => rfl
  | ok application =>
      cases ids : applicationIds? application with
      | none =>
          simp [ItemSet.fetched?, ItemSet.applicationLabel, ids, Program.ofExcept,
            Program.mapFailure, Program.bind, pure]
      | some ids =>
          cases extracted : itemSet.extract? application with
          | none =>
              simp [ItemSet.fetched?, ids, extracted, Program.ofExcept, Program.mapFailure,
                Program.bind, pure]
          | some collection =>
              simp [ItemSet.fetched?, ids, extracted, Program.ofExcept, Program.mapFailure,
                Program.bind, pure]

/-- Fetching a collection of a stored application brings what is made of the application, or the
request is refused. -/
theorem fetch_runs (itemSet : ItemSet Element)
    (stored : now.state.document? (directory.applicationUrl objectId) = some document) :
    (∃ later, (directory.fetch itemSet objectId).Runs (Client.interrupted schedule) now
        [⟨directory.readRequest itemSet objectId, .ok document⟩]
        (Ending.ofExcept (itemSet.fetched? objectId document)) later ∧
      later.state.documents = now.state.documents ∧ later.ids = now.ids ∧
      (now.state.Calm schedule → later.state.Calm schedule)) ∨
    ∃ error later, (directory.fetch itemSet objectId).Runs (Client.interrupted schedule) now
        [⟨directory.readRequest itemSet objectId, .error error⟩]
        (.failed (.read (ItemSet.applicationLabel objectId) error)) later ∧
      later.state.documents = now.state.documents ∧ ¬now.state.Calm schedule := by
  have storedThere : now.state.document? (directory.readRequest itemSet objectId).url =
      some document := by
    rw [readRequest, Replica.document?, ofUrl_selection]
    exact stored
  rw [fetch_eq]
  rcases Replica.served_get storedThere with
    ⟨later, sends, changed, calm⟩ | ⟨error, later, sends, unchanged, disturbed⟩
  · left
    refine ⟨{ now with state := later }, ?_, changed, rfl, calm⟩
    exact ((Program.runs_request sends).mapFailure _).bind (Program.runs_ofExcept _)
  · right
    refine ⟨error, { now with state := later }, ?_, unchanged, disturbed⟩
    exact ((Program.runs_request sends).mapFailure _).bind_failed

/-- Writing a collection to a stored application puts it there, or the request is refused. -/
theorem write_runs (below : itemSet.path ≠ [])
    (stored : now.state.document? (directory.applicationUrl objectId) = some (.object members)) :
    (∃ later, (directory.write itemSet objectId collection).Runs (Client.interrupted schedule) now
        [⟨directory.writeRequest itemSet objectId collection, .ok .null⟩] (.returned ()) later ∧
      Replica.DiffersAt (directory.applicationUrl objectId)
        (.object (itemSet.put collection members)) now.state later.state ∧
      (now.state.Calm schedule → later.state.Calm schedule)) ∨
    ∃ error later, (directory.write itemSet objectId collection).Runs
        (Client.interrupted schedule) now
        [⟨directory.writeRequest itemSet objectId collection, .error error⟩] (.failed error) later ∧
      later.state.documents = now.state.documents ∧ ¬now.state.Calm schedule := by
  have served : Replica.Served schedule (directory.writeRequest itemSet objectId collection)
      now.state .null (now.state.documents.store
        (Replica.Location.ofUrl (directory.applicationUrl objectId)).path
        (.object (itemSet.put collection members))) := by
    rw [writeRequest, ItemSet.patchBody_eq below]
    exact Replica.served_patch stored
  rcases served with
    ⟨later, sends, changed, calm⟩ | ⟨error, later, sends, unchanged, disturbed⟩
  · left
    refine ⟨{ now with state := later }, ?_, .of_store changed, calm⟩
    exact (Program.runs_request sends).bind Program.runs_done
  · right
    refine ⟨error, { now with state := later }, ?_, unchanged, disturbed⟩
    exact (Program.runs_request sends).bind_failed

/-- When no request fails, a planned upsert is written unless it changes nothing. -/
theorem upsertFetched_runs {Spec : Type} [Item Element] [DecidableEq Element]
    [Specification Spec Element] (below : itemSet.path ≠ []) (fetched : Fetched Element)
    {spec : Spec}
    {upserted : Upserted Element} (calm : now.state.Calm schedule)
    (stored : now.state.document? (directory.applicationUrl fetched.objectId) =
      some (.object members))
    (planned : fetched.collection.upsert spec now.ids.current = .ok upserted) :
    ∃ written sent later,
      written = (if upserted.collection = fetched.collection then [] else [upserted.collection]) ∧
      (directory.upsertFetched itemSet fetched spec).Runs (Client.interrupted schedule) now sent
        (.returned ⟨upserted, upserted.collection ≠ fetched.collection⟩) later ∧
      sent.map Exchange.request = written.map (directory.writeRequest itemSet fetched.objectId) ∧
      Replica.DiffersAt (directory.applicationUrl fetched.objectId)
        (.object (itemSet.putAll written members)) now.state later.state ∧
      later.state.Calm schedule := by
  by_cases same : upserted.collection = fetched.collection
  · refine ⟨[], [], { now with ids := now.ids.rest }, by simp [same], ?_, rfl,
      .of_unchanged rfl stored, calm⟩
    refine Program.runs_freshId.bind (Program.Runs.bind_ok planned ?_)
    simp only [same, if_true, ne_eq, not_true_eq_false, decide_false]
    exact Program.runs_done
  · let failure : RemoteError → OperationError := .write {
      key := Specification.key spec
      itemId := if upserted.wasCreated then none else some upserted.itemId
      position := none
      state := ItemState.of fetched.collection upserted.itemId }
    let message : String := (if upserted.wasCreated then "adding" else "updating") ++ " "
      ++ itemSet.label ++ " '" ++ Specification.key spec ++ "'"
    let announced : Run Replica :=
      { now with ids := now.ids.rest, messages := now.messages ++ [message] }
    have storedThen : announced.state.document? (directory.applicationUrl fetched.objectId) =
        some (.object members) := stored
    rcases write_runs below storedThen with
      ⟨later, wrote, changed, calmLater⟩ | ⟨error, later, -, -, disturbed⟩
    · refine ⟨[upserted.collection],
        [⟨directory.writeRequest itemSet fetched.objectId upserted.collection, .ok .null⟩], later,
        by simp [same], ?_, rfl, changed, calmLater calm⟩
      refine Program.runs_freshId.bind (Program.Runs.bind_ok planned ?_)
      simp only [same, if_false, ne_eq, not_false_eq_true, decide_true]
      exact Program.runs_progress.bind ((wrote.mapFailure failure).bind Program.runs_done)
    · exact absurd calm disturbed

/-- An upsert that is not planned sends nothing. -/
theorem upsertFetched_refused {Spec : Type} [Item Element] [DecidableEq Element]
    [Specification Spec Element] {fetched : Fetched Element} {spec : Spec} {error : PlanError}
    {client : Client Replica}
    (refused : fetched.collection.upsert spec now.ids.current = .error error) :
    (directory.upsertFetched itemSet fetched spec).Runs client now [] (.failed (.plan error))
      { now with ids := now.ids.rest } :=
  Program.runs_freshId.bind (Program.Runs.bind_error refused)

/-- How the writes of the remaining steps of a removal can go, counted from an index: which
collections are written, with which exchanges, and how the writing ends. -/
inductive Progress (directory : Directory) (itemSet : ItemSet Element) (objectId : String)
    (plan : Removal Element) [Item Element] :
    Nat → List (StepPosition × Step Element) → List (Collection Element) → List Exchange →
      Ending OperationError Unit → Prop where
  | finished (index : Nat) : Progress directory itemSet objectId plan index [] [] [] (.returned ())
  | stopped (index : Nat) (position : StepPosition) (step : Step Element)
      (rest : List (StepPosition × Step Element)) (cause : RemoteError) :
      Progress directory itemSet objectId plan index ((position, step) :: rest) []
        [⟨directory.writeRequest itemSet objectId step.collection, .error cause⟩]
        (.failed (.write {
          key := plan.targetKey
          itemId := some plan.targetId
          position := some position
          state := plan.stateIfFailedAt index } cause))
  | wrote {index : Nat} {position : StepPosition} {step : Step Element}
      {rest : List (StepPosition × Step Element)} {written : List (Collection Element)}
      {sent : List Exchange} {ending : Ending OperationError Unit}
      (onward : Progress directory itemSet objectId plan (index + 1) rest written sent ending) :
      Progress directory itemSet objectId plan index ((position, step) :: rest)
        (step.collection :: written)
        (⟨directory.writeRequest itemSet objectId step.collection, .ok .null⟩ :: sent) ending

/-- What is written are collections of steps. -/
theorem Progress.exists_step_of_mem [Item Element] {plan : Removal Element} {index : Nat}
    {steps : List (StepPosition × Step Element)} {written : List (Collection Element)}
    {sent : List Exchange} {ending : Ending OperationError Unit}
    (progress : Progress directory itemSet objectId plan index steps written sent ending)
    (written_mem : collection ∈ written) :
    ∃ step ∈ steps.map Prod.snd, step.collection = collection := by
  induction progress with
  | finished | stopped => simp at written_mem
  | @wrote index position step rest written sent ending onward ih =>
      rcases List.mem_cons.mp written_mem with rfl | later_mem
      · exact ⟨step, by simp, rfl⟩
      · rcases ih later_mem with ⟨found, found_mem, found_eq⟩
        exact ⟨found, List.mem_cons_of_mem _ found_mem, found_eq⟩

/-- All requests of a removal but the first one are writes. -/
theorem Progress.filter_isWrite [Item Element] {plan : Removal Element} {index : Nat}
    {steps : List (StepPosition × Step Element)} {written : List (Collection Element)}
    {sent : List Exchange} {ending : Ending OperationError Unit}
    (progress : Progress directory itemSet objectId plan index steps written sent ending) :
    sent.filter Exchange.isWrite = sent := by
  induction progress with
  | finished => rfl
  | stopped => rfl
  | wrote onward ih => simp [Exchange.isWrite, Request.isWrite, writeRequest, ih]

/-- A removal whose writes all succeed comes to its end. -/
theorem Progress.returned_of_succeeded [Item Element] {plan : Removal Element} {index : Nat}
    {steps : List (StepPosition × Step Element)} {written : List (Collection Element)}
    {sent : List Exchange} {ending : Ending OperationError Unit}
    (progress : Progress directory itemSet objectId plan index steps written sent ending)
    (succeeded : ∀ exchange ∈ sent, exchange.succeeded = true) : ending = .returned () := by
  induction progress with
  | finished => rfl
  | stopped index position step rest cause => simp at succeeded
  | wrote onward ih =>
      apply ih
      intro exchange later_mem
      exact succeeded exchange (List.mem_cons_of_mem _ later_mem)

/-- A removal that comes to its end has written the collection of every step. -/
theorem Progress.of_returned [Item Element] {plan : Removal Element} {index : Nat}
    {steps : List (StepPosition × Step Element)} {written : List (Collection Element)}
    {sent : List Exchange} {ending : Ending OperationError Unit}
    (progress : Progress directory itemSet objectId plan index steps written sent ending)
    (returned : ending = .returned ()) :
    written = (steps.map Prod.snd).map Step.collection ∧
      sent.map Exchange.request = written.map (directory.writeRequest itemSet objectId) := by
  induction progress with
  | finished => exact ⟨rfl, rfl⟩
  | stopped => simp at returned
  | wrote onward ih =>
      rcases ih returned with ⟨rfl, sent_eq⟩
      exact ⟨rfl, by simp [sent_eq]⟩

/-- The steps of a removal are written up to the first failure, and the last collection that was
written is the one that is stored. -/
theorem writeSteps_runs [Item Element] (below : itemSet.path ≠ []) (plan : Removal Element)
    (index : Nat) (steps : List (StepPosition × Step Element))
    (stored : now.state.document? (directory.applicationUrl objectId) = some (.object members)) :
    ∃ written sent ending later,
      Progress directory itemSet objectId plan index steps written sent ending ∧
      (directory.writeSteps itemSet objectId plan index steps).Runs (Client.interrupted schedule)
        now sent ending later ∧
      Replica.DiffersAt (directory.applicationUrl objectId)
        (.object (itemSet.putAll written members)) now.state later.state ∧
      (now.state.Calm schedule → later.state.Calm schedule ∧ ending = .returned ()) := by
  -- induction on the steps that are left: each one finds the document of the one before it
  induction steps generalizing index now members with
  | nil =>
      exact ⟨[], [], .returned (), now, .finished index, Program.runs_done,
        .of_unchanged rfl stored, fun calm => ⟨calm, rfl⟩⟩
  | cons positioned rest ih =>
      rcases positioned with ⟨position, step⟩
      let failure : RemoteError → OperationError := .write {
        key := plan.targetKey
        itemId := some plan.targetId
        position := some position
        state := plan.stateIfFailedAt index }
      let message : String := position.text ++ ": " ++ step.kind.name ++ " " ++ itemSet.label
        ++ " '" ++ plan.targetKey ++ "'"
      let announced : Run Replica := { now with messages := now.messages ++ [message] }
      have storedThen : announced.state.document? (directory.applicationUrl objectId) =
          some (.object members) := stored
      rcases write_runs below storedThen with
        ⟨middle, wrote, changed, calm⟩ | ⟨error, later, refused, unchanged, disturbed⟩
      · rcases ih (index + 1) changed.here with
          ⟨written, sent, ending, later, progress, onward, changedLater, calmLater⟩
        refine ⟨_, _, ending, later, .wrote progress, ?_, changed.trans changedLater, ?_⟩
        · exact Program.runs_progress.bind ((wrote.mapFailure failure).bind onward)
        · exact fun calmNow => calmLater (calm calmNow)
      · refine ⟨_, _, _, later, .stopped index position step rest error, ?_,
          .of_unchanged unchanged stored, fun calmNow => absurd calmNow disturbed⟩
        exact Program.runs_progress.bind (refused.mapFailure failure).bind_failed

/-- What a removal is planned to do with an application that was read. -/
def removalPlan? [Item Element] (itemSet : ItemSet Element) (applicationId key : String)
    (application : Json) : Except OperationError (Fetched Element × Removal Element) := do
  let fetched ← itemSet.fetched? applicationId application
  let plan ← (fetched.collection.removeByKey key itemSet.disableFirst).mapError .plan
  return (fetched, plan)

theorem removalPlan?_cases [Item Element] {key : String} {fetched : Fetched Element}
    {plan : Removal Element}
    (planned : removalPlan? itemSet objectId key document = .ok (fetched, plan)) :
    itemSet.fetched? objectId document = .ok fetched ∧
      fetched.collection.removeByKey key itemSet.disableFirst = .ok plan := by
  cases read : itemSet.fetched? objectId document with
  | error error => simp [removalPlan?, read, bind, Except.bind] at planned
  | ok found =>
      cases steps : found.collection.removeByKey key itemSet.disableFirst with
      | error error =>
          simp [removalPlan?, read, steps, bind, Except.bind, Except.mapError] at planned
      | ok removal =>
          obtain ⟨rfl, rfl⟩ : found = fetched ∧ removal = plan := by
            simpa [removalPlan?, read, steps, bind, Except.bind, Except.mapError, pure,
              Except.pure] using planned
          exact ⟨rfl, steps⟩

theorem exists_removalPlan [Item Element] {key : String} {ids : String × String}
    {plan : Removal Element} (identified : applicationIds? document = some ids)
    (extracted : itemSet.extract? document = some collection)
    (planned : collection.removeByKey key itemSet.disableFirst = .ok plan) :
    ∃ fetched, removalPlan? itemSet objectId key document = .ok (fetched, plan) := by
  refine ⟨⟨ids.1, ids.2, collection⟩, ?_⟩
  simp [removalPlan?, ItemSet.fetched?, identified, extracted, planned, bind, Except.bind,
    Except.mapError, pure, Except.pure]

/-- A removal that is not planned has not failed at a write. -/
theorem not_write_of_removalPlan? [Item Element] {key : String} {error : OperationError}
    (refused : removalPlan? itemSet objectId key document = .error error)
    (failure : WriteFailure) (cause : RemoteError) : error ≠ .write failure cause := by
  cases read : itemSet.fetched? objectId document with
  | error decoding =>
      obtain rfl : decoding = error := by
        simpa [removalPlan?, read, bind, Except.bind] using refused
      unfold ItemSet.fetched? at read
      split at read
      · simp only [Except.error.injEq] at read
        simp [← read]
      · simp only [Except.error.injEq] at read
        simp [← read]
      · simp at read
  | ok fetched =>
      cases planned : fetched.collection.removeByKey key itemSet.disableFirst with
      | error planning =>
          obtain rfl : .plan planning = error := by
            simpa [removalPlan?, read, planned, bind, Except.bind, Except.mapError] using refused
          simp
      | ok plan =>
          simp [removalPlan?, read, planned, bind, Except.bind, Except.mapError, pure,
            Except.pure] at refused

/-- A removal is refused at its first request, or not planned and ended, or its steps are written
up to the first failure. -/
theorem removeItem_runs [Item Element] (below : itemSet.path ≠ []) (key : String)
    (stored : now.state.document? (directory.applicationUrl objectId) = some (.object members))
    (ownId : Members.find? "id" members = some (.string objectId)) :
    (∃ error later, (directory.removeItem itemSet objectId key).Runs (Client.interrupted schedule)
        now [⟨directory.readRequest itemSet objectId, .error error⟩]
        (.failed (.read (ItemSet.applicationLabel objectId) error)) later ∧
      later.state.documents = now.state.documents ∧ ¬now.state.Calm schedule) ∨
    (∃ error later, removalPlan? itemSet objectId key (.object members) = .error error ∧
      (directory.removeItem itemSet objectId key).Runs (Client.interrupted schedule) now
        [⟨directory.readRequest itemSet objectId, .ok (.object members)⟩] (.failed error) later ∧
      later.state.documents = now.state.documents ∧
      (now.state.Calm schedule → later.state.Calm schedule)) ∨
    ∃ fetched plan written sent ending later,
      removalPlan? itemSet objectId key (.object members) = .ok (fetched, plan) ∧
      Progress directory itemSet objectId plan 0 plan.positioned written sent ending ∧
      (directory.removeItem itemSet objectId key).Runs (Client.interrupted schedule) now
        (⟨directory.readRequest itemSet objectId, .ok (.object members)⟩ :: sent)
        (ending.map fun _ => plan) later ∧
      Replica.DiffersAt (directory.applicationUrl objectId)
        (.object (itemSet.putAll written members)) now.state later.state ∧
      (now.state.Calm schedule → later.state.Calm schedule ∧ ending = .returned ()) := by
  rcases fetch_runs itemSet stored with
    ⟨middle, fetches, unchanged, -, calm⟩ | ⟨error, later, refused, unchanged, disturbed⟩
  · right
    have storedThen : middle.state.document? (directory.applicationUrl objectId) =
        some (.object members) := by
      rw [Replica.document?, unchanged]
      exact stored
    cases read : itemSet.fetched? objectId (.object members) with
    | error error =>
        left
        rw [read] at fetches
        refine ⟨error, middle, ?_, fetches.bind_failed, unchanged, calm⟩
        simp [removalPlan?, read, bind, Except.bind]
    | ok fetched =>
        rw [read] at fetches
        cases planned : fetched.collection.removeByKey key itemSet.disableFirst with
        | error error =>
            left
            refine ⟨.plan error, middle, ?_, fetches.bind (Program.Runs.bind_error planned),
              unchanged, calm⟩
            simp [removalPlan?, read, planned, bind, Except.bind, Except.mapError]
        | ok plan =>
            right
            obtain ⟨objectId_eq, -⟩ := ItemSet.fetched?_cases read
              (by simpa [Json.get?, Json.members?] using ownId)
            rcases writeSteps_runs below plan 0 plan.positioned storedThen with
              ⟨written, sent, ending, later, progress, writes, changed, calmLater⟩
            refine ⟨fetched, plan, written, sent, ending, later, ?_, progress, ?_, ?_, ?_⟩
            · simp [removalPlan?, read, planned, bind, Except.bind, Except.mapError, pure,
                Except.pure]
            · rw [← objectId_eq] at writes
              exact fetches.bind (Program.Runs.bind_ok planned writes.bind_return)
            · exact (Replica.DiffersAt.of_unchanged unchanged stored).trans changed
            · exact fun calmNow => calmLater (calm calmNow)
  · left
    exact ⟨error, later, refused.bind_failed, unchanged, disturbed⟩

end Directory

end Provision
