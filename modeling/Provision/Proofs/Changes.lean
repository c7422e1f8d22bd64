import Provision.Directory.IdentifierUris
import Provision.Proofs.TwoPhaseRemoval

/-!
# Changes of the attributes of an application

Four operations change the scopes or the identifier URIs of an application.
Each of them fetches, decodes, plans, encodes and writes anew; what all of this
comes to is the plan alone.  `Attributes.plan` knows of no documents and no
requests, and a run without failures ends, writes and leaves the application as
it says.
-/

namespace Provision

open Record (Lossless)

/-- A change of an attribute of an application. -/
inductive Change where
  | upsertScope (spec : ScopeSpec)
  | removeScope (value : String)
  | addUri (uri : Option String)
  | removeUri (uri : String)

/-- What a change reports: the item it is about, and whether it is a new one. -/
inductive Outcome where
  | upserted (id : String) (wasCreated : Bool)
  | removed (id : String)
deriving DecidableEq

/-- The operation that makes a change. -/
def Directory.change (directory : Directory) (applicationId : String) :
    Change → Program OperationError Outcome
  | .upsertScope spec => do
    let upserted ← directory.upsertScope applicationId spec
    return .upserted upserted.scopeId upserted.wasCreated
  | .removeScope value => do
    let removed ← directory.removeScope applicationId value
    return .removed removed.scopeId
  | .addUri uri => do
    let added ← directory.addIdentifierUri applicationId uri
    return .upserted added.uri added.wasCreated
  | .removeUri uri => do
    let removed ← directory.removeIdentifierUri applicationId uri
    return .removed removed.uri

/-- The attributes of an application that the changes read and write. -/
structure Attributes where
  appId : String
  scopes : Collection Scope
  uris : Collection IdentifierUri

/-- A planned change: what it reports, what it makes of the attributes, and the number of its
writes. -/
structure PlannedChange where
  outcome : Outcome
  attributes : Attributes
  patches : Nat

/-- The collection of the last step of a removal. -/
def Removal.last {Element : Type} (removal : Removal Element) (collection : Collection Element) :
    Collection Element :=
  (removal.steps.map Step.collection).getLastD collection

/-- The URI to be added; when none is given, the one made of the client id. -/
def UriSpec.requested (appId : String) : Option String → Except PlanError UriSpec
  | some uri => .ok ⟨Text.trim uri⟩
  | none => (Argument.required "app_id" appId).map UriSpec.ofApp

namespace Attributes

/-- Plans a change of the attributes. -/
def plan (attributes : Attributes) (newId : String) : Change → Except PlanError PlannedChange
  | .upsertScope spec => do
    let upserted ← attributes.scopes.upsert spec newId
    return {
      outcome := .upserted upserted.itemId upserted.wasCreated
      attributes := { attributes with scopes := upserted.collection }
      patches := if upserted.collection = attributes.scopes then 0 else 1 }
  | .removeScope value => do
    let value ← Argument.required "value" value
    let removal ← attributes.scopes.removeByKey value true
    return {
      outcome := .removed removal.targetId
      attributes := { attributes with scopes := removal.last attributes.scopes }
      patches := removal.steps.length }
  | .addUri uri => do
    let spec ← UriSpec.requested attributes.appId uri
    let upserted ← attributes.uris.upsert spec newId
    return {
      outcome := .upserted upserted.itemId upserted.wasCreated
      attributes := { attributes with uris := upserted.collection }
      patches := if upserted.collection = attributes.uris then 0 else 1 }
  | .removeUri uri => do
    let uri ← Argument.required "uri" uri
    let removal ← attributes.uris.removeByKey uri false
    return {
      outcome := .removed removal.targetId
      attributes := { attributes with uris := removal.last attributes.uris }
      patches := removal.steps.length }

def ofDocument? (document : Json) : Option Attributes := do
  let (_, appId) ← Directory.applicationIds? document
  let scopes ← ItemSet.permissionScopes.extract? document
  let uris ← ItemSet.identifierUris.extract? document
  return ⟨appId, scopes, uris⟩

end Attributes

/-- A run leaves a collection of an application with other items after a number of writes, and
leaves everything else as it was. -/
structure Settled {Element : Type} [Record Element] (directory : Directory)
    (itemSet : ItemSet Element) (objectId : String) (members : List (String × Json))
    (current next : Collection Element) (patches : Nat) (sent : List Exchange)
    (earlier later : Replica) : Prop where
  verbs : (sent.filter Exchange.isWrite).map (·.request.verb) = List.replicate patches .patch
  quiet : later.failures = []
  stored : ∃ written, Replica.DiffersAt (directory.applicationUrl objectId)
      (.object (itemSet.putAll written members)) earlier later ∧
    (∀ collection ∈ written, ∀ item ∈ collection.items, Lossless item) ∧
    written.getLastD current = next

/-- A replica without failures due holds an application with a collection in it. -/
structure Offers {Element : Type} [Record Element] (directory : Directory)
    (itemSet : ItemSet Element) (objectId appId : String) (members : List (String × Json))
    (current : Collection Element) (replica : Replica) : Prop where
  quiet : replica.failures = []
  stored : replica.document? (directory.applicationUrl objectId) = some (.object members)
  id : Members.find? "id" members = some (.string objectId)
  appId : Json.withDefault Json.text? "" "appId" members = some appId
  extracted : itemSet.extract? (.object members) = some current
  lossless : ∀ item ∈ current.items, Lossless item

section Runs

variable {Element : Type} [Record Element] {directory : Directory} {itemSet : ItemSet Element}
  {objectId appId : String} {members : List (String × Json)} {current next : Collection Element}
  {patches : Nat} {sent : List Exchange} {now : Run Replica} {earlier middle later : Replica}

theorem Offers.calm (offers : Offers directory itemSet objectId appId members current earlier) :
    earlier.Calm fun _ => none := ⟨fun _ => rfl, offers.quiet⟩

theorem Offers.of_unchanged
    (offers : Offers directory itemSet objectId appId members current earlier)
    (unchanged : later.documents = earlier.documents) (quiet : later.failures = []) :
    Offers directory itemSet objectId appId members current later where
  quiet := quiet
  stored := by
    rw [Replica.document?, unchanged]
    exact offers.stored
  id := offers.id
  appId := offers.appId
  extracted := offers.extracted
  lossless := offers.lossless

/-- A run that sends no write leaves the collection as it is. -/
theorem Offers.settled (offers : Offers directory itemSet objectId appId members current earlier)
    (unchanged : later.documents = earlier.documents) (quiet : later.failures = [])
    (noWrite : sent.filter Exchange.isWrite = []) :
    Settled directory itemSet objectId members current current 0 sent earlier later where
  verbs := by simp [noWrite]
  quiet := quiet
  stored := ⟨[], .of_unchanged unchanged offers.stored, by simp, rfl⟩

theorem Settled.after_read {read : Exchange} (isRead : read.isWrite = false)
    (unchanged : middle.documents = earlier.documents)
    (settled : Settled directory itemSet objectId members current next patches sent middle later) :
    Settled directory itemSet objectId members current next patches (read :: sent) earlier
      later where
  verbs := by simpa [isRead] using settled.verbs
  quiet := settled.quiet
  stored := by
    rcases settled.stored with ⟨written, changed, lossless, last⟩
    refine ⟨written, ⟨changed.here, ?_⟩, lossless, last⟩
    intro other apart
    rw [changed.elsewhere other apart, Replica.document?, unchanged, Replica.document?]

theorem verbs_of_writeRequests {written : List (Collection Element)}
    (requests : sent.map Exchange.request =
      written.map (directory.writeRequest itemSet objectId)) :
    (sent.filter Exchange.isWrite).map (·.request.verb) =
      List.replicate written.length .patch := by
  have patches : ∀ exchange ∈ sent, exchange.request.verb = .patch := by
    intro exchange exchange_mem
    have request_mem : exchange.request ∈ sent.map Exchange.request :=
      List.mem_map_of_mem exchange_mem
    rw [requests] at request_mem
    rcases List.mem_map.mp request_mem with ⟨collection, _, request_eq⟩
    rw [← request_eq]
    rfl
  have allWrites : sent.filter Exchange.isWrite = sent := by
    rw [List.filter_eq_self]
    intro exchange exchange_mem
    simp [Exchange.isWrite, Request.isWrite, patches exchange exchange_mem]
  have sameLength : sent.length = written.length := by
    simpa using congrArg List.length requests
  rw [allWrites, ← sameLength, List.eq_replicate_iff]
  refine ⟨by simp, ?_⟩
  simpa using patches

/-- Fetching a collection of a stored application brings it and changes nothing. -/
theorem Offers.fetch_runs
    (offers : Offers directory itemSet objectId appId members current now.state) :
    ∃ middle, (directory.fetch itemSet objectId).Runs Client.replica now
        [⟨directory.readRequest itemSet objectId, .ok (.object members)⟩]
        (.returned ⟨objectId, appId, current⟩) middle ∧
      middle.state.documents = now.state.documents ∧ middle.ids = now.ids ∧
      Offers directory itemSet objectId appId members current middle.state := by
  rcases Directory.fetch_runs itemSet offers.stored with
    ⟨middle, runs, unchanged, sameIds, calm⟩ | ⟨_, _, -, -, disturbed⟩
  · have quietThen := (calm offers.calm).noneDue
    rw [ItemSet.fetched?_of_extract? offers.id offers.appId offers.extracted] at runs
    exact ⟨middle, runs, unchanged, sameIds, offers.of_unchanged unchanged quietThen⟩
  · exact absurd offers.calm disturbed

variable [Item Element]

/-- The upsert of an item of a fetched collection does what its plan says. -/
theorem Offers.upsertFetched_runs {Spec : Type} [DecidableEq Element] [Specification Spec Element]
    [Specification.Durable Spec] (below : itemSet.path ≠ [])
    (offers : Offers directory itemSet objectId appId members current now.state) {spec : Spec}
    {upserted : Upserted Element}
    (planned : current.upsert spec now.ids.current = .ok upserted) :
    ∃ sent later,
      (directory.upsertFetched itemSet ⟨objectId, appId, current⟩ spec).Runs Client.replica now sent
        (.returned ⟨upserted, upserted.collection ≠ current⟩) later ∧
      Settled directory itemSet objectId members current upserted.collection
        (if upserted.collection = current then 0 else 1) sent now.state later.state := by
  rcases Directory.upsertFetched_runs below ⟨objectId, appId, current⟩ offers.calm offers.stored
      planned with
    ⟨written, sent, later, written_eq, runs, requests, changed, calm⟩
  refine ⟨sent, later, runs, ?_, calm.noneDue, written, changed, ?_, ?_⟩
  · rw [verbs_of_writeRequests requests, written_eq]
    split <;> rfl
  · intro collection written_mem
    have collection_eq : collection = upserted.collection := by
      rw [written_eq] at written_mem
      split at written_mem
      · simp at written_mem
      · simpa using written_mem
    rw [collection_eq]
    exact Collection.lossless_upsert offers.lossless planned
  · rw [written_eq]
    split
    next same => exact same.symm
    next => rfl

theorem Offers.removeItem_runs [Item.Durable Element] (below : itemSet.path ≠ [])
    (offers : Offers directory itemSet objectId appId members current now.state) {key : String}
    {plan : Removal Element}
    (planned : current.removeByKey key itemSet.disableFirst = .ok plan) :
    ∃ sent later,
      (directory.removeItem itemSet objectId key).Runs Client.replica now sent (.returned plan)
        later ∧
      Settled directory itemSet objectId members current (plan.last current) plan.steps.length sent
        now.state later.state := by
  have isPlanned : Directory.removalPlan? itemSet objectId key (.object members) =
      .ok (⟨objectId, appId, current⟩, plan) := by
    simp [Directory.removalPlan?,
      ItemSet.fetched?_of_extract? offers.id offers.appId offers.extracted, planned, bind,
      Except.bind, Except.mapError, pure, Except.pure]
  rcases Directory.removeItem_runs below key offers.stored offers.id with
    ⟨_, _, -, -, disturbed⟩ | ⟨_, _, refused, -⟩ |
      ⟨fetched, found, written, sent, ending, later, foundPlan, progress, runs, changed, calm⟩
  · exact absurd offers.calm disturbed
  · simp [isPlanned] at refused
  · obtain ⟨rfl, rfl⟩ : _ = fetched ∧ plan = found := by simpa [isPlanned] using foundPlan
    rcases calm offers.calm with ⟨calmLater, rfl⟩
    rcases progress.of_returned rfl with ⟨written_eq, requests⟩
    rw [Removal.map_snd_positioned] at written_eq
    refine ⟨_, later, runs, .after_read rfl rfl ?_⟩
    refine ⟨?_, calmLater.noneDue, written, changed, ?_, ?_⟩
    · rw [verbs_of_writeRequests requests, written_eq, List.length_map]
    · intro collection written_mem
      rcases progress.exists_step_of_mem written_mem with ⟨step, step_mem, rfl⟩
      rw [Removal.map_snd_positioned] at step_mem
      exact Collection.lossless_removal offers.lossless planned step_mem
    · rw [written_eq, Removal.last]

theorem Offers.removeItem_refused (below : itemSet.path ≠ [])
    (offers : Offers directory itemSet objectId appId members current now.state) {key : String}
    {error : PlanError} (refused : current.removeByKey key itemSet.disableFirst = .error error) :
    ∃ sent later,
      (directory.removeItem itemSet objectId key).Runs Client.replica now sent
        (.failed (.plan error)) later ∧
      Settled directory itemSet objectId members current current 0 sent now.state later.state := by
  have notPlanned : Directory.removalPlan? itemSet objectId key (.object members) =
      .error (.plan error) := by
    simp [Directory.removalPlan?,
      ItemSet.fetched?_of_extract? offers.id offers.appId offers.extracted, refused, bind,
      Except.bind, Except.mapError]
  rcases Directory.removeItem_runs below key offers.stored offers.id with
    ⟨_, _, -, -, disturbed⟩ | ⟨found, later, foundError, runs, unchanged, calm⟩ |
      ⟨_, _, _, _, _, _, planned, -⟩
  · exact absurd offers.calm disturbed
  · obtain rfl : .plan error = found := by simpa [notPlanned] using foundError
    exact ⟨_, later, runs, offers.settled unchanged (calm offers.calm).noneDue rfl⟩
  · simp [notPlanned] at planned

end Runs

/-- The members of an application show its attributes. -/
structure Bears (members : List (String × Json)) (objectId : String) (attributes : Attributes) :
    Prop where
  id : Members.find? "id" members = some (.string objectId)
  appId : Json.withDefault Json.text? "" "appId" members = some attributes.appId
  scopes : ItemSet.permissionScopes.extract? (.object members) = some attributes.scopes
  uris : ItemSet.identifierUris.extract? (.object members) = some attributes.uris
  lossless : ∀ scope ∈ attributes.scopes.items, Lossless scope

/-- A run leaves an application with certain attributes after a number of writes, and leaves
everything else as it was. -/
structure Became (directory : Directory) (objectId : String) (attributes : Attributes)
    (patches : Nat) (sent : List Exchange) (earlier later : Replica) : Prop where
  verbs : (sent.filter Exchange.isWrite).map (·.request.verb) = List.replicate patches .patch
  quiet : later.failures = []
  stored : ∃ members, Replica.DiffersAt (directory.applicationUrl objectId) (.object members)
    earlier later ∧ Bears members objectId attributes

/-- A run ends as planned and leaves the planned attributes; when the plan is refused it leaves the
old ones. -/
def Follows (directory : Directory) (objectId : String) (attributes : Attributes)
    (planned : Except PlanError PlannedChange) (sent : List Exchange)
    (ending : Ending OperationError Outcome) (earlier later : Replica) : Prop :=
  match planned with
  | .ok planned => ending = .returned planned.outcome ∧
      Became directory objectId planned.attributes planned.patches sent earlier later
  | .error error => ending = .failed (.plan error) ∧
      Became directory objectId attributes 0 sent earlier later

section Changes

variable {directory : Directory} {objectId argument : String} {attributes : Attributes}
  {members : List (String × Json)} {earlier later : Replica} {start : Run Replica}
  {patches : Nat} {sent : List Exchange}

theorem Bears.offers_scopes (bears : Bears members objectId attributes)
    (quiet : earlier.failures = [])
    (stored : earlier.document? (directory.applicationUrl objectId) = some (.object members)) :
    Offers directory ItemSet.permissionScopes objectId attributes.appId members attributes.scopes
      earlier :=
  ⟨quiet, stored, bears.id, bears.appId, bears.scopes, bears.lossless⟩

theorem Bears.offers_uris (bears : Bears members objectId attributes)
    (quiet : earlier.failures = [])
    (stored : earlier.document? (directory.applicationUrl objectId) = some (.object members)) :
    Offers directory ItemSet.identifierUris objectId attributes.appId members attributes.uris
      earlier :=
  ⟨quiet, stored, bears.id, bears.appId, bears.uris, fun _ _ => IdentifierUri.lossless _⟩

/-- New scopes leave the ids and the identifier URIs as they are. -/
theorem Bears.became_scopes (bears : Bears members objectId attributes) {next : Collection Scope}
    (settled : Settled directory ItemSet.permissionScopes objectId members attributes.scopes next
      patches sent earlier later) :
    Became directory objectId { attributes with scopes := next } patches sent earlier later := by
  rcases settled.stored with ⟨written, changed, lossless, rfl⟩
  refine ⟨settled.verbs, settled.quiet, _, changed, ?_⟩
  constructor
  · rw [ItemSet.find?_putAll_of_ne (by decide)]
    exact bears.id
  · rw [Json.withDefault, ItemSet.find?_putAll_of_ne (by decide)]
    exact bears.appId
  · exact ItemSet.extract?_putAll ItemSet.below_permissionScopes lossless bears.scopes
  · rw [ItemSet.extract?_putAll_of_ne ItemSet.below_identifierUris (by decide)]
    exact bears.uris
  · intro scope scope_mem
    rcases List.eq_nil_or_concat written with rfl | ⟨before, last, rfl⟩
    · exact bears.lossless scope scope_mem
    · exact lossless last (by simp) scope (by simpa using scope_mem)

theorem Bears.became_uris (bears : Bears members objectId attributes)
    {next : Collection IdentifierUri}
    (settled : Settled directory ItemSet.identifierUris objectId members attributes.uris next
      patches sent earlier later) :
    Became directory objectId { attributes with uris := next } patches sent earlier later := by
  rcases settled.stored with ⟨written, changed, lossless, rfl⟩
  refine ⟨settled.verbs, settled.quiet, _, changed, ?_⟩
  constructor
  · rw [ItemSet.find?_putAll_of_ne (by decide)]
    exact bears.id
  · rw [Json.withDefault, ItemSet.find?_putAll_of_ne (by decide)]
    exact bears.appId
  · rw [ItemSet.extract?_putAll_of_ne ItemSet.below_permissionScopes (by decide)]
    exact bears.scopes
  · exact ItemSet.extract?_putAll ItemSet.below_identifierUris lossless bears.uris
  · exact bears.lossless

section Entries

variable {client : Client Replica} {now last : Run Replica}
  (given : Text.trim argument ≠ "")
include given

theorem change_upsertScope_runs {spec : ScopeSpec} {ending : Ending OperationError (Applied Scope)}
    (runs : (directory.upsertItem ItemSet.permissionScopes (Text.trim argument) spec).Runs client
      now sent ending last) :
    (directory.change argument (.upsertScope spec)).Runs client now sent
      (ending.map fun applied =>
        .upserted applied.upserted.itemId applied.upserted.wasCreated) last := by
  have upserts : (directory.upsertScope argument spec).Runs client now sent _ last :=
    Program.Runs.bind_ok (Argument.required_of_trim_ne given) runs.bind_return
  have changes : (directory.change argument (.upsertScope spec)).Runs client now sent _ last :=
    upserts.bind_return
  rwa [Ending.map_map] at changes

theorem change_removeScope_runs {value : String} {ending : Ending OperationError (Removal Scope)}
    (valueGiven : Text.trim value ≠ "")
    (runs : (directory.removeItem ItemSet.permissionScopes (Text.trim argument)
      (Text.trim value)).Runs client now sent ending last) :
    (directory.change argument (.removeScope value)).Runs client now sent
      (ending.map fun removal => .removed removal.targetId) last := by
  have changes : (directory.change argument (.removeScope value)).Runs client now sent _ last :=
    (Directory.removeScope_runs given valueGiven runs).bind_return
  rwa [Ending.map_map] at changes

theorem change_removeUri_runs {uri : String}
    {ending : Ending OperationError (Removal IdentifierUri)} (uriGiven : Text.trim uri ≠ "")
    (runs : (directory.removeItem ItemSet.identifierUris (Text.trim argument)
      (Text.trim uri)).Runs client now sent ending last) :
    (directory.change argument (.removeUri uri)).Runs client now sent
      (ending.map fun _ => .removed (Text.trim uri)) last := by
  have removes : (directory.removeIdentifierUri argument uri).Runs client now sent _ last :=
    Program.Runs.bind_ok (Argument.required_of_trim_ne given)
      (Program.Runs.bind_ok (Argument.required_of_trim_ne uriGiven) runs.bind_return)
  have changes : (directory.change argument (.removeUri uri)).Runs client now sent _ last :=
    removes.bind_return
  rwa [Ending.map_map] at changes

theorem change_addUri_runs {uri : Option String} {spec : UriSpec} {middle : Run Replica}
    {fetched : Fetched IdentifierUri} {reads : List Exchange}
    {ending : Ending OperationError (Applied IdentifierUri)}
    (valid : ∀ text, uri = some text →
      Specification.validate (UriSpec.mk (Text.trim text)) = .ok ())
    (fetches : (directory.fetch ItemSet.identifierUris (Text.trim argument)).Runs client now reads
      (.returned fetched) middle)
    (appId : fetched.appId = attributes.appId) (specified : UriSpec.requested attributes.appId uri = .ok spec)
    (runs : (directory.upsertFetched ItemSet.identifierUris fetched spec).Runs client middle sent
      ending last) :
    (directory.change argument (.addUri uri)).Runs client now (reads ++ sent)
      (ending.map fun applied => .upserted spec.uri applied.upserted.wasCreated) last := by
  have adds : (directory.addIdentifierUri argument uri).Runs client now (reads ++ sent)
      (ending.map fun applied => ⟨Text.trim argument, spec.uri, applied.upserted.wasCreated,
        applied.written⟩) last := by
    refine Program.Runs.bind_ok (Argument.required_of_trim_ne given) ?_
    cases uri with
    | some text =>
        obtain rfl : UriSpec.mk (Text.trim text) = spec := by
          simpa [UriSpec.requested] using specified
        exact Program.Runs.bind_ok (valid text rfl) (fetches.bind runs.bind_return)
    | none =>
        rw [UriSpec.requested, ← appId] at specified
        cases appIdGiven : Argument.required "app_id" fetched.appId with
        | error error => simp [appIdGiven, Except.map] at specified
        | ok trimmed =>
            obtain rfl : UriSpec.ofApp trimmed = spec := by
              simpa [appIdGiven, Except.map] using specified
            exact fetches.bind (Program.Runs.bind_ok appIdGiven runs.bind_return)
  have changes : (directory.change argument (.addUri uri)).Runs client now (reads ++ sent) _ last :=
    adds.bind_return
  rwa [Ending.map_map] at changes

end Entries

theorem upsertScope_follows (bears : Bears members objectId attributes)
    (quiet : start.state.failures = [])
    (stored : start.state.document? (directory.applicationUrl objectId) = some (.object members))
    (named : Text.trim argument = objectId) (given : objectId ≠ "") (spec : ScopeSpec) :
    ∃ sent ending later,
      (directory.change argument (.upsertScope spec)).Runs Client.replica start sent ending later ∧
      Follows directory objectId attributes
        (attributes.plan start.ids.current (.upsertScope spec)) sent ending start.state
        later.state := by
  subst named
  have offers := bears.offers_scopes quiet stored
  cases valid : (Specification.validate spec : Except PlanError Unit) with
  | error error =>
      have refused : attributes.plan start.ids.current (.upsertScope spec) = .error error := by
        simp [Attributes.plan, Collection.upsert, valid, bind, Except.bind]
      have checks : (directory.upsertItem ItemSet.permissionScopes (Text.trim argument) spec).Runs
          Client.replica start [] (.failed (.plan error)) start := Program.Runs.bind_error valid
      refine ⟨[], _, start, change_upsertScope_runs given checks, ?_⟩
      rw [refused]
      exact ⟨rfl, bears.became_scopes (offers.settled rfl quiet rfl)⟩
  | ok =>
      rcases offers.fetch_runs with ⟨middle, fetches, unchanged, sameIds, offersThen⟩
      cases planned : attributes.scopes.upsert spec start.ids.current with
      | error error =>
          have refused : attributes.plan start.ids.current (.upsertScope spec) = .error error := by
            simp [Attributes.plan, planned, bind, Except.bind]
          have upserts : (directory.upsertItem ItemSet.permissionScopes (Text.trim argument)
              spec).Runs Client.replica start _ (.failed (.plan error)) _ :=
            Program.Runs.bind_ok valid
              (fetches.bind (Directory.upsertFetched_refused (sameIds ▸ planned)))
          refine ⟨_, _, _, change_upsertScope_runs given upserts, ?_⟩
          rw [refused]
          exact ⟨rfl, bears.became_scopes (offers.settled unchanged offersThen.quiet rfl)⟩
      | ok upserted =>
          have plannedThen : attributes.scopes.upsert spec middle.ids.current = .ok upserted :=
            sameIds ▸ planned
          rcases offersThen.upsertFetched_runs ItemSet.below_permissionScopes plannedThen with
            ⟨sent, later, runs, settled⟩
          have upserts : (directory.upsertItem ItemSet.permissionScopes (Text.trim argument)
              spec).Runs Client.replica start _ (.returned ⟨upserted, _⟩) later :=
            Program.Runs.bind_ok valid (fetches.bind runs)
          refine ⟨_, _, later, change_upsertScope_runs given upserts, ?_⟩
          simp only [Attributes.plan, planned, bind, Except.bind, pure, Except.pure]
          exact ⟨rfl, bears.became_scopes (settled.after_read rfl unchanged)⟩

/-- The item that an upsert of an identifier URI is about has that URI for its id. -/
theorem itemId_of_upsert {uris : Collection IdentifierUri} {spec : UriSpec} {newId : String}
    {upserted : Upserted IdentifierUri} (planned : uris.upsert spec newId = .ok upserted) :
    upserted.itemId = spec.uri := by
  rcases Collection.upsert_cases planned with ⟨_, _, _, holds, rfl⟩ | ⟨_, rfl⟩
  · exact holds.key_eq
  · rfl

theorem addUri_follows (bears : Bears members objectId attributes)
    (quiet : start.state.failures = [])
    (stored : start.state.document? (directory.applicationUrl objectId) = some (.object members))
    (named : Text.trim argument = objectId) (given : objectId ≠ "") (uri : Option String) :
    ∃ sent ending later,
      (directory.change argument (.addUri uri)).Runs Client.replica start sent ending later ∧
      Follows directory objectId attributes
        (attributes.plan start.ids.current (.addUri uri)) sent ending start.state later.state := by
  subst named
  have offers := bears.offers_uris quiet stored
  rcases offers.fetch_runs with ⟨middle, fetches, unchanged, sameIds, offersThen⟩
  cases specified : UriSpec.requested attributes.appId uri with
  | error error =>
      have refused : attributes.plan start.ids.current (.addUri uri) = .error error := by
        simp [Attributes.plan, specified, bind, Except.bind]
      cases uri with
      | some text => simp [UriSpec.requested] at specified
      | none =>
          have blank : Argument.required "app_id" attributes.appId = .error error := by
            cases appIdGiven : Argument.required "app_id" attributes.appId with
            | error found => simpa [UriSpec.requested, appIdGiven, Except.map] using specified
            | ok appId => simp [UriSpec.requested, appIdGiven, Except.map] at specified
          have adds : (directory.addIdentifierUri argument none).Runs Client.replica start _
              (.failed (.plan error)) middle :=
            Program.Runs.bind_ok (Argument.required_of_trim_ne given)
              (fetches.bind (Program.Runs.bind_error blank))
          refine ⟨_, _, _, adds.bind_return, ?_⟩
          rw [refused]
          exact ⟨rfl, bears.became_uris (offers.settled unchanged offersThen.quiet rfl)⟩
  | ok spec =>
      by_cases valid : ∀ text, uri = some text →
          Specification.validate (UriSpec.mk (Text.trim text)) = .ok ()
      · cases planned : attributes.uris.upsert spec start.ids.current with
        | error error =>
            have refused : attributes.plan start.ids.current (.addUri uri) = .error error := by
              simp [Attributes.plan, specified, planned, bind, Except.bind]
            have plannedThen : attributes.uris.upsert spec middle.ids.current = .error error :=
              sameIds ▸ planned
            refine ⟨_, _, _, change_addUri_runs given valid fetches rfl specified
              (Directory.upsertFetched_refused plannedThen), ?_⟩
            rw [refused]
            exact ⟨rfl, bears.became_uris (offers.settled unchanged offersThen.quiet rfl)⟩
        | ok upserted =>
            have plannedThen : attributes.uris.upsert spec middle.ids.current = .ok upserted :=
              sameIds ▸ planned
            rcases offersThen.upsertFetched_runs ItemSet.below_identifierUris plannedThen with
              ⟨sent, later, runs, settled⟩
            refine ⟨_, _, later, change_addUri_runs given valid fetches rfl specified runs, ?_⟩
            simp only [Attributes.plan, specified, planned, bind, Except.bind, pure, Except.pure]
            refine ⟨?_, bears.became_uris (settled.after_read rfl unchanged)⟩
            rw [itemId_of_upsert planned]
            rfl
      · obtain ⟨text, rfl, invalid⟩ : ∃ text, uri = some text ∧
            Specification.validate (UriSpec.mk (Text.trim text)) ≠ .ok () := by
          simpa using valid
        obtain rfl : UriSpec.mk (Text.trim text) = spec := by
          simpa [UriSpec.requested] using specified
        cases checked : Specification.validate (UriSpec.mk (Text.trim text)) with
        | ok => exact absurd checked invalid
        | error error =>
            have refused : attributes.plan start.ids.current (.addUri (some text)) =
                .error error := by
              simp [Attributes.plan, UriSpec.requested, Collection.upsert, checked, bind,
                Except.bind]
            have adds : (directory.addIdentifierUri argument (some text)).Runs Client.replica start
                [] (.failed (.plan error)) start :=
              Program.Runs.bind_ok (Argument.required_of_trim_ne given)
                (Program.Runs.bind_error checked)
            refine ⟨[], _, start, adds.bind_return, ?_⟩
            rw [refused]
            exact ⟨rfl, bears.became_uris (offers.settled rfl quiet rfl)⟩

theorem removeScope_follows (bears : Bears members objectId attributes)
    (quiet : start.state.failures = [])
    (stored : start.state.document? (directory.applicationUrl objectId) = some (.object members))
    (named : Text.trim argument = objectId) (given : objectId ≠ "") (value : String) :
    ∃ sent ending later,
      (directory.change argument (.removeScope value)).Runs Client.replica start sent ending later ∧
      Follows directory objectId attributes
        (attributes.plan start.ids.current (.removeScope value)) sent ending start.state
        later.state := by
  subst named
  have offers := bears.offers_scopes quiet stored
  by_cases blank : Text.trim value = ""
  · have refused : attributes.plan start.ids.current (.removeScope value) =
        .error (.missing "value") := by
      simp [Attributes.plan, Argument.required_of_trim_eq blank, bind, Except.bind]
    have removes : (directory.removeScope argument value).Runs Client.replica start []
        (.failed (.plan (.missing "value"))) start :=
      Program.Runs.bind_ok (Argument.required_of_trim_ne given)
        (Program.Runs.bind_error (Argument.required_of_trim_eq blank))
    refine ⟨[], _, start, removes.bind_return, ?_⟩
    rw [refused]
    exact ⟨rfl, bears.became_scopes (offers.settled rfl quiet rfl)⟩
  · cases planned : attributes.scopes.removeByKey (Text.trim value) true with
    | error error =>
        have refused : attributes.plan start.ids.current (.removeScope value) = .error error := by
          simp [Attributes.plan, Argument.required_of_trim_ne blank, planned, bind, Except.bind]
        rcases offers.removeItem_refused ItemSet.below_permissionScopes planned with
          ⟨sent, later, runs, settled⟩
        refine ⟨sent, _, later, change_removeScope_runs given blank runs, ?_⟩
        rw [refused]
        exact ⟨rfl, bears.became_scopes settled⟩
    | ok removal =>
        rcases offers.removeItem_runs ItemSet.below_permissionScopes planned with
          ⟨sent, later, runs, settled⟩
        refine ⟨sent, _, later, change_removeScope_runs given blank runs, ?_⟩
        simp only [Attributes.plan, Argument.required_of_trim_ne blank, planned, bind, Except.bind,
          pure, Except.pure]
        exact ⟨rfl, bears.became_scopes settled⟩

/-- The removal of an identifier URI takes the item with that URI for its id. -/
theorem targetId_of_removeByKey {uris : Collection IdentifierUri} {uri : String}
    {disableFirst : Bool} {removal : Removal IdentifierUri}
    (planned : uris.removeByKey (Text.trim uri) disableFirst = .ok removal) :
    removal.targetId = Text.trim uri := by
  rcases Collection.removeByKey_cases planned with
    ⟨found, ⟨_, _, holds⟩, before, target, after, _, targetId, -, rfl⟩
  have foundUri : Item.id found = Text.trim uri := holds.key_eq.trans (Text.trim_trim uri)
  rw [foundUri, Text.trim_trim] at targetId
  exact targetId

theorem removeUri_follows (bears : Bears members objectId attributes)
    (quiet : start.state.failures = [])
    (stored : start.state.document? (directory.applicationUrl objectId) = some (.object members))
    (named : Text.trim argument = objectId) (given : objectId ≠ "") (uri : String) :
    ∃ sent ending later,
      (directory.change argument (.removeUri uri)).Runs Client.replica start sent ending later ∧
      Follows directory objectId attributes
        (attributes.plan start.ids.current (.removeUri uri)) sent ending start.state
        later.state := by
  subst named
  have offers := bears.offers_uris quiet stored
  by_cases blank : Text.trim uri = ""
  · have refused : attributes.plan start.ids.current (.removeUri uri) =
        .error (.missing "uri") := by
      simp [Attributes.plan, Argument.required_of_trim_eq blank, bind, Except.bind]
    have removes : (directory.removeIdentifierUri argument uri).Runs Client.replica start []
        (.failed (.plan (.missing "uri"))) start :=
      Program.Runs.bind_ok (Argument.required_of_trim_ne given)
        (Program.Runs.bind_error (Argument.required_of_trim_eq blank))
    refine ⟨[], _, start, removes.bind_return, ?_⟩
    rw [refused]
    exact ⟨rfl, bears.became_uris (offers.settled rfl quiet rfl)⟩
  · cases planned : attributes.uris.removeByKey (Text.trim uri) false with
    | error error =>
        have refused : attributes.plan start.ids.current (.removeUri uri) = .error error := by
          simp [Attributes.plan, Argument.required_of_trim_ne blank, planned, bind, Except.bind]
        rcases offers.removeItem_refused ItemSet.below_identifierUris planned with
          ⟨sent, later, runs, settled⟩
        refine ⟨sent, _, later, change_removeUri_runs given blank runs, ?_⟩
        rw [refused]
        exact ⟨rfl, bears.became_uris settled⟩
    | ok removal =>
        rcases offers.removeItem_runs ItemSet.below_identifierUris planned with
          ⟨sent, later, runs, settled⟩
        refine ⟨sent, _, later, change_removeUri_runs given blank runs, ?_⟩
        simp only [Attributes.plan, Argument.required_of_trim_ne blank, planned, bind, Except.bind,
          pure, Except.pure]
        refine ⟨?_, bears.became_uris settled⟩
        rw [targetId_of_removeByKey planned]
        rfl

/-- Every change of an application follows its plan. -/
theorem change_follows (bears : Bears members objectId attributes)
    (quiet : start.state.failures = [])
    (stored : start.state.document? (directory.applicationUrl objectId) = some (.object members))
    (named : Text.trim argument = objectId) (given : objectId ≠ "") (change : Change) :
    ∃ sent ending later,
      (directory.change argument change).Runs Client.replica start sent ending later ∧
      Follows directory objectId attributes (attributes.plan start.ids.current change) sent ending
        start.state later.state := by
  cases change with
  | upsertScope spec => exact upsertScope_follows bears quiet stored named given spec
  | removeScope value => exact removeScope_follows bears quiet stored named given value
  | addUri uri => exact addUri_follows bears quiet stored named given uri
  | removeUri uri => exact removeUri_follows bears quiet stored named given uri

end Changes

end Provision
