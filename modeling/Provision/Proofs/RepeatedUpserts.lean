import Mathlib.Logic.Relation
import Provision.Proofs.PlannedUpserts
import Provision.Proofs.Sessions

/-!
# Upserts that are run again

What an upsert compares with is not what an earlier run planned but what is read
back from the server.  The planned collection is encoded, set in the stored
document, taken out of it again and decoded, and it comes back as it was.  So a
second run finds the collection that it would write, and sends nothing but the
read, and so does every run after it.

A run that finds nothing to do can still be refused its read.  It fails then, and
leaves everything to the next one as it found it.
-/

namespace Provision

open Record (Lossless)

namespace Program

variable {Failure Result : Type}

/-- A run of a program leads a replica from one state to another. -/
def LeadsTo (program : Program Failure Result) (earlier later : Replica) : Prop :=
  ∃ ids messages sent ending last,
    program.Runs Client.replica ⟨earlier, ids, messages⟩ sent ending last ∧ last.state = later

end Program

/-- What a run comes to that finds nothing to do: it sends one request, which reads, and returns
unless a failure is due for that request. -/
structure Idle {Result : Type} (read : Request) (refused : RemoteError → OperationError)
    (result : Result) (earlier : Replica) (sent : List Exchange)
    (ending : Ending OperationError Result) (later : Replica) : Prop where
  requests : sent.map Exchange.request = [read]
  noWrite : sent.filter Exchange.isWrite = []
  ended : ending = match earlier.due? read with
    | none => .returned result
    | some failure =>
      .failed (refused (.refused read.verb read.url failure.status failure.body))
  documents : later.documents = earlier.documents
  quiet : earlier.failures = [] → later.failures = []

/-- However often a program is run from a state on, each run finds nothing to do.  Where no failure
is queued at the start, none is due for any of them. -/
def StaysIdle {Result : Type} (program : Program OperationError Result) (read : Request)
    (refused : RemoteError → OperationError) (result : Result) (start : Replica) : Prop :=
  ∀ state, Relation.ReflTransGen program.LeadsTo start state →
    state.documents = start.documents ∧
    (start.failures = [] → state.due? read = none) ∧
    ∀ ids messages, ∃ sent ending last,
      program.Runs Client.replica ⟨state, ids, messages⟩ sent ending last ∧
      Idle read refused result state sent ending last.state

section Idle

variable {Result : Type} {program : Program OperationError Result} {read : Request}
  {refused : RemoteError → OperationError} {result : Result} {start state : Replica}

theorem Replica.due?_of_quiet (quiet : state.failures = []) : state.due? read = none := by
  rw [due?, quiet, takeFailure]

/-- A run that finds nothing to do does so whatever form its result is put in. -/
theorem Idle.map {Next : Type} (change : Result → Next) {sent : List Exchange}
    {ending : Ending OperationError Result} {later : Replica}
    (idle : Idle read refused result state sent ending later) :
    Idle read refused (change result) state sent (ending.map change) later where
  requests := idle.requests
  noWrite := idle.noWrite
  ended := by
    rw [idle.ended]
    cases state.due? read <;> rfl
  documents := idle.documents
  quiet := idle.quiet

/-- What a run finds nothing to do in are the documents, and it leaves them as they are. -/
theorem staysIdle_of_documents
    (idles : ∀ state ids messages, state.documents = start.documents → ∃ sent ending last,
      program.Runs Client.replica ⟨state, ids, messages⟩ sent ending last ∧
      Idle read refused result state sent ending last.state) :
    StaysIdle program read refused result start := by
  intro state reached
  have kept : state.documents = start.documents ∧ (start.failures = [] → state.failures = []) := by
    induction reached with
    | refl => exact ⟨rfl, id⟩
    | tail _ leads ih =>
        rcases leads with ⟨ids, messages, _, _, _, runs, rfl⟩
        rcases idles _ ids messages ih.1 with ⟨_, _, _, runsIdle, idle⟩
        obtain ⟨-, -, rfl⟩ := runs.unique runsIdle
        exact ⟨idle.documents.trans ih.1, fun quiet => idle.quiet (ih.2 quiet)⟩
  refine ⟨kept.1, fun quiet => Replica.due?_of_quiet (kept.2 quiet), ?_⟩
  intro ids messages
  exact idles state ids messages kept.1

end Idle

namespace Directory

variable {Element Spec Result : Type} [Record Element] {directory : Directory}
  {itemSet : ItemSet Element} {objectId argument : String} {document : Json}
  {members : List (String × Json)} {fetched : Fetched Element} {now middle later : Run Replica}
  {reads sent : List Exchange}

/-- An operation that sends no request after it fetched a collection has nothing to do. -/
theorem idle_of_fetched (next : Fetched Element → Program OperationError Result) {result : Result}
    {state : Replica} {ids : IdSupply} {messages : List String}
    (stored : state.document? (directory.applicationUrl objectId) = some document)
    (read : itemSet.fetched? objectId document = .ok fetched)
    (silent : ∀ now, ∃ ids, (next fetched).Runs Client.replica now [] (.returned result)
      { now with ids }) :
    ∃ sent ending last,
      (directory.fetch itemSet objectId >>= next).Runs Client.replica ⟨state, ids, messages⟩ sent
        ending last ∧
      Idle (directory.readRequest itemSet objectId) (.read (ItemSet.applicationLabel objectId))
        result state sent ending last.state := by
  have storedThere : state.document? (directory.readRequest itemSet objectId).url =
      some document := by
    rw [readRequest, Replica.document?, ofUrl_selection]
    exact stored
  obtain ⟨later, answers, documents, quiet⟩ := Replica.answer_stored rfl storedThere
  let start : Run Replica := ⟨state, ids, messages⟩
  have sends : Client.replica.send (directory.readRequest itemSet objectId) start.state = _ :=
    answers
  have reads := (Program.runs_request sends).mapFailure
    (OperationError.read (ItemSet.applicationLabel objectId))
  rw [fetch_eq]
  cases due : state.due? (directory.readRequest itemSet objectId) with
  | none =>
      rw [due] at reads
      obtain ⟨rest, returns⟩ := silent ⟨later, ids, messages⟩
      have brings : (Program.ofExcept (itemSet.fetched? objectId document)).Runs Client.replica
          ⟨later, ids, messages⟩ [] (.returned fetched) ⟨later, ids, messages⟩ := by
        rw [read]
        exact Program.runs_done
      exact ⟨_, _, _, (reads.bind brings).bind returns, rfl, rfl, by rw [due], documents, quiet⟩
  | some failure =>
      rw [due] at reads
      exact ⟨_, _, _, reads.bind_failed.bind_failed, rfl, rfl, by rw [due], documents, quiet⟩

variable [Item Element] [DecidableEq Element] [Specification Spec Element] {spec : Spec}

/-- An upsert that changes nothing sends nothing. -/
theorem upsertFetched_silent {itemId : String}
    (planned : ∀ newId, fetched.collection.upsert spec newId =
      .ok ⟨fetched.collection, itemId, false⟩) (now : Run Replica) :
    (directory.upsertFetched itemSet fetched spec).Runs Client.replica now []
      (.returned ⟨⟨fetched.collection, itemId, false⟩, false⟩)
      { now with ids := now.ids.rest } := by
  refine Program.runs_freshId.bind (Program.Runs.bind_ok (planned _) ?_)
  simp only [if_true]
  exact Program.runs_done

/-- An upsert that returned was planned, and the planned collection is stored. -/
theorem of_upsertFetched_returned (below : itemSet.path ≠ []) {applied : Applied Element}
    (stored : now.state.document? (directory.applicationUrl fetched.objectId) =
      some (.object members))
    (runs : (directory.upsertFetched itemSet fetched spec).Runs Client.replica now sent
      (.returned applied) later) :
    fetched.collection.upsert spec now.ids.current = .ok applied.upserted ∧
    ∃ written, (written = [] ∧ applied.upserted.collection = fetched.collection ∨
        written = [applied.upserted.collection]) ∧
      later.state.document? (directory.applicationUrl fetched.objectId) =
        some (.object (itemSet.putAll written members)) := by
  rcases runs.of_freshId.of_check with ⟨_, _, _, ⟨⟩, _⟩ | ⟨upserted, planned, goesOn⟩
  by_cases same : upserted.collection = fetched.collection
  · simp only [same, if_true] at goesOn
    obtain ⟨-, ⟨⟩, rfl⟩ := goesOn.unique Program.runs_done
    exact ⟨planned, [], .inl ⟨rfl, same⟩, stored⟩
  · let message : String := (if upserted.wasCreated then "adding" else "updating") ++ " "
      ++ itemSet.label ++ " '" ++ Specification.key spec ++ "'"
    let announced : Run Replica :=
      { now with ids := now.ids.rest, messages := now.messages ++ [message] }
    have storedThen : announced.state.document? (directory.applicationUrl fetched.objectId) =
        some (.object members) := stored
    have wrote := @write_runs _ _ directory itemSet (fun _ => none) announced fetched.objectId
      members upserted.collection below storedThen
    simp only [same, if_false] at goesOn
    rw [Client.interrupted_never] at wrote
    rcases wrote with ⟨last, writes, changed, -⟩ | ⟨error, last, refused, -, -⟩
    · obtain ⟨-, ⟨⟩, rfl⟩ := goesOn.unique
        (Program.runs_progress.bind ((writes.mapFailure _).bind Program.runs_done))
      exact ⟨planned, _, .inr rfl, changed.here⟩
    · obtain ⟨-, ⟨⟩, -⟩ := goesOn.unique
        (Program.runs_progress.bind (refused.mapFailure _).bind_failed)

theorem ids_of_applicationIds? {appId : String}
    (identified : applicationIds? (.object members) = some (objectId, appId)) :
    Members.find? "id" members = some (.string objectId) ∧
      Json.withDefault Json.text? "" "appId" members = some appId := by
  simp only [applicationIds?, Json.fields?, Json.required, Option.bind_eq_bind, Option.bind_some,
    Option.bind_eq_some_iff, Option.pure_def, Option.some.injEq, Prod.mk.injEq] at identified
  rcases identified with ⟨_, ⟨found, isMember, isText⟩, _, appIdFound, rfl, rfl⟩
  refine ⟨?_, appIdFound⟩
  cases found with
  | string text =>
      obtain rfl : text = _ := Option.some.inj isText
      exact isMember
  | _ => cases isText

/-- What is fetched after an upsert that returned is the planned collection, and there is nothing
left in it to do. -/
theorem fetched_after_upsert [Item.Durable Element] [Specification.Durable Spec]
    [Specification.Keyed Spec] [Specification.Stable Spec] (below : itemSet.path ≠ [])
    (apart : "id" ≠ itemSet.root ∧ "appId" ≠ itemSet.root) {applied : Applied Element}
    (stored : now.state.document? (directory.applicationUrl objectId) = some document)
    (ordered : document.Ordered) (ownId : document.get? "id" = some (.string objectId))
    (fetches : (directory.fetch itemSet objectId).Runs Client.replica now reads (.returned fetched)
      middle)
    (runs : (directory.upsertFetched itemSet fetched spec).Runs Client.replica middle sent
      (.returned applied) later) :
    ∃ documentLater,
      later.state.document? (directory.applicationUrl objectId) = some documentLater ∧
      itemSet.fetched? objectId documentLater =
        .ok { fetched with collection := applied.upserted.collection } ∧
      ∀ newId, applied.upserted.collection.upsert spec newId =
        .ok { applied.upserted with wasCreated := false } := by
  obtain ⟨read, unchanged⟩ : itemSet.fetched? objectId document = .ok fetched ∧
      middle.state.documents = now.state.documents := by
    have fetched_runs := @fetch_runs _ _ directory (fun _ => none) now objectId document itemSet
      stored
    rw [Client.interrupted_never] at fetched_runs
    rcases fetched_runs with ⟨last, brings, documents, -, -⟩ | ⟨error, last, refused, -, -⟩
    · obtain ⟨-, ended, rfl⟩ := fetches.unique brings
      cases read : itemSet.fetched? objectId document with
      | ok found =>
          rw [read] at ended
          cases ended
          exact ⟨rfl, documents⟩
      | error error =>
          rw [read] at ended
          cases ended
    · obtain ⟨-, ⟨⟩, -⟩ := fetches.unique refused
  obtain ⟨rfl, extracted⟩ := ItemSet.fetched?_cases read ownId
  cases document with
  | object members =>
      obtain ⟨idFound, appIdFound⟩ := ids_of_applicationIds? (ItemSet.of_fetched? read).1
      have storedThen : middle.state.document? (directory.applicationUrl fetched.objectId) =
          some (.object members) := by
        rw [Replica.document?, unchanged]
        exact stored
      obtain ⟨planned, written, isWritten, storedLater⟩ :=
        of_upsertFetched_returned below storedThen runs
      have lossless : ∀ item ∈ applied.upserted.collection.items, Lossless item :=
        Collection.lossless_upsert (ItemSet.lossless_items_of_extract? ordered extracted) planned
      have extractedLater : itemSet.extract? (.object (itemSet.putAll written members)) =
          some applied.upserted.collection := by
        rcases isWritten with ⟨rfl, same⟩ | rfl
        · rw [same]
          exact extracted
        · exact ItemSet.extract?_put below lossless
      refine ⟨_, storedLater, ?_, Collection.upsert_again planned⟩
      apply ItemSet.fetched?_of_extract? _ _ extractedLater
      · rw [ItemSet.find?_putAll_of_ne apart.1]
        exact idFound
      · rw [Json.withDefault, ItemSet.find?_putAll_of_ne apart.2]
        exact appIdFound
  | _ => simp [Json.get?, Json.members?] at ownId

theorem upsertScope_staysIdle {spec : ScopeSpec} {reported : ScopeUpserted}
    (stored : now.state.document? (directory.applicationUrl (Text.trim argument)) = some document)
    (ordered : document.Ordered)
    (ownId : document.get? "id" = some (.string (Text.trim argument)))
    (runs : (directory.upsertScope argument spec).Runs Client.replica now sent
      (.returned reported) later) :
    StaysIdle (directory.upsertScope argument spec)
      (directory.readRequest ItemSet.permissionScopes (Text.trim argument))
      (.read (ItemSet.applicationLabel (Text.trim argument)))
      { reported with wasCreated := false, written := false } later.state := by
  rcases runs.of_check with ⟨_, _, _, ⟨⟩, _⟩ | ⟨trimmed, accepted, upserts⟩
  obtain ⟨rfl, given⟩ := Argument.eq_trim_of_required accepted
  rcases upserts.of_bind with ⟨_, _, applied, last, -, item, reports⟩ | ⟨_, ⟨⟩, _⟩ | ⟨⟨⟩, _⟩
  obtain ⟨-, ⟨⟩, rfl⟩ := reports.unique Program.runs_done
  rcases item.of_check with ⟨_, _, _, ⟨⟩, _⟩ | ⟨_, valid, fetchesFirst⟩
  rcases fetchesFirst.of_bind with ⟨_, _, fetched, _, -, fetches, applies⟩ | ⟨_, ⟨⟩, _⟩ | ⟨⟨⟩, _⟩
  obtain ⟨documentLater, storedLater, read, again⟩ := fetched_after_upsert
    ItemSet.below_permissionScopes (by decide) stored ordered ownId fetches applies
  apply staysIdle_of_documents
  intro state ids messages unchanged
  have storedThen : state.document? (directory.applicationUrl (Text.trim argument)) =
      some documentLater := by
    rw [Replica.document?, unchanged]
    exact storedLater
  have silent (now : Run Replica) : ∃ ids,
      (directory.upsertFetched ItemSet.permissionScopes
        { fetched with collection := applied.upserted.collection } spec).Runs Client.replica now []
        (.returned ⟨{ applied.upserted with wasCreated := false }, false⟩) { now with ids } :=
    ⟨_, upsertFetched_silent again now⟩
  obtain ⟨sent, ending, last, idles, idle⟩ := idle_of_fetched
    (fun fetched => directory.upsertFetched ItemSet.permissionScopes fetched spec) storedThen read
    silent
  have upsertsAgain : (directory.upsertItem ItemSet.permissionScopes (Text.trim argument)
      spec).Runs Client.replica ⟨state, ids, messages⟩ sent ending last :=
    Program.Runs.bind_ok valid idles
  exact ⟨sent, _, last, Program.Runs.bind_ok accepted upsertsAgain.bind_return,
    idle.map fun applied => ScopeUpserted.mk (Text.trim argument) spec.value
      applied.upserted.itemId applied.upserted.wasCreated applied.written⟩

/-- What is wrong with a URI that is given, if anything is. -/
def checkUri : Option String → Except PlanError Unit
  | some uri => Specification.validate (UriSpec.mk (Text.trim uri))
  | none => .ok ()

/-- A URI that is given is checked before the application is fetched, and the other one is made
after that; otherwise there is no difference between them. -/
theorem addIdentifierUri_eq {uri : Option String} :
    directory.addIdentifierUri argument uri = do
      let applicationId ← Argument.required "app_object_id" argument
      checkUri uri
      let fetched ← directory.fetch ItemSet.identifierUris applicationId
      let spec ← UriSpec.requested fetched.appId uri
      let applied ← directory.upsertFetched ItemSet.identifierUris fetched spec
      return {
        applicationId
        uri := spec.uri
        wasCreated := applied.upserted.wasCreated
        written := applied.written } := by
  cases uri with
  | some text => rfl
  | none =>
      refine congrArg (Program.bind _) (funext fun applicationId => ?_)
      refine congrArg (Program.bind _) (funext fun fetched => ?_)
      simp only [UriSpec.requested]
      cases Argument.required "app_id" fetched.appId with
      | error _ => rfl
      | ok _ => rfl

theorem addIdentifierUri_staysIdle {uri : Option String} {reported : UriAdded}
    (stored : now.state.document? (directory.applicationUrl (Text.trim argument)) = some document)
    (ordered : document.Ordered)
    (ownId : document.get? "id" = some (.string (Text.trim argument)))
    (runs : (directory.addIdentifierUri argument uri).Runs Client.replica now sent
      (.returned reported) later) :
    StaysIdle (directory.addIdentifierUri argument uri)
      (directory.readRequest ItemSet.identifierUris (Text.trim argument))
      (.read (ItemSet.applicationLabel (Text.trim argument)))
      { reported with wasCreated := false, written := false } later.state := by
  rw [addIdentifierUri_eq] at runs ⊢
  rcases runs.of_check with ⟨_, _, _, ⟨⟩, _⟩ | ⟨trimmed, accepted, validated⟩
  obtain ⟨rfl, given⟩ := Argument.eq_trim_of_required accepted
  rcases validated.of_check with ⟨_, _, _, ⟨⟩, _⟩ | ⟨_, valid, fetchesFirst⟩
  rcases fetchesFirst.of_bind with ⟨_, _, fetched, _, -, fetches, goesOn⟩ | ⟨_, ⟨⟩, _⟩ | ⟨⟨⟩, _⟩
  rcases goesOn.of_check with ⟨_, _, _, ⟨⟩, _⟩ | ⟨spec, specified, adds⟩
  rcases adds.of_bind with ⟨_, _, applied, last, -, applies, reports⟩ | ⟨_, ⟨⟩, _⟩ | ⟨⟨⟩, _⟩
  obtain ⟨-, ⟨⟩, rfl⟩ := reports.unique Program.runs_done
  obtain ⟨documentLater, storedLater, read, again⟩ := fetched_after_upsert
    ItemSet.below_identifierUris (by decide) stored ordered ownId fetches applies
  apply staysIdle_of_documents
  intro state ids messages unchanged
  have storedThen : state.document? (directory.applicationUrl (Text.trim argument)) =
      some documentLater := by
    rw [Replica.document?, unchanged]
    exact storedLater
  obtain ⟨sent, ending, last, idles, idle⟩ := idle_of_fetched
    (fun fetched => do
      let spec ← UriSpec.requested fetched.appId uri
      let applied ← directory.upsertFetched ItemSet.identifierUris fetched spec
      return UriAdded.mk (Text.trim argument) spec.uri applied.upserted.wasCreated applied.written)
    storedThen read
    fun now => ⟨_, Program.Runs.bind_ok specified (upsertFetched_silent again now).bind_return⟩
  exact ⟨sent, ending, last,
    Program.Runs.bind_ok accepted (Program.Runs.bind_ok valid idles), idle⟩

/-- A scope or an identifier URI that was upserted once is never written again by the same call, and
every run that gets its read answered reports it as it was reported first. -/
theorem upserts_idempotent (directory : Directory) (now : Run Replica) (argument objectId : String)
    (document : Json) (named : Text.trim argument = objectId)
    (stored : now.state.document? (directory.applicationUrl objectId) = some document)
    (ordered : document.Ordered) (ownId : document.get? "id" = some (.string objectId)) :
    (∀ spec reported sent later,
      (directory.upsertScope argument spec).Runs Client.replica now sent (.returned reported)
        later →
      StaysIdle (directory.upsertScope argument spec)
        (directory.readRequest ItemSet.permissionScopes objectId)
        (.read (ItemSet.applicationLabel objectId))
        { reported with wasCreated := false, written := false } later.state) ∧
    ∀ uri reported sent later,
      (directory.addIdentifierUri argument uri).Runs Client.replica now sent (.returned reported)
        later →
      StaysIdle (directory.addIdentifierUri argument uri)
        (directory.readRequest ItemSet.identifierUris objectId)
        (.read (ItemSet.applicationLabel objectId))
        { reported with wasCreated := false, written := false } later.state := by
  subst named
  exact ⟨fun _ _ _ _ => upsertScope_staysIdle stored ordered ownId,
    fun _ _ _ _ => addIdentifierUri_staysIdle stored ordered ownId⟩

/-- The definition of a scope that can be written. -/
def readSpec : ScopeSpec := {
  value := "read"
  adminConsentDisplayName := some "Read"
  adminConsentDescription := some "Read all" }

/-- A run against an application without scopes and identifier URIs. -/
def sampleStart : Run Replica := ⟨Provision.sampleHolder, sampleIds, []⟩

/-- A scope and the URI made of the client id are written once. -/
theorem upserts_idempotent_sample :
    (∃ sent later,
      ((⟨"https://directory", 1⟩ : Directory).upsertScope " a1" readSpec).Runs Client.replica
        sampleStart sent (.returned ⟨"a1", "read", "s1", true, true⟩) later ∧
      StaysIdle ((⟨"https://directory", 1⟩ : Directory).upsertScope " a1" readSpec)
        ⟨.get, "https://directory/applications/a1?$select=id,appId,api", none⟩
        (.read "application 'a1'") ⟨"a1", "read", "s1", false, false⟩ later.state) ∧
    ∃ sent later,
      ((⟨"https://directory", 1⟩ : Directory).addIdentifierUri "a1" none).Runs Client.replica
        sampleStart sent (.returned ⟨"a1", "api://c1", true, true⟩) later ∧
      StaysIdle ((⟨"https://directory", 1⟩ : Directory).addIdentifierUri "a1" none)
        ⟨.get, "https://directory/applications/a1?$select=id,appId,identifierUris", none⟩
        (.read "application 'a1'") ⟨"a1", "api://c1", false, false⟩ later.state := by
  have ordered : (Json.object [("appId", .string "c1"), ("id", .string "a1")]).Ordered := by decide
  have stored : sampleStart.state.document?
      ((⟨"https://directory", 1⟩ : Directory).applicationUrl "a1") =
        some (.object [("appId", .string "c1"), ("id", .string "a1")]) := by
    decide +kernel
  constructor
  · have ends : (((⟨"https://directory", 1⟩ : Directory).upsertScope " a1" readSpec).run
        Client.replica sampleStart).1 = .returned ⟨"a1", "read", "s1", true, true⟩ := by
      decide +kernel
    refine ⟨_, _, Program.runs_of_ending ends, ?_⟩
    exact (upserts_idempotent ⟨"https://directory", 1⟩ sampleStart " a1" "a1" _ rfl stored ordered
      rfl).1 readSpec _ _ _ (Program.runs_of_ending ends)
  · have ends : (((⟨"https://directory", 1⟩ : Directory).addIdentifierUri "a1" none).run
        Client.replica sampleStart).1 = .returned ⟨"a1", "api://c1", true, true⟩ := by
      decide +kernel
    refine ⟨_, _, Program.runs_of_ending ends, ?_⟩
    exact (upserts_idempotent ⟨"https://directory", 1⟩ sampleStart "a1" "a1" _ rfl stored ordered
      rfl).2 none _ _ _ (Program.runs_of_ending ends)

/-- A failure that lets the first read pass is due for the second one, so the upsert that succeeded
fails when it is run again. -/
theorem upsertScope_rerun_refused :
    let application := Json.object [("appId", .string "c1"), ("id", .string "a1")]
    let held := Provision.sampleHolder.withFailure ⟨.get, "a1", 1, 503, "busy"⟩
    let upsert := (⟨"https://directory", 1⟩ : Directory).upsertScope "a1" readSpec
    let first := upsert.run Client.replica ⟨held, sampleIds, []⟩
    held.document? "https://directory/applications/a1" = some application ∧
      application.get? "id" = some (.string "a1") ∧
      ItemSet.permissionScopes.extract? application = some ⟨[]⟩ ∧
      first.1 = .returned ⟨"a1", "read", "s1", true, true⟩ ∧
      (upsert.run Client.replica ⟨first.2.state, sampleIds, []⟩).1 =
        .failed (.read "application 'a1'"
          (.refused .get "https://directory/applications/a1?$select=id,appId,api" 503 "busy")) := by
  decide +kernel

end Directory

end Provision
