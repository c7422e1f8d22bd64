import Mathlib.Logic.Function.Basic
import Mathlib.Logic.Relation
import Provision.Proofs.Changes
import Provision.Proofs.Contracts

/-!
# Clients that change one application at the same time

Any number of clients change the scopes and the identifier URIs of one
application.  Their requests reach the server in any order, each may be refused
or lost on either way, and nothing tells a client that what it read is stale.
Still the keys of both collections stay distinct: a client only ever writes
collections that it planned from one with distinct keys, and every write
replaces the collection as a whole, so it does not matter whose write it is or
how old it is.

The invariant is therefore about the documents and the programs at once.  The
stored document is safe, and whatever a client still has to do keeps to a
contract: as long as it reads safe documents it sends only changes that keep a
document safe.
-/

namespace Provision

open Record (Lossless)

/-- A replica, and the programs that each client still has to run. -/
structure System (Worker : Type) where
  replica : Replica
  queues : Worker → List (Program OperationError Outcome)

namespace System

variable {Worker : Type} [DecidableEq Worker]

/-- One step of one client. -/
inductive Step : System Worker → System Worker → Prop where
  | answered {system : System Worker} {worker : Worker} {request : Request}
      {next : Except RemoteError Json → Program OperationError Outcome}
      {rest : List (Program OperationError Outcome)}
      (waits : system.queues worker = .send request next :: rest) :
      Step system ⟨(system.replica.answer request).2,
        Function.update system.queues worker (next (system.replica.answer request).1 :: rest)⟩
  /-- The request of a client fails before it has an effect. -/
  | lost {system : System Worker} {worker : Worker} {request : Request}
      {next : Except RemoteError Json → Program OperationError Outcome}
      {rest : List (Program OperationError Outcome)} (error : RemoteError)
      (waits : system.queues worker = .send request next :: rest) :
      Step system ⟨system.replica,
        Function.update system.queues worker (next (.error error) :: rest)⟩
  /-- The request of a client has its effect, but its answer does not come back. -/
  | unheard {system : System Worker} {worker : Worker} {request : Request}
      {next : Except RemoteError Json → Program OperationError Outcome}
      {rest : List (Program OperationError Outcome)} (error : RemoteError)
      (waits : system.queues worker = .send request next :: rest) :
      Step system ⟨(system.replica.answer request).2,
        Function.update system.queues worker (next (.error error) :: rest)⟩
  | reported {system : System Worker} {worker : Worker} {message : String}
      {next : Program OperationError Outcome} {rest : List (Program OperationError Outcome)}
      (waits : system.queues worker = .report message next :: rest) :
      Step system ⟨system.replica, Function.update system.queues worker (next :: rest)⟩
  /-- A client draws an id, not necessarily one that is new to the others. -/
  | drew {system : System Worker} {worker : Worker}
      {next : String → Program OperationError Outcome}
      {rest : List (Program OperationError Outcome)} (id : String)
      (waits : system.queues worker = .fresh next :: rest) :
      Step system ⟨system.replica, Function.update system.queues worker (next id :: rest)⟩
  /-- A client gets to its next program, whatever became of the one before. -/
  | ended {system : System Worker} {worker : Worker} {program : Program OperationError Outcome}
      {rest : List (Program OperationError Outcome)}
      (waits : system.queues worker = program :: rest)
      (isOver : (∃ outcome, program = .done outcome) ∨ (∃ error, program = .fail error) ∨
        program = .exhausted) :
      Step system ⟨system.replica, Function.update system.queues worker rest⟩

/-- The system after a client had its turn without a loss; an id that it draws is the given one. -/
def turn (id : String) (system : System Worker) (worker : Worker) : System Worker :=
  match system.queues worker with
  | [] => system
  | .send request next :: rest =>
    ⟨(system.replica.answer request).2,
      Function.update system.queues worker (next (system.replica.answer request).1 :: rest)⟩
  | .report _ next :: rest =>
    ⟨system.replica, Function.update system.queues worker (next :: rest)⟩
  | .fresh next :: rest =>
    ⟨system.replica, Function.update system.queues worker (next id :: rest)⟩
  | .done _ :: rest | .fail _ :: rest | .exhausted :: rest =>
    ⟨system.replica, Function.update system.queues worker rest⟩

theorem reached_turn (id : String) (system : System Worker) (worker : Worker) :
    Relation.ReflTransGen Step system (system.turn id worker) := by
  unfold turn
  split
  next => exact .refl
  next waits => exact .single (.answered waits)
  next waits => exact .single (.reported waits)
  next waits => exact .single (.drew id waits)
  next outcome _ waits => exact .single (.ended waits (.inl ⟨outcome, rfl⟩))
  next error _ waits => exact .single (.ended waits (.inr (.inl ⟨error, rfl⟩)))
  next waits => exact .single (.ended waits (.inr (.inr rfl)))

/-- Any order of turns is an interleaving. -/
theorem reached_turns (id : String) (system : System Worker) (workers : List Worker) :
    Relation.ReflTransGen Step system (workers.foldl (turn id) system) := by
  induction workers generalizing system with
  | nil => exact .refl
  | cons worker rest ih => exact (reached_turn id system worker).trans (ih _)

end System

/-- Reading is allowed, and so is every change that keeps documents safe; who reads at a URL may
expect a safe document. -/
def Contract.keeping (url : String) (safe : Json → Prop) : Contract where
  allows request := request.verb = .get ∨ request.verb = .patch ∧
    ∃ changes, request.body = some (.object changes) ∧
      ∀ members, safe (.object members) → safe (.object (Members.override members changes))
  admits request answer := request.verb = .get →
    (Replica.Location.ofUrl request.url).path = (Replica.Location.ofUrl url).path →
      ∀ document, answer = .ok document → safe document

theorem Contract.keeping_admits_error {url : String} {safe : Json → Prop} {request : Request}
    {error : RemoteError} : (Contract.keeping url safe).admits request (.error error) := by
  intro _ _ document answers
  simp at answers

namespace System

variable {Worker : Type}

/-- The document at a URL is safe, and every program that is still to run keeps it safe. -/
structure Keeps (url : String) (safe : Json → Prop) (system : System Worker) : Prop where
  stored : ∃ document, system.replica.document? url = some document ∧ safe document
  meets : ∀ worker, ∀ program ∈ system.queues worker,
    program.Meets (.keeping url safe) fun _ => True

variable {url : String} {safe : Json → Prop} {system later : System Worker}

theorem Keeps.meets_queue (keeps : Keeps url safe system) {worker : Worker}
    {program : Program OperationError Outcome} {rest : List (Program OperationError Outcome)}
    (waits : system.queues worker = program :: rest) :
    (program.Meets (.keeping url safe) fun _ => True) ∧
      ∀ later ∈ rest, later.Meets (.keeping url safe) fun _ => True := by
  have meets := keeps.meets worker
  rw [waits] at meets
  exact List.forall_mem_cons.mp meets

/-- The answer to an allowed request is admitted and leaves a safe document. -/
theorem safe_of_answer {replica : Replica} {request : Request} {document : Json}
    (stored : replica.document? url = some document) (isSafe : safe document)
    (allowed : (Contract.keeping url safe).allows request) :
    (Contract.keeping url safe).admits request (replica.answer request).1 ∧
      ∃ document, (replica.answer request).2.document? url = some document ∧ safe document := by
  rcases allowed with isGet | ⟨isPatch, changes, body, keeps⟩
  · rcases Replica.answer_get document isGet with ⟨unchanged, brings⟩
    refine ⟨?_, document, ?_, isSafe⟩
    · intro _ samePath answer answers
      have storedThere : replica.document? request.url = some document := by
        rw [Replica.document?, samePath]
        exact stored
      rw [brings answer answers storedThere]
      exact isSafe
    · rw [Replica.document?, unchanged]
      exact stored
  · refine ⟨fun isGet => by simp [isPatch] at isGet, ?_⟩
    rcases Replica.answer_patch isPatch body with unchanged | ⟨members, storedThere, changed⟩
    · refine ⟨document, ?_, isSafe⟩
      rw [Replica.document?, unchanged]
      exact stored
    · by_cases samePath : (Replica.Location.ofUrl url).path =
          (Replica.Location.ofUrl request.url).path
      · have storedSame : replica.document? request.url = some document := by
          rw [Replica.document?, ← samePath]
          exact stored
        obtain rfl : document = .object members := by simpa [storedSame] using storedThere
        refine ⟨_, ?_, keeps members isSafe⟩
        rw [Replica.document?, changed, samePath, Replica.Documents.find?_store_self]
      · refine ⟨document, ?_, isSafe⟩
        rw [Replica.document?, changed, Replica.Documents.find?_store_of_ne samePath]
        exact stored

variable [DecidableEq Worker]

theorem Keeps.update (keeps : Keeps url safe system) {replica : Replica} {worker : Worker}
    {queue : List (Program OperationError Outcome)}
    (stored : ∃ document, replica.document? url = some document ∧ safe document)
    (meets : ∀ program ∈ queue, program.Meets (.keeping url safe) fun _ => True) :
    Keeps url safe ⟨replica, Function.update system.queues worker queue⟩ := by
  refine ⟨stored, ?_⟩
  intro other program program_mem
  by_cases same : other = worker
  · subst same
    exact meets program (by simpa using program_mem)
  · exact keeps.meets other program (by simpa [Function.update_of_ne same] using program_mem)

/-- No step of any client makes the document unsafe. -/
theorem Keeps.step (keeps : Keeps url safe system) (step : Step system later) :
    Keeps url safe later := by
  rcases keeps.stored with ⟨document, stored, isSafe⟩
  cases step with
  | answered waits =>
      rcases keeps.meets_queue waits with ⟨meets, restMeets⟩
      cases meets with
      | send allowed follows =>
          rcases safe_of_answer stored isSafe allowed with ⟨admitted, storedLater⟩
          exact keeps.update storedLater
            (List.forall_mem_cons.mpr ⟨follows _ admitted, restMeets⟩)
  | lost error waits =>
      rcases keeps.meets_queue waits with ⟨meets, restMeets⟩
      cases meets with
      | send _ follows =>
          exact keeps.update keeps.stored
            (List.forall_mem_cons.mpr ⟨follows _ Contract.keeping_admits_error, restMeets⟩)
  | unheard error waits =>
      rcases keeps.meets_queue waits with ⟨meets, restMeets⟩
      cases meets with
      | send allowed follows =>
          exact keeps.update (safe_of_answer stored isSafe allowed).2
            (List.forall_mem_cons.mpr ⟨follows _ Contract.keeping_admits_error, restMeets⟩)
  | reported waits =>
      rcases keeps.meets_queue waits with ⟨meets, restMeets⟩
      cases meets with
      | report follows =>
          exact keeps.update keeps.stored (List.forall_mem_cons.mpr ⟨follows, restMeets⟩)
  | drew id waits =>
      rcases keeps.meets_queue waits with ⟨meets, restMeets⟩
      cases meets with
      | fresh follows =>
          exact keeps.update keeps.stored (List.forall_mem_cons.mpr ⟨follows id, restMeets⟩)
  | ended waits _ => exact keeps.update keeps.stored (keeps.meets_queue waits).2

/-- However the steps of the clients are interleaved, the document stays safe. -/
theorem Keeps.reached (keeps : Keeps url safe system)
    (reached : Relation.ReflTransGen Step system later) : Keeps url safe later := by
  induction reached with
  | refl => exact keeps
  | tail _ step ih => exact ih.step step

end System

/-- A collection with distinct keys, of which nothing is lost when it is written and read back. -/
structure Collection.Sound {Element : Type} [Item Element] [Record Element]
    (collection : Collection Element) : Prop where
  distinct : collection.Distinct
  lossless : ∀ item ∈ collection.items, Lossless item

namespace ItemSet

/-- An application that is read to have a sound collection. -/
def ShowsSound {Element : Type} [Item Element] [Record Element] (itemSet : ItemSet Element)
    (document : Json) : Prop :=
  ∃ collection, itemSet.extract? document = some collection ∧ collection.Sound

/-- The collections of one kind that may be written to safe applications: those that are read from
them, and with each one all that are planned from it. -/
structure Guards (Spec : Type) {Element : Type} [Item Element] [Record Element]
    [Specification Spec Element] (itemSet : ItemSet Element) (safe : Json → Prop)
    (writable : Collection Element → Prop) : Prop where
  below : itemSet.path ≠ []
  read {document : Json} {collection : Collection Element} (isSafe : safe document)
    (extracted : itemSet.extract? document = some collection) : writable collection
  upsert {collection : Collection Element} {spec : Spec} {newId : String}
    {upserted : Upserted Element} (current : writable collection)
    (planned : collection.upsert spec newId = .ok upserted) : writable upserted.collection
  removal {collection : Collection Element} {key : String} {removal : Removal Element}
    {step : Step Element} (current : writable collection)
    (planned : collection.removeByKey key itemSet.disableFirst = .ok removal)
    (step_mem : step ∈ removal.steps) : writable step.collection
  put {collection : Collection Element} {members : List (String × Json)}
    (next : writable collection) (isSafe : safe (.object members)) :
    safe (.object (itemSet.put collection members))

variable {Element Other Spec : Type} [Item Element] [Record Element] [Specification Spec Element]
  [Item Other] [Record Other] {itemSet : ItemSet Element} {other : ItemSet Other}

/-- Sound collections are planned from sound ones, and make an application show a sound one. -/
theorem guards_sound [Specification.Keyed Spec] [Specification.Durable Spec] [Item.Steady Element]
    [Item.Durable Element] (below : itemSet.path ≠ []) :
    itemSet.Guards Spec itemSet.ShowsSound Collection.Sound where
  below := below
  read := by
    rintro document collection ⟨shown, extracted, sound⟩ extractedHere
    obtain rfl : shown = collection := by simpa [extracted] using extractedHere
    exact sound
  upsert current planned :=
    ⟨current.distinct.upsert planned, Collection.lossless_upsert current.lossless planned⟩
  removal current planned step_mem :=
    ⟨current.distinct.removal planned step_mem,
      Collection.lossless_removal current.lossless planned step_mem⟩
  put next _ := ⟨_, extract?_put below next.lossless, next⟩

/-- Whatever is written to one collection of an application, another one stays as it is. -/
theorem guards_apart (below : itemSet.path ≠ []) (otherBelow : other.path ≠ [])
    (apart : other.root ≠ itemSet.root) :
    itemSet.Guards Spec other.ShowsSound fun _ => True where
  below := below
  read _ _ := trivial
  upsert _ _ := trivial
  removal _ _ _ := trivial
  put := by
    rintro collection members - ⟨shown, extracted, sound⟩
    exact ⟨shown, (extract?_put_of_ne otherBelow apart).trans extracted, sound⟩

end ItemSet

namespace Directory

section ItemSets

variable {Element Spec : Type} [Item Element] [Record Element] [Specification Spec Element]
  {directory : Directory} {itemSet : ItemSet Element} {objectId url : String} {safe : Json → Prop}
  {writable : Collection Element → Prop}

/-- What is fetched from a safe application may be written to it. -/
theorem fetch_meets (guards : itemSet.Guards Spec safe writable) :
    (directory.fetch itemSet objectId).Meets (.keeping (directory.applicationUrl objectId) safe)
      fun fetched => writable fetched.collection := by
  rw [fetch_eq]
  have reads : (Program.request (directory.readRequest itemSet objectId)).Meets
      (.keeping (directory.applicationUrl objectId) safe) safe := by
    have allowed : (Contract.keeping (directory.applicationUrl objectId) safe).allows
        (directory.readRequest itemSet objectId) := .inl rfl
    refine (Program.meets_request allowed).weaken ?_
    intro document admitted
    refine admitted rfl ?_ document rfl
    rw [readRequest, ofUrl_selection]
  refine (reads.mapFailure _).bind ?_
  intro document isSafe
  refine Program.meets_ofExcept ?_
  intro fetched decoded
  exact guards.read isSafe (ItemSet.of_fetched? decoded).2

/-- Wherever a collection that may be written goes, a safe application stays safe. -/
theorem write_meets {collection : Collection Element} (guards : itemSet.Guards Spec safe writable)
    (next : writable collection) :
    (directory.write itemSet objectId collection).Meets (.keeping url safe) fun _ => True := by
  have allowed : (Contract.keeping url safe).allows
      (directory.writeRequest itemSet objectId collection) := by
    refine .inr ⟨rfl, itemSet.changes collection, ?_, ?_⟩
    · rw [writeRequest, ItemSet.patchBody_eq guards.below]
    · intro members isSafe
      exact guards.put next isSafe
  exact (Program.meets_request allowed).bind fun _ _ => Program.meets_pure trivial

theorem upsertFetched_meets [DecidableEq Element] {fetched : Fetched Element} {spec : Spec}
    (guards : itemSet.Guards Spec safe writable) (current : writable fetched.collection) :
    (directory.upsertFetched itemSet fetched spec).Meets (.keeping url safe) fun _ => True := by
  refine Program.meets_freshId.bind ?_
  intro newId _
  refine Program.meets_check.bind ?_
  intro upserted planned
  split
  · exact Program.meets_pure trivial
  · refine Program.meets_progress.bind fun _ _ => ?_
    have writes : (directory.write itemSet fetched.objectId upserted.collection).Meets
        (.keeping url safe) fun _ => True := write_meets guards (guards.upsert current planned)
    exact (writes.mapFailure _).bind fun _ _ => Program.meets_pure trivial

theorem upsertItem_meets [DecidableEq Element] {spec : Spec}
    (guards : itemSet.Guards Spec safe writable) :
    (directory.upsertItem itemSet objectId spec).Meets
      (.keeping (directory.applicationUrl objectId) safe) fun _ => True := by
  refine Program.meets_check.bind fun _ _ => ?_
  refine (fetch_meets guards).bind ?_
  intro fetched current
  exact upsertFetched_meets guards current

theorem writeSteps_meets {plan : Removal Element} {index : Nat}
    {remaining : List (StepPosition × Step Element)} (guards : itemSet.Guards Spec safe writable)
    (planned : ∀ place ∈ remaining, writable place.2.collection) :
    (directory.writeSteps itemSet objectId plan index remaining).Meets (.keeping url safe)
      fun _ => True := by
  induction remaining generalizing index with
  | nil => exact Program.meets_pure trivial
  | cons place rest ih =>
      refine Program.meets_progress.bind fun _ _ => ?_
      have writes : (directory.write itemSet objectId place.2.collection).Meets
          (.keeping url safe) fun _ => True := write_meets guards (planned place (by simp))
      refine (writes.mapFailure _).bind fun _ _ => ?_
      exact ih fun later later_mem => planned later (List.mem_cons_of_mem _ later_mem)

theorem removeItem_meets {key : String} (guards : itemSet.Guards Spec safe writable) :
    (directory.removeItem itemSet objectId key).Meets
      (.keeping (directory.applicationUrl objectId) safe) fun _ => True := by
  refine (fetch_meets guards).bind ?_
  intro fetched current
  refine Program.meets_check.bind ?_
  intro plan planned
  have steps : ∀ place ∈ plan.positioned, writable place.2.collection := by
    intro place place_mem
    have step_mem : place.2 ∈ plan.steps := by
      rw [← Removal.map_snd_positioned plan]
      exact List.mem_map_of_mem place_mem
    exact guards.removal current planned step_mem
  exact (writeSteps_meets guards steps).bind fun _ _ => Program.meets_pure trivial

end ItemSets

section Changes

variable {directory : Directory} {argument objectId : String} {safe : Json → Prop}
  {writableScopes : Collection Scope → Prop} {writableUris : Collection IdentifierUri → Prop}

/-- Every change of an application keeps it safe. -/
theorem change_meets (scopes : ItemSet.permissionScopes.Guards ScopeSpec safe writableScopes)
    (uris : ItemSet.identifierUris.Guards UriSpec safe writableUris)
    (named : Text.trim argument = objectId) (change : Change) :
    (directory.change argument change).Meets (.keeping (directory.applicationUrl objectId) safe)
      fun _ => True := by
  have names : (liftM (Argument.required "app_object_id" argument) :
      Program OperationError String).Meets (.keeping (directory.applicationUrl objectId) safe)
        fun id => id = objectId := by
    refine Program.meets_check.weaken ?_
    intro id accepted
    exact (Argument.eq_trim_of_required accepted).1.trans named
  cases change with
  | upsertScope spec =>
      have upserts : (directory.upsertScope argument spec).Meets
          (.keeping (directory.applicationUrl objectId) safe) fun _ => True := by
        refine names.bind ?_
        rintro _ rfl
        exact (upsertItem_meets scopes).bind fun _ _ => Program.meets_pure trivial
      exact upserts.bind fun _ _ => Program.meets_pure trivial
  | removeScope value =>
      have removes : (directory.removeScope argument value).Meets
          (.keeping (directory.applicationUrl objectId) safe) fun _ => True := by
        refine names.bind ?_
        rintro _ rfl
        refine Program.meets_check.bind fun _ _ => ?_
        exact (removeItem_meets scopes).bind fun _ _ => Program.meets_pure trivial
      exact removes.bind fun _ _ => Program.meets_pure trivial
  | addUri uri =>
      have adds : (directory.addIdentifierUri argument uri).Meets
          (.keeping (directory.applicationUrl objectId) safe) fun _ => True := by
        refine names.bind ?_
        rintro _ rfl
        cases uri with
        | some uri =>
            refine Program.meets_check.bind fun _ _ => ?_
            refine (fetch_meets uris).bind fun _ current => ?_
            exact (upsertFetched_meets uris current).bind fun _ _ => Program.meets_pure trivial
        | none =>
            refine (fetch_meets uris).bind fun _ current => ?_
            refine Program.meets_check.bind fun _ _ => ?_
            exact (upsertFetched_meets uris current).bind fun _ _ => Program.meets_pure trivial
      exact adds.bind fun _ _ => Program.meets_pure trivial
  | removeUri uri =>
      have removes : (directory.removeIdentifierUri argument uri).Meets
          (.keeping (directory.applicationUrl objectId) safe) fun _ => True := by
        refine names.bind ?_
        rintro _ rfl
        refine Program.meets_check.bind fun _ _ => ?_
        exact (removeItem_meets uris).bind fun _ _ => Program.meets_pure trivial
      exact removes.bind fun _ _ => Program.meets_pure trivial

end Changes

end Directory

/-- The application at a URL is read to have a collection with distinct keys. -/
def ItemSet.DistinctAt {Element : Type} [Item Element] [Record Element] (itemSet : ItemSet Element)
    (url : String) (replica : Replica) : Prop :=
  ∃ document collection, replica.document? url = some document ∧
    itemSet.extract? document = some collection ∧ collection.Distinct

namespace System

variable {Worker : Type}

/-- The clients before their first steps, each with the changes that it is going to make and the
application that it names for each. -/
def start (directory : Directory) (replica : Replica) (errands : Worker → List (String × Change)) :
    System Worker :=
  ⟨replica, fun worker => (errands worker).map fun errand => directory.change errand.1 errand.2⟩

variable [DecidableEq Worker] {directory : Directory} {objectId : String} {replica : Replica}
  {errands : Worker → List (String × Change)} {system : System Worker}

/-- The keys of a collection stay distinct when no change makes the collection unsound. -/
theorem distinctAt_of_guards {Element : Type} [Item Element] [Record Element] [Item.Durable Element]
    {itemSet : ItemSet Element} {writableScopes : Collection Scope → Prop}
    {writableUris : Collection IdentifierUri → Prop}
    (scopes : ItemSet.permissionScopes.Guards ScopeSpec itemSet.ShowsSound writableScopes)
    (uris : ItemSet.identifierUris.Guards UriSpec itemSet.ShowsSound writableUris)
    (named : ∀ worker, ∀ errand ∈ errands worker, Text.trim errand.1 = objectId)
    (ordered : ∀ document, replica.document? (directory.applicationUrl objectId) = some document →
      document.Ordered)
    (reached : Relation.ReflTransGen Step (start directory replica errands) system)
    (initially : itemSet.DistinctAt (directory.applicationUrl objectId) replica) :
    itemSet.DistinctAt (directory.applicationUrl objectId) system.replica := by
  rcases initially with ⟨document, collection, stored, extracted, distinct⟩
  have sound : collection.Sound :=
    ⟨distinct, ItemSet.lossless_items_of_extract? (ordered document stored) extracted⟩
  have keepsAtStart : Keeps (directory.applicationUrl objectId) itemSet.ShowsSound
      (start directory replica errands) := by
    refine ⟨⟨document, stored, collection, extracted, sound⟩, ?_⟩
    intro worker program program_mem
    rcases List.mem_map.mp program_mem with ⟨errand, errand_mem, rfl⟩
    exact Directory.change_meets scopes uris (named worker errand errand_mem) errand.2
  rcases (keepsAtStart.reached reached).stored with
    ⟨documentThen, storedThen, collectionThen, extractedThen, soundThen⟩
  exact ⟨documentThen, collectionThen, storedThen, extractedThen, soundThen.distinct⟩

/-- The scopes of an application have distinct keys at every moment if they had in the beginning,
whatever changes any number of clients make to that application and however their requests, the
answers and the losses of both are interleaved.  The same holds of its identifier URIs. -/
theorem keys_stay_distinct
    (named : ∀ worker, ∀ errand ∈ errands worker, Text.trim errand.1 = objectId)
    (ordered : ∀ document, replica.document? (directory.applicationUrl objectId) = some document →
      document.Ordered)
    (reached : Relation.ReflTransGen Step (start directory replica errands) system) :
    (ItemSet.permissionScopes.DistinctAt (directory.applicationUrl objectId) replica →
      ItemSet.permissionScopes.DistinctAt (directory.applicationUrl objectId) system.replica) ∧
    (ItemSet.identifierUris.DistinctAt (directory.applicationUrl objectId) replica →
      ItemSet.identifierUris.DistinctAt (directory.applicationUrl objectId) system.replica) := by
  have scopesBelow := ItemSet.below_permissionScopes
  have urisBelow := ItemSet.below_identifierUris
  refine ⟨?_, ?_⟩
  · exact distinctAt_of_guards (ItemSet.guards_sound scopesBelow)
      (ItemSet.guards_apart urisBelow scopesBelow (by decide)) named ordered reached
  · exact distinctAt_of_guards (ItemSet.guards_apart scopesBelow urisBelow (by decide))
      (ItemSet.guards_sound urisBelow) named ordered reached

def sampleShared : Replica :=
  (Replica.empty ⟨fun _ => "s1", 0⟩).withDocument "https://directory/applications/a1"
    (.object [("id", .string "a1")])

/-- Two clients that are going to define the same scope in different words. -/
def sampleRace : System Bool :=
  start ⟨"https://directory", 1⟩ sampleShared fun worker =>
    [("a1", .upsertScope {
      value := "read"
      adminConsentDisplayName := some (if worker then "Read" else "Look")
      adminConsentDescription := some "Read all" })]

/-- Both clients read before the first one writes, so the second write is planned from a collection
that is stale by then. -/
def sampleTurns : List Bool := [false, true, false, true, false, true, false, true]

/-- Two clients create the same scope at the same time. -/
theorem keys_stay_distinct_sample :
    let late := sampleTurns.foldl (turn "s1") sampleRace
    late.replica.requests.map Request.verb = [.get, .get, .patch, .patch] ∧
      ItemSet.permissionScopes.DistinctAt
        (Directory.applicationUrl ⟨"https://directory", 1⟩ "a1") late.replica := by
  refine ⟨rfl, (keys_stay_distinct ?_ ?_ (reached_turns "s1" sampleRace sampleTurns)).1
    ⟨_, _, rfl, rfl, List.nodup_nil⟩⟩
  · intro worker errand errand_mem
    rcases List.mem_singleton.mp errand_mem with rfl
    have trimmed : Text.trim "a1" = "a1" := by decide
    exact trimmed
  · intro document stored
    rcases Option.some.inj stored with rfl
    decide

end System

end Provision
