import Provision.Proofs.CredentialListing
import Provision.Proofs.RepeatedUpserts
import Provision.Proofs.StrandedScopes

/-!
# Whether a refused write is reported with the true state

When its write is refused, a command that creates or updates an item says in which
state the item is.  Nothing has been changed by then, so this is the state from
before the run.  The command does not ask for it again.  A new item is taken to be
absent, and one that is changed where it stands to be there.  An item of a list is
looked up, by its id, in the list that was fetched.

A resource that is stored by its name may have been there all along: then it is
reported as absent although it is present.  A credential may be listed under an id
that leads nowhere.  An item of a list is mistaken for another one with its id, or
the application that it was fetched from names another one that it is written to.
In all other cases the state is the true one.
-/

namespace Provision

open Program
open Replica (Location)

/-- What a collection shows of the item with a given key. -/
def ItemState.ofKey {Element : Type} [Item Element] (collection : Collection Element)
    (key : String) : ItemState :=
  match collection.items.find? fun item => Item.key item = key with
  | some item => present (Item.enabled item)
  | none => absent

namespace Replica

/-- What a replica shows of the resource at a URL. -/
def resourceState (replica : Replica) (url : String) : ItemState :=
  if (replica.document? url).isSome then .present none else .absent

/-- What a replica shows of a new resource, which is a document that was not there earlier. -/
def newState (earlier later : Replica) : ItemState :=
  if later.documents.any fun (path, _) => !earlier.documents.has path then .present none
  else .absent

/-- What a replica shows of the resource that a refused write was about: what would have been
created, or what stands at the URL. -/
def writtenState (earlier later : Replica) (write : Request) : ItemState :=
  match write.verb with
  | .post => newState earlier later
  | _ => later.resourceState write.url

section Entries

variable {Element : Type} [Item Element] [Record Element]

/-- The collection of the application that is stored at a URL. -/
def listAt? (replica : Replica) (itemSet : ItemSet Element) (url : String) :
    Option (Collection Element) :=
  (replica.document? url).bind itemSet.extract?

/-- What a replica shows of an item of the application at a URL. -/
def entryState (replica : Replica) (itemSet : ItemSet Element) (url key : String) : ItemState :=
  match replica.listAt? itemSet url with
  | some collection => .ofKey collection key
  | none => .absent

/-- An item of a list is mistaken.  In the application it was fetched from, its id leads to an item
whose flag no item with its key has.  Or it is written to another application, which does not show
the item with the flag that was found by its id, or shows it although nothing was found. -/
inductive MistakesEntry (replica : Replica) (itemSet : ItemSet Element)
    (readUrl writeUrl id key : String) : Prop where
  | shadowed {fetched : Collection Element} {first : Element}
      (own : (Location.ofUrl writeUrl).path = (Location.ofUrl readUrl).path)
      (listed : replica.listAt? itemSet readUrl = some fetched)
      (leads : fetched.get? id = some first)
      (other : ∀ item ∈ fetched.items, Item.key item = key → Item.enabled item ≠ Item.enabled first)
  | elsewhere {fetched : Collection Element} {first : Element}
      (apart : (Location.ofUrl writeUrl).path ≠ (Location.ofUrl readUrl).path)
      (listed : replica.listAt? itemSet readUrl = some fetched)
      (leads : fetched.get? id = some first)
      (other : ∀ written item, replica.listAt? itemSet writeUrl = some written →
        written.items.find? (fun item => Item.key item = key) = some item →
          Item.enabled item ≠ Item.enabled first)
  | unfetched {fetched written : Collection Element} {item : Element}
      (apart : (Location.ofUrl writeUrl).path ≠ (Location.ofUrl readUrl).path)
      (listed : replica.listAt? itemSet readUrl = some fetched)
      (nowhere : fetched.get? id = none)
      (writes : replica.listAt? itemSet writeUrl = some written)
      (shown : item ∈ written.items) (hasKey : Item.key item = key)

end Entries

/-- A resource is mistaken: it was to be stored where there is one, or changed where there is
none. -/
inductive MistakesResource (replica : Replica) (write : Request) : Prop where
  | stored (isPut : write.verb = .put) (present : (replica.document? write.url).isSome = true)
  | missing (isPatch : write.verb = .patch) (absent : replica.document? write.url = none)

end Replica

namespace Command

/-- The commands that create or update a single item. -/
def WritesItem : Command → Prop
  | .directory (.upsertScope _ _) | .directory (.addUri _ _) | .directory (.upsertCredential _ _)
  | .directory (.createIdentity _ _) => True
  | .resources (.createIdentity _ _) | .resources (.assignRole _ _ _) => True
  | _ => False

/-- The state of the item that a refused write was about: the item with a key in the list of the
application that was to be changed, or the resource that was to be written by itself. -/
def stateLeft (command : Command) (earlier later : Replica) (write : Request) (key : String) :
    ItemState :=
  match command with
  | .directory (.upsertScope _ _) => later.entryState ItemSet.permissionScopes write.url key
  | .directory (.addUri _ _) => later.entryState ItemSet.identifierUris write.url key
  | _ => Replica.writtenState earlier later write

/-- The item of a refused write is mistaken.  A scope is looked up by its id, or by the next one if
it is new.  A URI is its own id, so it can only be mistaken in an application that names another
one. -/
def Mistakes (directory : Directory) (command : Command) (newId : String) (replica : Replica)
    (write : Request) (detail : WriteFailure) : Prop :=
  match command with
  | .directory (.upsertScope application _) =>
    replica.MistakesEntry ItemSet.permissionScopes
      (directory.applicationUrl (Text.trim application)) write.url (detail.itemId.getD newId)
      detail.key
  | .directory (.addUri application _) =>
    (Location.ofUrl write.url).path ≠
        (Location.ofUrl (directory.applicationUrl (Text.trim application))).path ∧
      replica.MistakesEntry ItemSet.identifierUris
        (directory.applicationUrl (Text.trim application)) write.url detail.key detail.key
  | _ => replica.MistakesResource write

end Command

section Entries

variable {Element : Type} [Item Element] [Record Element] {itemSet : ItemSet Element}
  {replica : Replica} {fetched : Collection Element} {readUrl writeUrl id key : String}

theorem Replica.entryState_eq_absent_iff :
    replica.entryState itemSet writeUrl key = .absent ↔
      ∀ written, replica.listAt? itemSet writeUrl = some written →
        ∀ item ∈ written.items, Item.key item ≠ key := by
  cases writes : replica.listAt? itemSet writeUrl with
  | none => simp [entryState, writes]
  | some written =>
      cases found : written.items.find? fun item => Item.key item = key with
      | none =>
          have absent := List.find?_eq_none.mp found
          simpa [entryState, writes, ItemState.ofKey, found] using absent
      | some item =>
          have shown := List.mem_of_find?_eq_some found
          have hasKey : Item.key item = key := by simpa using List.find?_some found
          simpa [entryState, writes, ItemState.ofKey, found] using ⟨item, shown, hasKey⟩

theorem Replica.entryState_eq_present_iff {flag : Option Bool} :
    replica.entryState itemSet writeUrl key = .present flag ↔
      ∃ written item, replica.listAt? itemSet writeUrl = some written ∧
        written.items.find? (fun item => Item.key item = key) = some item ∧
          Item.enabled item = flag := by
  cases writes : replica.listAt? itemSet writeUrl with
  | none => simp [entryState, writes]
  | some written =>
      cases found : written.items.find? fun item => Item.key item = key <;>
        simp [entryState, writes, ItemState.ofKey, found]

omit [Item Element] in
/-- The same application shows the list that was fetched from it. -/
theorem Replica.listAt?_of_path_eq
    (own : (Location.ofUrl writeUrl).path = (Location.ofUrl readUrl).path) :
    replica.listAt? itemSet writeUrl = replica.listAt? itemSet readUrl := by
  rw [listAt?, document?, own, listAt?, document?]

/-- An item is not mistaken in the application it was fetched from if its id leads to no item with
another key. -/
theorem Replica.not_mistakesEntry
    (own : (Location.ofUrl writeUrl).path = (Location.ofUrl readUrl).path)
    (identified : ∀ item : Element, Item.id item = id → Item.key item = key) :
    ¬replica.MistakesEntry itemSet readUrl writeUrl id key := by
  rintro (⟨-, -, leads, other⟩ | ⟨apart, -⟩ | ⟨apart, -⟩)
  · have hasKey := identified _ (by simpa using List.find?_some leads)
    exact other _ (List.mem_of_find?_eq_some leads) hasKey rfl
  · exact apart own
  · exact apart own

/-- What was looked up by an id is true of the item with a key unless the item is mistaken. -/
theorem Replica.of_eq_entryState_iff (listed : replica.listAt? itemSet readUrl = some fetched)
    (alone : ∀ item ∈ fetched.items, Item.key item = key →
      fetched.items.find? (fun item => Item.key item = key) = some item)
    (known : fetched.get? id = none → ∀ item ∈ fetched.items, Item.key item ≠ key) :
    ItemState.of fetched id = replica.entryState itemSet writeUrl key ↔
      ¬replica.MistakesEntry itemSet readUrl writeUrl id key := by
  cases leads : fetched.get? id with
  | none =>
      rw [ItemState.of, leads, eq_comm, entryState_eq_absent_iff]
      constructor
      · rintro absent (⟨-, listedAgain, leadsAgain, -⟩ | ⟨-, listedAgain, leadsAgain, -⟩ |
          ⟨-, -, -, writes, shown, hasKey⟩)
        · simp [← Option.some.inj (listed.symm.trans listedAgain), leads] at leadsAgain
        · simp [← Option.some.inj (listed.symm.trans listedAgain), leads] at leadsAgain
        · exact absent _ writes _ shown hasKey
      · intro right written writes item shown hasKey
        by_cases own : (Location.ofUrl writeUrl).path = (Location.ofUrl readUrl).path
        · rw [listAt?_of_path_eq own, listed] at writes
          obtain rfl := Option.some.inj writes
          exact known leads item shown hasKey
        · exact right (.unfetched own listed leads writes shown hasKey)
  | some first =>
      rw [ItemState.of, leads, eq_comm, entryState_eq_present_iff]
      constructor
      · rintro ⟨written, item, writes, found, sameFlag⟩ mistaken
        cases mistaken with
        | shadowed own listedAgain leadsAgain other =>
            obtain rfl := Option.some.inj (listed.symm.trans listedAgain)
            obtain rfl := Option.some.inj (leads.symm.trans leadsAgain)
            rw [listAt?_of_path_eq own, listed] at writes
            obtain rfl := Option.some.inj writes
            exact other item (List.mem_of_find?_eq_some found) (by simpa using List.find?_some found)
              sameFlag
        | elsewhere _ listedAgain leadsAgain other =>
            obtain rfl := Option.some.inj (listed.symm.trans listedAgain)
            obtain rfl := Option.some.inj (leads.symm.trans leadsAgain)
            exact other written item writes found sameFlag
        | unfetched _ listedAgain nowhere =>
            simp [← Option.some.inj (listed.symm.trans listedAgain), leads] at nowhere
      · intro right
        by_contra differs
        by_cases own : (Location.ofUrl writeUrl).path = (Location.ofUrl readUrl).path
        · refine right (.shadowed own listed leads fun item shown hasKey sameFlag => differs ?_)
          exact ⟨fetched, item, (listAt?_of_path_eq own).trans listed, alone item shown hasKey,
            sameFlag⟩
        · exact right (.elsewhere own listed leads fun written item writes found sameFlag =>
            differs ⟨written, item, writes, found, sameFlag⟩)

variable {Spec : Type} [Specification Spec Element] {spec : Spec} {newId : String}
  {upserted : Upserted Element}

omit [Record Element] in
/-- The item that is upserted has the id that is reported, or the one that was built into it; there
is no other one with its key; and nothing with the key is passed over when there is none with the
id. -/
theorem Collection.upsert_identifies (planned : fetched.upsert spec newId = .ok upserted) :
    upserted.itemId =
      (Directory.refusedUpsert fetched spec upserted).itemId.getD
        (Item.id (Specification.build spec newId : Element)) ∧
    (∀ item ∈ fetched.items, Item.key item = Specification.key spec →
      fetched.items.find? (fun item => Item.key item = Specification.key spec) = some item) ∧
    (fetched.get? upserted.itemId = none →
      ∀ item ∈ fetched.items, Item.key item ≠ Specification.key spec) := by
  rcases upsert_cases planned with ⟨before, item, after, holds, rfl⟩ | ⟨absent, rfl⟩
  · refine ⟨rfl, ?_, fun notFound => ?_⟩
    · intro other other_mem hasKey
      obtain rfl := holds.eq_of_mem other_mem hasKey
      exact holds.find?_eq
    · have item_mem : item ∈ fetched.items := by simp [holds.items_eq]
      simpa using List.find?_eq_none.mp notFound item item_mem
  · exact ⟨rfl, fun item item_mem hasKey => absurd hasKey (absent item item_mem), fun _ => absent⟩

/-- The refusal of an upsert is reported with the true state unless its item is mistaken. -/
theorem Directory.UpsertRefused.state_iff {directory : Directory} {applicationId : String}
    {now : Run Replica} {sent : List Exchange} {detail : WriteFailure} {cause : RemoteError}
    (refused : directory.UpsertRefused itemSet applicationId spec now sent (.write detail cause)) :
    ∃ read write, sent = [read, ⟨write, .error cause⟩] ∧ read.isWrite = false ∧
      write.isWrite = true ∧
      (detail.state = now.state.entryState itemSet write.url detail.key ↔
        ¬now.state.MistakesEntry itemSet (directory.applicationUrl applicationId) write.url
          (detail.itemId.getD (Item.id (Specification.build spec now.ids.current : Element)))
          detail.key) := by
  cases refused with
  | @atWrite document fetched upserted _ stored read planned =>
      refine ⟨_, _, rfl, rfl, rfl, ?_⟩
      obtain ⟨sameId, alone, known⟩ := Collection.upsert_identifies planned
      rw [← sameId]
      have listed : now.state.listAt? itemSet (directory.applicationUrl applicationId) =
          some fetched.collection := by
        rw [Replica.listAt?, stored]
        exact (ItemSet.of_fetched? read).2
      exact Replica.of_eq_entryState_iff listed alone known

end Entries

/-- A URI is looked up by itself. -/
theorem Directory.UpsertRefused.uri_itemId {directory : Directory} {applicationId : String}
    {spec : UriSpec} {now : Run Replica} {sent : List Exchange} {detail : WriteFailure}
    {cause : RemoteError}
    (refused : directory.UpsertRefused ItemSet.identifierUris applicationId spec now sent
      (.write detail cause)) :
    detail.itemId.getD spec.uri = detail.key := by
  cases refused with
  | atWrite _ _ planned =>
      rcases Collection.upsert_cases planned with ⟨before, item, after, holds, rfl⟩ | ⟨-, rfl⟩
      · exact holds.key_eq
      · rfl

theorem Replica.newState_of_same {earlier later : Replica}
    (same : later.documents = earlier.documents) : newState earlier later = .absent := by
  have noneNew : (later.documents.any fun (path, _) => !earlier.documents.has path) = false := by
    rw [List.any_eq_false, same]
    rintro ⟨path, document⟩ stored
    rw [Bool.not_eq_true', Documents.has_eq_false_iff, not_not]
    exact List.mem_map_of_mem stored
  rw [newState, noneNew]
  rfl

/-- A state that is reported by the verb is the true one unless the resource is mistaken. -/
theorem ReportedByVerb.state_iff {earlier later : Replica} {write : Request}
    {detail : WriteFailure} (reported : ReportedByVerb write detail)
    (same : later.documents = earlier.documents) :
    write.isWrite = true ∧ (detail.state = Replica.writtenState earlier later write ↔
      ¬earlier.MistakesResource write) := by
  have stored : later.document? write.url = earlier.document? write.url := by
    rw [Replica.document?, same, Replica.document?]
  rw [Replica.writtenState]
  cases reported with
  | created isPost absent =>
      refine ⟨by simp [Request.isWrite, isPost], ?_⟩
      simp only [isPost, absent, Replica.newState_of_same same, true_iff]
      rintro (⟨isPut, -⟩ | ⟨isPatch, -⟩)
      · simp [isPut] at isPost
      · simp [isPatch] at isPost
  | stored isPut absent =>
      refine ⟨by simp [Request.isWrite, isPut], ?_⟩
      simp only [isPut, absent, Replica.resourceState, stored]
      constructor
      · rintro right (⟨-, present⟩ | ⟨isPatch, -⟩)
        · simp [present] at right
        · simp [isPatch] at isPut
      · intro right
        rw [if_neg fun present => right (.stored isPut present)]
  | changed isPatch present =>
      refine ⟨by simp [Request.isWrite, isPatch], ?_⟩
      simp only [isPatch, present, Replica.resourceState, stored]
      constructor
      · rintro right (⟨isPut, -⟩ | ⟨-, absent⟩)
        · simp [isPut] at isPatch
        · simp [absent] at right
      · intro right
        rw [if_pos]
        by_contra absent
        exact right (.missing isPatch (by simpa using absent))

namespace Directory

variable {directory : Directory} {schedule : Nat → Option RemoteError} {now later : Run Replica}
  {sent : List Exchange} {failure : OperationError} {applicationId : String}

theorem addIdentifierUri_failed_run {uri : Option String}
    (runs : (directory.addIdentifierUri applicationId uri).Runs (Client.interrupted schedule) now
      sent (.failed failure) later) :
    EarlyFailure sent failure ∨ ∃ spec : UriSpec,
      directory.UpsertRefused ItemSet.identifierUris (Text.trim applicationId) spec now sent
        failure := by
  rw [addIdentifierUri_eq] at runs
  rcases runs.of_check with ⟨error, -, rfl, ⟨⟩, -⟩ | ⟨application, accepted, runs⟩
  · exact Or.inl ⟨by simp, by simp⟩
  rcases Argument.eq_trim_of_required accepted with ⟨rfl, -⟩
  rcases runs.of_check with ⟨error, -, rfl, ⟨⟩, -⟩ | ⟨_, -, runs⟩
  · exact Or.inl ⟨by simp, by simp⟩
  rcases of_fetch_runs runs with
    isEarly | ⟨document, fetched, rest, middle, stored, read, rfl, ids, goesOn⟩
  · exact Or.inl isEarly
  rcases goesOn.of_check with ⟨error, -, rfl, ⟨⟩, -⟩ | ⟨spec, -, adds⟩
  · exact Or.inl ⟨onlyReads_readRequest directory ItemSet.identifierUris, by simp⟩
  · exact (upsert_failed_run stored read ids adds.of_bind_return).imp_right fun refused =>
      ⟨spec, refused⟩

end Directory

namespace Command

variable {directory : Directory} {manager : ResourceManager} {command : Command}
  {schedule : Nat → Option RemoteError} {now last : Run Replica} {sent : List Exchange}
  {error : CommandError} {detail : WriteFailure} {cause : RemoteError}

/-- A refused write changed nothing, and the state of its item is reported truly unless the item is
mistaken. -/
structure ReportsRefusal (directory : Directory) (command : Command) (newId : String)
    (earlier later : Replica) (sent : List Exchange) (detail : WriteFailure) (cause : RemoteError) :
    Prop where
  unchanged : later.documents = earlier.documents
  atWrite : ∃ reads write, sent = reads ++ [⟨write, .error cause⟩] ∧
    (∀ exchange ∈ reads, exchange.isWrite = false) ∧ write.isWrite = true ∧
    (detail.state = command.stateLeft earlier later write detail.key ↔
      ¬command.Mistakes directory newId earlier write detail)

theorem unchanged_of_refused {reads : List Exchange} {write : Request}
    (onlyReads : ∀ exchange ∈ reads, exchange.isWrite = false)
    (leads : Replica.Leads (reads ++ [⟨write, .error cause⟩]) now.state last.state) :
    last.state.documents = now.state.documents := by
  apply (leads.unchanged _).1
  exact List.forall_mem_append.mpr ⟨none_written_of_onlyReads onlyReads, by simp⟩

/-- The refusal of a write that goes to a resource of its own. -/
theorem ReportsRefusal.of_stoppedAt {newId : String}
    (leads : Replica.Leads sent now.state last.state)
    (stopped : StoppedAt ReportedByVerb sent (.write detail cause))
    (written : ∀ write key, command.stateLeft now.state last.state write key =
      Replica.writtenState now.state last.state write)
    (mistakes : ∀ write, command.Mistakes directory newId now.state write detail =
      now.state.MistakesResource write) :
    ReportsRefusal directory command newId now.state last.state sent detail cause := by
  cases stopped with
  | early isEarly => exact absurd rfl (isEarly.notWriting detail cause)
  | @refused reads write _ _ onlyReads reported =>
      have same := unchanged_of_refused onlyReads leads
      obtain ⟨isWrite, right⟩ := reported.state_iff same
      refine ⟨same, reads, write, rfl, onlyReads, isWrite, ?_⟩
      rw [written, mistakes]
      exact right

/-- The refusal of a write that goes to a list. -/
theorem ReportsRefusal.of_upsertRefused {Element Spec : Type} [Item Element] [Record Element]
    [Specification Spec Element] {itemSet : ItemSet Element} {applicationId : String} {spec : Spec}
    (leads : Replica.Leads sent now.state last.state)
    (outcome : EarlyFailure sent (.write detail cause) ∨
      directory.UpsertRefused itemSet applicationId spec now sent (.write detail cause))
    (entry : ∀ write key, command.stateLeft now.state last.state write key =
      last.state.entryState itemSet write.url key)
    (mistakes : ∀ write,
      command.Mistakes directory now.ids.current now.state write detail ↔
        now.state.MistakesEntry itemSet (directory.applicationUrl applicationId) write.url
          (detail.itemId.getD (Item.id (Specification.build spec now.ids.current : Element)))
          detail.key) :
    ReportsRefusal directory command now.ids.current now.state last.state sent detail cause := by
  rcases outcome with isEarly | refused
  · exact absurd rfl (isEarly.notWriting detail cause)
  obtain ⟨read, write, rfl, isRead, isWrite, right⟩ := refused.state_iff
  have onlyReads : ∀ exchange ∈ [read], exchange.isWrite = false := by simpa using isRead
  have same := unchanged_of_refused onlyReads leads
  refine ⟨same, [read], write, rfl, onlyReads, isWrite, ?_⟩
  rw [entry, mistakes, Replica.entryState, Replica.listAt?, Replica.document?, same]
  exact right

/-- When the write of a command that creates or updates an item is refused, nothing was changed, and
the state that is reported is the true one exactly if the item was not mistaken: a resource that is
stored by its name was not there, one that is changed was, and an item of a list is not taken for
another one. -/
theorem refused_write_state_iff (directory : Directory) (manager : ResourceManager)
    (command : Command) (writesItem : command.WritesItem) (schedule : Nat → Option RemoteError)
    (now last : Run Replica) (sent : List Exchange) (error : CommandError)
    (runs : (command.program directory manager).Runs (Client.interrupted schedule) now sent
      (.failed error) last)
    (detail : WriteFailure) (cause : RemoteError) (failed : error.cause = .write detail cause) :
    ReportsRefusal directory command now.ids.current now.state last.state sent detail cause := by
  have leads := Replica.leads_of_runs runs
  cases command with
  | directory command =>
      cases command <;> first | exact writesItem.elim | skip
      case createIdentity blueprintAppId create =>
        have stopped := (directory.createAgentIdentity_stops blueprintAppId create.name
          create.sponsors create.onDuplicate).of_runs runs.of_single
        rw [failed] at stopped
        exact .of_stoppedAt leads stopped (fun _ _ => rfl) fun _ => rfl
      case upsertScope application spec =>
        have outcome := Directory.upsertScope_failed_run runs.of_single
        rw [failed] at outcome
        exact .of_upsertRefused leads outcome (fun _ _ => rfl) fun _ => .rfl
      case addUri application uri =>
        have outcome := Directory.addIdentifierUri_failed_run runs.of_single
        rw [failed] at outcome
        rcases outcome with isEarly | ⟨spec, refused⟩
        · exact absurd rfl (isEarly.notWriting detail cause)
        · refine .of_upsertRefused leads (.inr refused) (fun _ _ => rfl) fun write => ?_
          have builtId : Item.id (Specification.build spec now.ids.current : IdentifierUri) =
            spec.uri := rfl
          rw [builtId, refused.uri_itemId]
          exact and_iff_right_of_imp fun mistaken own =>
            Replica.not_mistakesEntry own (fun _ ownId => ownId) mistaken
      case upsertCredential application spec =>
        have stopped := (directory.upsertCredential_stops application spec).of_runs runs.of_single
        rw [failed] at stopped
        exact .of_stoppedAt leads stopped (fun _ _ => rfl) fun _ => rfl
  | resources command =>
      cases command <;> first | exact writesItem.elim | skip
      case createIdentity name location =>
        have stopped := (manager.createManagedIdentity_stops name location).of_runs runs.of_single
        rw [failed] at stopped
        exact .of_stoppedAt leads stopped (fun _ _ => rfl) fun _ => rfl
      case assignRole storageAccount principalId role =>
        have stopped := (manager.assignRole_stops storageAccount principalId role).of_runs
          runs.of_single
        rw [failed] at stopped
        exact .of_stoppedAt leads stopped (fun _ _ => rfl) fun _ => rfl

end Command

/-- The request that stores a managed identity. -/
def ResourceManager.storeIdentity (manager : ResourceManager) (name location : String) : Request :=
  ⟨.put, manager.url (manager.identityPath name) ManagedIdentity.version [],
    some (Json.ofMembers [("location", .string location)])⟩

/-- Whatever is stored, an identity whose request is refused is reported as absent. -/
theorem ResourceManager.createManagedIdentity_refused {State : Type} {client : Client State}
    {now : Run State} {state : State} {manager : ResourceManager} {name location : String}
    {trimmed place : String} {cause : RemoteError}
    (named : ManagedIdentity.checkName name = .ok trimmed)
    (located : Argument.required "location" location = .ok place)
    (sends : client.send (manager.storeIdentity trimmed place) now.state = (.error cause, state)) :
    ∃ last, (manager.createManagedIdentity name location).Runs client now
        [⟨manager.storeIdentity trimmed place, .error cause⟩]
        (.failed (.write ⟨trimmed, none, none, .absent⟩ cause)) last ∧ last.state = state := by
  let messages := now.messages ++ ["creating managed identity '" ++ trimmed ++ "' in " ++ place]
  have sends : client.send (manager.storeIdentity trimmed place)
      ({ now with messages } : Run State).state = (.error cause, state) := sends
  exact ⟨{ now with state, messages },
    Runs.bind_ok named <| Runs.bind_ok located <| runs_progress.bind <|
      ((runs_request sends).mapFailure _).bind_failed, rfl⟩

/-- The group of the samples. -/
def deployGroup : ResourceManager := ⟨"mock://arm", "sub-1", "rg-1", 1⟩

/-- The request of the samples. -/
def storeDeploy : Request := deployGroup.storeIdentity "deploy" "westeurope"

/-- The refusal that is due in the samples. -/
def busy : RemoteError := .refused .put storeDeploy.url 503 "busy"

/-- A replica that refuses to store the managed identity of the samples, which it may hold. -/
def busyGroup (documents : Replica.Documents) : Run Replica :=
  ⟨{ Replica.empty ⟨fun _ => "new", 0⟩ with
      documents, failures := [⟨.put, "deploy", 0, 503, "busy"⟩] }, ⟨fun _ => "new", 0⟩, []⟩

namespace Command

/-- The command of the samples. -/
def createDeploy : Command := .resources (.createIdentity "deploy" "westeurope")

theorem exists_createDeploy_runs (documents : Replica.Documents) :
    ∃ last, (createDeploy.program ⟨"mock://graph", 1⟩ deployGroup).Runs
        (Client.interrupted fun _ => none) (busyGroup documents) [⟨storeDeploy, .error busy⟩]
        (.failed ⟨none, .write ⟨"deploy", none, none, .absent⟩ busy⟩) last ∧
      last.state.documents = documents := by
  have named : ManagedIdentity.checkName "deploy" = .ok "deploy" := by decide +kernel
  have located : Argument.required "location" "westeurope" = .ok "westeurope" := by decide +kernel
  have isPut : storeDeploy.verb = .put := rfl
  have due : (⟨.put, "deploy", 0, 503, "busy"⟩ : Failure).concerns .put storeDeploy.url = true := by
    decide +kernel
  let state : Replica :=
    { (busyGroup documents).state with requests := [storeDeploy], failures := [] }
  have sends : (Client.interrupted fun _ => none).send storeDeploy (busyGroup documents).state =
      (.error busy, state) := by
    simp only [Client.interrupted, Replica.answer, busyGroup, Replica.takeFailure, isPut, due,
      if_true]
    rfl
  obtain ⟨last, runs, last_eq⟩ := ResourceManager.createManagedIdentity_refused named located sends
  exact ⟨last, runs.bind_return.mapFailure _, congrArg Replica.documents last_eq⟩

/-- A managed identity that is not there is not stored, and is truly reported as absent. -/
theorem refused_write_state_iff_sample :
    ∃ last, (createDeploy.program ⟨"mock://graph", 1⟩ deployGroup).Runs
        (Client.interrupted fun _ => none) (busyGroup []) [⟨storeDeploy, .error busy⟩]
        (.failed ⟨none, .write ⟨"deploy", none, none, .absent⟩ busy⟩) last ∧
      ReportsRefusal ⟨"mock://graph", 1⟩ createDeploy "new" (busyGroup []).state last.state
        [⟨storeDeploy, .error busy⟩] ⟨"deploy", none, none, .absent⟩ busy := by
  obtain ⟨last, runs, -⟩ := exists_createDeploy_runs []
  exact ⟨last, runs, refused_write_state_iff ⟨"mock://graph", 1⟩ deployGroup createDeploy trivial
    (fun _ => none) (busyGroup []) last _ _ runs _ _ rfl⟩

/-- A managed identity that is there already is reported as absent when it is not stored again. -/
theorem createIdentity_reported_absent :
    ∃ last, (createDeploy.program ⟨"mock://graph", 1⟩ deployGroup).Runs
        (Client.interrupted fun _ => none)
        (busyGroup [((Location.ofUrl storeDeploy.url).path, .object [])])
        [⟨storeDeploy, .error busy⟩]
        (.failed ⟨none, .write ⟨"deploy", none, none, .absent⟩ busy⟩) last ∧
      last.state.resourceState storeDeploy.url = .present none := by
  obtain ⟨last, runs, documents⟩ :=
    exists_createDeploy_runs [((Location.ofUrl storeDeploy.url).path, .object [])]
  have stored : last.state.document? storeDeploy.url = some (.object []) := by
    rw [Replica.document?, documents]
    simp [Replica.Documents.find?, Members.find?]
  refine ⟨last, runs, ?_⟩
  rw [Replica.resourceState, stored]
  rfl

end Command

end Provision
