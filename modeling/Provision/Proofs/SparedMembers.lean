import Provision.Json.Pointer
import Provision.Proofs.CarriedScopes
import Provision.Proofs.RepeatedUpserts

/-!
# What a write of a set spares

A write of a set of items replaces one member of the application: the one at the root
of the way to the set.  The identifier URIs are such a member themselves, so that a
write of them spares everything else.  The permission scopes stand one step further
down, and what stands beside them is not written again: a write of the scopes spares
the other members of the application, but not the other members of `api`.

A location in a document is the list of the steps that lead there, through objects and
arrays alike.  It is beside a path if it neither leads to the end of the path nor
further down.
-/

namespace Provision

namespace Json

/-- A location that is neither on the way to the end of a path nor below it. -/
def IsBeside (path : List String) (location : List (List Char)) : Prop :=
  ¬path.map String.toList <+: location ∧ ¬location <+: path.map String.toList

/-- Two documents have the same parts everywhere beside a path. -/
def AgreeBeside (path : List String) (left right : Json) : Prop :=
  ∀ location, IsBeside path location → left.follow? location = right.follow? location

/-- A document has nothing at the root of a path, or nothing there beside the path. -/
def HoldsOnly (path : List String) (document : Json) : Prop :=
  ∀ location, IsBeside path location → location.head? = path.head?.map String.toList →
    document.follow? location = none

variable {path rest : List String} {root name : String} {location : List (List Char)}
  {step : List Char} {members : List (String × Json)} {part document : Json}

theorem isBeside_cons_self (beside : IsBeside (name :: rest) (name.toList :: location)) :
    IsBeside rest location := by
  simpa [IsBeside] using beside

/-- Nothing is found beside the path that a part was wrapped along. -/
theorem follow?_wrap_of_isBeside (beside : IsBeside path location) :
    (ItemSet.wrap path part).follow? location = none := by
  induction path generalizing location with
  | nil => exact absurd List.nil_prefix beside.1
  | cons name rest ih =>
      cases location with
      | nil => exact absurd List.nil_prefix beside.2
      | cons step location =>
          by_cases same : step = name.toList
          · subst same
            simpa [ItemSet.wrap, follow?, Members.find?] using ih (isBeside_cons_self beside)
          · have different : name ≠ String.ofList step := by
              rintro rfl
              exact same String.toList_ofList.symm
            simp [ItemSet.wrap, follow?, Members.find?, different]

/-- Setting a member along a path leaves alone what is beside the path exactly if there was nothing
beside it at its root. -/
theorem agreeBeside_insert_iff :
    AgreeBeside (root :: rest) (.object members)
        (.object (Members.insert root (ItemSet.wrap rest part) members)) ↔
      HoldsOnly (root :: rest) (.object members) := by
  have atRoot {location : List (List Char)}
      (beside : IsBeside (root :: rest) (root.toList :: location)) :
      (object (Members.insert root (ItemSet.wrap rest part) members)).follow?
        (root.toList :: location) = none := by
    simpa [follow?] using follow?_wrap_of_isBeside (isBeside_cons_self beside)
  constructor
  · intro agree location beside rooted
    cases location with
    | nil => simp at rooted
    | cons step location =>
        obtain rfl : step = root.toList := by simpa using rooted
        rw [agree _ beside, atRoot beside]
  · intro holdsOnly location beside
    cases location with
    | nil => exact absurd List.nil_prefix beside.2
    | cons step location =>
        by_cases same : step = root.toList
        · subst same
          rw [atRoot beside, holdsOnly _ beside rfl]
        · have different : String.ofList step ≠ root := by
            rintro rfl
            exact same String.toList_ofList.symm
          simp only [follow?, Members.find?_insert_of_ne different]

/-- There is nothing beside a path of one step at its root. -/
theorem holdsOnly_singleton : HoldsOnly [root] document := by
  intro location beside rooted
  cases location with
  | nil => simp at rooted
  | cons step location =>
      obtain rfl : step = root.toList := by simpa using rooted
      exact absurd (by simp) beside.1

end Json

/-- The member names on the way from an application to the set that a change is about. -/
def Change.path : Change → List String
  | .upsertScope _ | .removeScope _ => ["api", "oauth2PermissionScopes"]
  | .addUri _ | .removeUri _ => ["identifierUris"]

namespace Directory

variable {directory : Directory} {applicationId : String} {sent : List Exchange}
  {path : List String} {admits : Request → Except RemoteError Json → Prop}

/-- The change of an application that sets a part at the end of a path. -/
def setRequest (directory : Directory) (objectId : String) (path : List String) (part : Json) :
    Request :=
  ⟨.patch, directory.applicationUrl objectId, some (ItemSet.wrap path part)⟩

/-- Every write sets a part at the end of a path, in the application that the first request has
read. -/
def OnlySets (directory : Directory) (path : List String) (applicationId : String)
    (sent : List Exchange) : Prop :=
  ∀ write ∈ sent, write.isWrite = true → ∃ selected application ids part,
    sent.head? = some
      ⟨⟨.get, directory.url ("applications/" ++ applicationId ++ "?$select=" ++ selected), none⟩,
        .ok application⟩ ∧
    applicationIds? application = some ids ∧ write.request = directory.setRequest ids.1 path part

theorem WritesPlanned.onlySets {Element : Type} [Record Element] {itemSet : ItemSet Element}
    {planned : Collection Element → Collection Element → Prop}
    (writes : directory.WritesPlanned itemSet applicationId planned sent) :
    directory.OnlySets itemSet.path applicationId sent := by
  intro write write_mem isWrite
  obtain ⟨application, fetched, collection, isHead, read, -, request_eq⟩ :=
    writes write write_mem isWrite
  exact ⟨_, application, _, encode collection, isHead, (ItemSet.of_fetched? read).1, request_eq⟩

theorem writesPlanned_nil {Element : Type} [Record Element] {itemSet : ItemSet Element}
    {planned : Collection Element → Collection Element → Prop} :
    directory.WritesPlanned itemSet applicationId planned [] := by
  simp [WritesPlanned]

theorem addIdentifierUri_writes {uri : Option String} :
    (directory.addIdentifierUri applicationId uri).Ensures admits fun sent _ =>
      directory.WritesPlanned ItemSet.identifierUris (Text.trim applicationId)
        (fun uris written => ∃ (spec : UriSpec) (newId : String) (upserted : Upserted IdentifierUri),
          uris.upsert spec newId = .ok upserted ∧ upserted.collection = written) sent := by
  rw [addIdentifierUri_eq]
  apply Program.ensures_check
  · exact fun _ _ => writesPlanned_nil
  · intro applicationId accepted
    rcases Argument.eq_trim_of_required accepted with ⟨rfl, -⟩
    apply Program.ensures_check
    · exact fun _ _ => writesPlanned_nil
    · intro _ _
      apply fetch_then_writes
      intro fetched
      apply Program.ensures_check
      · simp
      · intro spec _
        apply Program.Ensures.bind_return
        apply upsertFetched_writes.weaken
        intro sent _ writes write write_mem
        obtain ⟨collection, planned, request_eq⟩ := writes write write_mem
        exact ⟨collection, ⟨spec, planned⟩, request_eq⟩

theorem removeIdentifierUri_writes {uri : String} :
    (directory.removeIdentifierUri applicationId uri).Ensures admits fun sent _ =>
      directory.WritesPlanned ItemSet.identifierUris (Text.trim applicationId)
        (fun uris written => ∃ plan, uris.removeByKey (Text.trim uri) false = .ok plan ∧
          ∃ step ∈ plan.steps, step.collection = written) sent := by
  apply Program.ensures_check
  · exact fun _ _ => writesPlanned_nil
  · intro applicationId accepted
    rcases Argument.eq_trim_of_required accepted with ⟨rfl, -⟩
    apply Program.ensures_check
    · exact fun _ _ => writesPlanned_nil
    · intro uri accepted
      rcases Argument.eq_trim_of_required accepted with ⟨rfl, -⟩
      exact removeItem_writes.bind_return

/-- A program whose writes only set the end of a path, whatever it is answered. -/
structure SetsOnly {Result : Type} (directory : Directory) (path : List String)
    (applicationId : String) (program : Program OperationError Result) : Prop where
  ensures : program.Ensures (fun _ _ => True) fun sent _ =>
    directory.OnlySets path applicationId sent

theorem setsOnly_of_writesPlanned {Element Result : Type} [Record Element]
    {itemSet : ItemSet Element} {planned : Collection Element → Collection Element → Prop}
    {program : Program OperationError Result} (path_eq : itemSet.path = path)
    (writes : program.Ensures (fun _ _ => True) fun sent _ =>
      directory.WritesPlanned itemSet applicationId planned sent) :
    directory.SetsOnly path applicationId program := by
  subst path_eq
  constructor
  apply writes.weaken
  intro sent ending planned
  exact planned.onlySets

theorem SetsOnly.bind_return {Result Next : Type} {program : Program OperationError Result}
    {change : Result → Next} (setsOnly : directory.SetsOnly path applicationId program) :
    directory.SetsOnly path applicationId (program >>= fun result => pure (change result)) :=
  ⟨setsOnly.ensures.bind_return⟩

theorem change_setsOnly (change : Change) :
    directory.SetsOnly change.path (Text.trim applicationId)
      (directory.change applicationId change) := by
  cases change with
  | upsertScope spec => exact (setsOnly_of_writesPlanned rfl upsertScope_writes).bind_return
  | removeScope value => exact (setsOnly_of_writesPlanned rfl removeScope_writes).bind_return
  | addUri uri => exact (setsOnly_of_writesPlanned rfl addIdentifierUri_writes).bind_return
  | removeUri uri => exact (setsOnly_of_writesPlanned rfl removeIdentifierUri_writes).bind_return

end Directory

namespace Replica

variable {directory : Directory} {objectId url root : String} {rest : List String}
  {sent : List Exchange} {earlier later : Replica} {document application : Json}

theorem Documents.store_store {path : String} {first second : Json} {documents : Documents} :
    (documents.store path first).store path second = documents.store path second := by
  induction documents with
  | nil => simp [store]
  | cons stored documents ih =>
      by_cases same : stored.1 = path
      · simp [store, same]
      · simp [store, same, ih]

/-- What a first request has read is what was stored. -/
theorem Leads.first_read
    (leads : Leads (⟨⟨.get, url, none⟩, .ok application⟩ :: sent) earlier later)
    (stored : earlier.document? url = some document) : application = document := by
  cases leads with
  | handled handles onward =>
      have found : earlier.documents.find? (Location.ofUrl url).path = some document := stored
      simp only [handle, read, found, bind, Except.bind, pure, Except.pure, Except.ok.injEq,
        Prod.mk.injEq] at handles
      exact handles.1.symm

/-- No write succeeded and the documents are as before, or the member at the root of the path is
set and all else is as before. -/
inductive SetAt (url root : String) (rest : List String) (sent : List Exchange)
    (earlier later : Replica) : Prop where
  | unwritten (noneWritten : ∀ write ∈ sent, write.isWrite = true → write.succeeded = false)
      (unchanged : later.documents = earlier.documents)
  | written {write : Exchange} {members : List (String × Json)} {part : Json}
      (write_mem : write ∈ sent) (isWrite : write.isWrite = true)
      (succeeded : write.succeeded = true)
      (stored : earlier.document? url = some (.object members))
      (changed : later.documents = earlier.documents.store (Location.ofUrl url).path
        (.object (Members.insert root (ItemSet.wrap rest part) members)))

/-- What a change is preceded by makes no difference if it writes nothing. -/
theorem SetAt.after_unwritten {exchange : Exchange} {middle : Replica}
    (setAt : SetAt url root rest sent middle later)
    (noWrite : exchange.isWrite = true → exchange.succeeded = false)
    (unchanged : middle.documents = earlier.documents) :
    SetAt url root rest (exchange :: sent) earlier later := by
  cases setAt with
  | unwritten noneWritten same =>
      exact .unwritten (List.forall_mem_cons.mpr ⟨noWrite, noneWritten⟩) (same.trans unchanged)
  | written write_mem isWrite succeeded stored changed =>
      rw [document?, unchanged] at stored
      rw [unchanged] at changed
      exact .written (List.mem_cons_of_mem _ write_mem) isWrite succeeded stored changed

/-- Of several writes the last one that succeeds stays. -/
theorem Leads.setAt (leads : Leads sent earlier later)
    (onlySets : ∀ write ∈ sent, write.isWrite = true → ∃ part,
      write.request = ⟨.patch, url, some (ItemSet.wrap (root :: rest) part)⟩) :
    SetAt url root rest sent earlier later := by
  induction leads with
  | nil => exact .unwritten (by simp) rfl
  | refused documents ids onward ih =>
      have setAt := ih fun write write_mem => onlySets write (List.mem_cons_of_mem _ write_mem)
      exact setAt.after_unwritten (fun _ => rfl) documents
  | @handled request answer sent earlier middle later requests failures handles onward ih =>
      have setAt := ih fun write write_mem => onlySets write (List.mem_cons_of_mem _ write_mem)
      cases isWrite : request.isWrite with
      | false =>
          obtain rfl := eq_of_handle_get isWrite handles
          exact setAt.after_unwritten (by simp [Exchange.isWrite, isWrite]) rfl
      | true =>
          obtain ⟨part, rfl⟩ := onlySets ⟨request, .ok answer⟩ (by simp) isWrite
          obtain ⟨-, members, stored, changed⟩ := of_handle_patch handles
          have here : middle.document? url =
              some (.object (Members.insert root (ItemSet.wrap rest part) members)) := by
            rw [document?, changed, Documents.find?_store_self]
            rfl
          cases setAt with
          | unwritten noneWritten same =>
              exact .written (List.mem_cons_self ..) isWrite rfl stored (same.trans changed)
          | written write_mem laterWrite laterSucceeded storedLater changedLater =>
              obtain rfl : _ = _ := Json.object.inj (Option.some.inj (here.symm.trans storedLater))
              rw [changed, Documents.store_store, Members.insert_insert] at changedLater
              exact .written (List.mem_cons_of_mem _ write_mem) laterWrite laterSucceeded stored
                changedLater

end Replica

namespace Directory

variable {directory : Directory} {argument objectId : String} {change : Change}
  {schedule : Nat → Option RemoteError} {now later : Run Replica} {sent : List Exchange}
  {ending : Ending OperationError Outcome} {document : Json}

/-- An application that bears its own id is the one that a change of it writes to. -/
theorem change_patches (named : Text.trim argument = objectId)
    (stored : now.state.document? (directory.applicationUrl objectId) = some document)
    (ownId : document.get? "id" = some (.string objectId))
    (runs : (directory.change argument change).Runs (Client.interrupted schedule) now sent ending
      later) :
    ∀ write ∈ sent, write.isWrite = true → ∃ part,
      write.request = directory.setRequest objectId change.path part := by
  intro write write_mem isWrite
  have onlySets := (change_setsOnly change).ensures.of_runs runs fun _ _ => trivial
  obtain ⟨selected, application, ids, part, isHead, identified, request_eq⟩ :=
    onlySets write write_mem isWrite
  cases sent with
  | nil => simp at write_mem
  | cons first rest =>
      obtain rfl := Option.some.inj isHead
      have storedThere : now.state.document? (directory.url ("applications/" ++ Text.trim argument
          ++ "?$select=" ++ selected)) = some document := by
        rw [Replica.document?, ofUrl_selection, named]
        exact stored
      obtain rfl := (Replica.leads_of_runs runs).first_read storedThere
      rw [ItemSet.objectId_of_applicationIds? identified ownId] at request_eq
      exact ⟨part, request_eq⟩

/-- A change of a set spares all other documents.  In its own application it spares everything beside
the set unless it succeeds in a write while something stands beside the set at its root, which
is never so for the identifier URIs. -/
theorem change_spares (named : Text.trim argument = objectId)
    (stored : now.state.document? (directory.applicationUrl objectId) = some document)
    (ownId : document.get? "id" = some (.string objectId))
    (runs : (directory.change argument change).Runs (Client.interrupted schedule) now sent ending
      later) :
    (∀ path, path ≠ (Replica.Location.ofUrl (directory.applicationUrl objectId)).path →
      later.state.documents.find? path = now.state.documents.find? path) ∧
    ∃ after, later.state.document? (directory.applicationUrl objectId) = some after ∧
      (Json.AgreeBeside change.path document after ↔
        (∀ write ∈ sent, write.isWrite = true → write.succeeded = false) ∨
          Json.HoldsOnly change.path document) ∧
      ((∃ uri, change = .addUri uri) ∨ (∃ uri, change = .removeUri uri) →
        Json.AgreeBeside change.path document after) := by
  obtain ⟨root, rest, path_eq⟩ : ∃ root rest, change.path = root :: rest := by
    cases change <;> exact ⟨_, _, rfl⟩
  have patches := change_patches named stored ownId runs
  rw [path_eq] at patches ⊢
  have alone : (∃ uri, change = .addUri uri) ∨ (∃ uri, change = .removeUri uri) →
      Json.HoldsOnly (root :: rest) document := by
    rintro (⟨uri, rfl⟩ | ⟨uri, rfl⟩) <;> cases path_eq <;> exact Json.holdsOnly_singleton
  cases (Replica.leads_of_runs runs).setAt patches with
  | unwritten noneWritten unchanged =>
      refine ⟨fun path _ => by rw [unchanged], document, ?_, ?_, fun _ _ _ => rfl⟩
      · rw [Replica.document?, unchanged]
        exact stored
      · exact iff_of_true (fun _ _ => rfl) (.inl noneWritten)
  | @written _ members part write_mem isWrite succeeded storedMembers changed =>
      obtain rfl := Option.some.inj (stored.symm.trans storedMembers)
      have storedLater : later.state.document? (directory.applicationUrl objectId) =
          some (.object (Members.insert root (ItemSet.wrap rest part) members)) := by
        rw [Replica.document?, changed, Replica.Documents.find?_store_self]
      have someWritten : ¬∀ write ∈ sent, write.isWrite = true → write.succeeded = false := by
        intro noneWritten
        simp [noneWritten _ write_mem isWrite] at succeeded
      refine ⟨fun path apart => ?_, _, storedLater, ?_, ?_⟩
      · rw [changed, Replica.Documents.find?_store_of_ne apart]
      · rw [Json.agreeBeside_insert_iff]
        exact (or_iff_right someWritten).symm
      · exact fun aboutUris => Json.agreeBeside_insert_iff.mpr (alone aboutUris)

/-- An application with a scope, and with something beside its scopes. -/
def crowdedApplication : Json :=
  .object [("api", .object [("acceptMappedClaims", .bool true),
      ("oauth2PermissionScopes", .array
        [.object [("id", .string "s1"), ("isEnabled", .bool true), ("value", .string "read")]])]),
    ("id", .string "a1")]

/-- A run that starts at a replica with that application alone. -/
def crowdedStart : Run Replica :=
  ⟨(Replica.empty ⟨fun _ => "new", 0⟩).withDocument "https://directory/applications/a1"
    crowdedApplication, ⟨fun _ => "id", 0⟩, []⟩

/-- An application keeps its scope, and all else that it has beside its URIs, when a URI is added. -/
theorem change_spares_sample :
    let directory : Directory := ⟨"https://directory", 1⟩
    ∃ sent ending later after,
      (directory.change " a1" (.addUri (some "api://one"))).Runs (Client.interrupted fun _ => none)
        crowdedStart sent ending later ∧
      later.state.document? "https://directory/applications/a1" = some after ∧
      Json.AgreeBeside ["identifierUris"] crowdedApplication after := by
  intro directory
  -- The run is opened, so that nothing below computes it.
  obtain ⟨sent, ending, later, runs⟩ : ∃ sent ending later,
      (directory.change " a1" (.addUri (some "api://one"))).Runs (Client.interrupted fun _ => none)
        crowdedStart sent ending later :=
    ⟨_, _, _, Program.runs_run ..⟩
  have url_eq : directory.applicationUrl "a1" = "https://directory/applications/a1" := rfl
  have stored : crowdedStart.state.document? (directory.applicationUrl "a1") =
      some crowdedApplication := by
    rw [url_eq]
    rfl
  have named : Text.trim " a1" = "a1" := rfl
  have ownId : crowdedApplication.get? "id" = some (.string "a1") := rfl
  obtain ⟨-, after, storedLater, -, spares⟩ := change_spares named stored ownId runs
  rw [url_eq] at storedLater
  exact ⟨sent, ending, later, after, runs, storedLater, spares (.inl ⟨some "api://one", rfl⟩)⟩

/-- When a scope is removed, what stands beside the scopes is lost. -/
theorem removeScope_drops_bystander :
    let directory : Directory := ⟨"https://directory", 1⟩
    ∃ sent removed later after,
      (directory.removeScope "a1" "read").Runs Client.replica crowdedStart sent (.returned removed)
        later ∧
      later.state.document? "https://directory/applications/a1" = some after ∧
      ¬Json.AgreeBeside ["api", "oauth2PermissionScopes"] crowdedApplication after := by
  refine ⟨_, _, _, _, ⟨rfl, rfl⟩, rfl, ?_⟩
  intro agree
  have beside : Json.IsBeside ["api", "oauth2PermissionScopes"]
      ["api".toList, "acceptMappedClaims".toList] := by
    constructor <;> decide
  have same := agree _ beside
  revert same
  decide

end Directory

end Provision
