import Mathlib.Data.List.Nodup
import Provision.Proofs.KnownTokens
import Provision.Proofs.Requests

/-!
# What each verb does to the documents

A replica that answers a request keeps the request and changes its documents only as the
verb of the request says, and only if the request succeeds.  The documents stand in an
order, by paths that differ, and what is said about the others is said about their order
as well: a document that is replaced stays in its place, a new one comes last, and what
a deletion leaves keeps its order.

A path that merely begins like a deleted one does not lie below it, so that it is the
slash after the deleted path that decides.
-/

namespace Provision

theorem Members.find?_override {Value : Type} {name : String}
    {members changes : List (String × Value)} :
    find? name (override members changes) =
      (find? name (ofList changes)).or (find? name members) := by
  -- the changes are made one after the other, and the last one of a name is the one that stays
  induction changes using List.reverseRecOn with
  | nil => rfl
  | append_singleton changes change ih =>
      have last (members : List (String × Value)) : override members (changes ++ [change]) =
          insert change.1 change.2 (override members changes) := by
        simp [override]
      simp only [ofList, last, find?_insert] at ih ⊢
      by_cases same : name = change.1 <;> simp [same, ih]

namespace Replica

namespace Documents

variable {path : String} {document : Json} {documents earlier later : Documents}

/-- A document is stored at a path: in the place of the one that stood there, or after all others,
which are as before and in their order. -/
structure Stores (path : String) (document : Json) (earlier later : Documents) : Prop where
  found : later.find? path = some document
  others : (later.filter fun stored => stored.1 ≠ path) =
    earlier.filter fun stored => stored.1 ≠ path
  paths : later.map Prod.fst = earlier.map Prod.fst ++
    if path ∈ earlier.map Prod.fst then [] else [path]

theorem filter_others_store :
    ((documents.store path document).filter fun stored => stored.1 ≠ path) =
      documents.filter fun stored => stored.1 ≠ path := by
  induction documents with
  | nil => simp [store]
  | cons stored rest ih =>
      by_cases same : stored.1 = path
      · simp [store, same]
      · simpa [store, same] using ih

theorem paths_store : (documents.store path document).map Prod.fst =
    documents.map Prod.fst ++ if path ∈ documents.map Prod.fst then [] else [path] := by
  induction documents with
  | nil => simp [store]
  | cons stored rest ih =>
      by_cases same : stored.1 = path
      · simp [store, same]
      · have differs : path ≠ stored.1 := Ne.symm same
        simp only [store, same, if_false, List.map_cons, ih, List.cons_append, List.mem_cons,
          differs, false_or]

theorem stores_store (path : String) (document : Json) (documents : Documents) :
    Stores path document documents (documents.store path document) :=
  ⟨find?_store_self, filter_others_store, paths_store⟩

/-- Each path stays the path of one document. -/
theorem Stores.distinct (stores : Stores path document earlier later)
    (distinct : (earlier.map Prod.fst).Nodup) : (later.map Prod.fst).Nodup := by
  rw [stores.paths]
  by_cases there : path ∈ earlier.map Prod.fst
  · simpa [there] using distinct
  · rw [if_neg there, ← List.concat_eq_append]
    exact List.Nodup.concat there distinct

/-- The documents are left out that stand at a path or below it, and those that remain keep their
order. -/
def withoutTree (path : String) (documents : Documents) : Documents :=
  documents.filter fun stored =>
    stored.1 ≠ path ∧ ¬(path ++ "/").toList <+: stored.1.toList

end Documents

theorem filter_isBelow (path : String) (documents : Documents) :
    (documents.filter fun (other, _) => other ≠ path && !isBelow path other) =
      documents.withoutTree path := by
  have isBelow_eq (other : String) :
      isBelow path other = decide ((path ++ "/").toList <+: other.toList) :=
    Bool.eq_iff_iff.mpr (Text.startsWith_iff.trans (decide_eq_true_iff).symm)
  simp only [Documents.withoutTree, isBelow_eq, Bool.decide_and, decide_not]

example : Documents.withoutTree "/apps/1" [("/apps/10", .null), ("/apps/1/owners/2", .null),
    ("/apps/1", .null), ("/apps/2", .null)] = [("/apps/10", .null), ("/apps/2", .null)] := rfl

/-- The members of an object when changes have been made to those that it had before. -/
structure Overrides (changes members merged : List (String × Json)) : Prop where
  find? : ∀ name, Members.find? name merged =
    (Members.find? name (Members.ofList changes)).or (Members.find? name members)
  sorted : Members.Sorted members → Members.Sorted merged

theorem overrides_override (members changes : List (String × Json)) :
    Overrides changes members (Members.override members changes) :=
  ⟨fun _ => Members.find?_override, Members.Sorted.override⟩

/-- What a request that succeeds with a document makes of the documents of a replica. -/
inductive Effect (request : Request) (earlier : Documents) : Json → Documents → Prop
  /-- Reading changes nothing. -/
  | read {document : Json} (isGet : request.verb = .get) : Effect request earlier document earlier
  /-- A document is added below the path of the request, under the id that it is returned with. -/
  | added {document : Json} {id : String} {later : Documents} (isPost : request.verb = .post)
      (hasId : document.get? "id" = some (.string id))
      (stores : Documents.Stores ((Location.ofUrl request.url).path ++ "/" ++ id) document earlier
        later) : Effect request earlier document later
  /-- The document at the path of the request gets the members that were sent. -/
  | changed {changes members merged : List (String × Json)} {later : Documents}
      (isPatch : request.verb = .patch) (body : request.body = some (.object changes))
      (stored : earlier.find? (Location.ofUrl request.url).path = some (.object members))
      (overrides : Overrides changes members merged)
      (stores : Documents.Stores (Location.ofUrl request.url).path (.object merged) earlier
        later) : Effect request earlier .null later
  /-- The document that is returned stands at the path of the request. -/
  | put {document : Json} {later : Documents} (isPut : request.verb = .put)
      (stores : Documents.Stores (Location.ofUrl request.url).path document earlier later) :
      Effect request earlier document later
  /-- The document at the path of the request is gone with all that stood below it. -/
  | deleted (isDelete : request.verb = .delete)
      (stored : (earlier.find? (Location.ofUrl request.url).path).isSome) :
      Effect request earlier .null (earlier.withoutTree (Location.ofUrl request.url).path)

variable {request : Request} {document : Json} {earlier later : Replica}

/-- A request that succeeds leaves each path the path of one document. -/
theorem Effect.distinct {earlier later : Documents} (effect : Effect request earlier document later)
    (distinct : (earlier.map Prod.fst).Nodup) : (later.map Prod.fst).Nodup := by
  cases effect with
  | read => exact distinct
  | added isPost hasId stores => exact stores.distinct distinct
  | changed isPatch body stored overrides stores => exact stores.distinct distinct
  | put isPut stores => exact stores.distinct distinct
  | deleted => exact distinct.sublist (List.filter_sublist.map Prod.fst)

theorem get?_object {name : String} {members : List (String × Json)} :
    (Json.object members).get? name = Members.find? name members := rfl

/-- The id that a new document gets: the one that is sent with it, or a new one. -/
def newId (replica : Replica) (members : List (String × Json)) : String :=
  ((Members.find? "id" members).bind Json.text?).getD replica.ids.current

/-- A document that is added is returned with the id it is stored under. -/
theorem create_stores (location : Location) (members : List (String × Json)) :
    (earlier.create location members).1.get? "id" = some (.string (earlier.newId members)) ∧
      (earlier.create location members).2.documents =
        earlier.documents.store (location.path ++ "/" ++ earlier.newId members)
          (earlier.create location members).1 := by
  -- neither the client id nor the type that may be set after the id is called "id"
  have identified (replica : Replica) (id : String) : Members.find? "id"
      (assignAppId replica location.path (Members.insert "id" (.string id) members)).1 =
        some (.string id) := by
    rw [find?_assignAppId (by decide), Members.find?_insert_self]
  obtain ⟨path, cast⟩ := location
  cases known : (Members.find? "id" members).bind Json.text? <;> cases cast <;>
    simp [create, newId, known, get?_object, Members.find?_insertNew_of_ne, identified,
      documents_assignAppId]

theorem requests_create (location : Location) (members : List (String × Json)) :
    (earlier.create location members).2.requests = earlier.requests := by
  simp only [create, assignAppId]
  cases (Members.find? "id" members).bind Json.text? <;> simp only <;> split <;> rfl

theorem bodyMembers_eq_ok_iff {body : Option Json} {members : List (String × Json)} :
    bodyMembers body = .ok members ↔ body = some (.object members) := by
  rcases body with _ | (_ | _ | _ | _ | _ | _) <;> simp [bodyMembers]

theorem change_eq_ok_iff {path : String} {changes : List (String × Json)} :
    earlier.change path changes = .ok later ↔
      ∃ members, earlier.documents.find? path = some (.object members) ∧
        { earlier with documents :=
          earlier.documents.store path (.object (Members.override members changes)) } = later := by
  rw [change]
  cases earlier.documents.find? path with
  | none => simp
  | some stored => cases stored <;> simp

theorem delete_eq_ok_iff {path : String} :
    earlier.delete path = .ok later ↔ (earlier.documents.find? path).isSome ∧
      { earlier with documents := earlier.documents.withoutTree path } = later := by
  rw [delete, filter_isBelow, Documents.has]
  cases earlier.documents.find? path <;> simp

/-- A request that is handled has the effect of its verb. -/
theorem effect_of_handle (handles : earlier.handle request = .ok (document, later)) :
    Effect request earlier.documents document later.documents ∧
      later.requests = earlier.requests := by
  rcases request with ⟨verb, url, body⟩
  cases verb with
  | get =>
      obtain rfl := eq_of_handle_get rfl handles
      exact ⟨.read rfl, rfl⟩
  | post =>
      simp only [handle, exceptBind_eq_ok, bodyMembers_eq_ok_iff] at handles
      obtain ⟨members, rfl, made⟩ := handles
      obtain ⟨hasId, stores⟩ := @create_stores earlier (Location.ofUrl url) members
      have kept := @requests_create earlier (Location.ofUrl url) members
      rw [Except.ok.inj made] at hasId stores kept
      exact ⟨.added rfl hasId (stores ▸ Documents.stores_store _ _ _), kept⟩
  | patch =>
      simp only [handle, exceptBind_eq_ok, bodyMembers_eq_ok_iff, change_eq_ok_iff] at handles
      obtain ⟨changes, rfl, _, ⟨members, stored, rfl⟩, ⟨⟩⟩ := handles
      exact ⟨.changed rfl rfl stored (overrides_override members changes)
        (Documents.stores_store _ _ _), rfl⟩
  | put =>
      simp only [handle, exceptBind_eq_ok, bodyMembers_eq_ok_iff] at handles
      obtain ⟨members, rfl, ⟨⟩⟩ := handles
      exact ⟨.put rfl (Documents.stores_store _ _ _), rfl⟩
  | delete =>
      simp only [handle, exceptBind_eq_ok, delete_eq_ok_iff] at handles
      obtain ⟨_, ⟨stored, rfl⟩, ⟨⟩⟩ := handles
      exact ⟨.deleted rfl stored, rfl⟩

/-- In a run, whatever is lost or refused, each path stays the path of one document. -/
theorem Leads.distinct {sent : List Exchange} (leads : Leads sent earlier later)
    (distinct : (earlier.documents.map Prod.fst).Nodup) :
    (later.documents.map Prod.fst).Nodup := by
  induction leads with
  | nil => exact distinct
  | refused documents _ _ ih => exact ih (documents ▸ distinct)
  | handled handles _ ih => exact ih ((effect_of_handle handles).1.distinct distinct)

/-- A replica has what a request asks for, and the request brings what its verb needs. -/
def Serves (replica : Replica) (request : Request) : Prop :=
  let location := Location.ofUrl request.url
  match request.verb with
  | .get =>
    (replica.document? request.url).isSome ∨ replica.children location ≠ [] ∨
      location.path ∈ replica.collections ∨
      (replica.documents.find? (parentOf location.path)).isSome
  | .post | .put => ∃ members, request.body = some (.object members)
  | .patch =>
    (∃ changes, request.body = some (.object changes)) ∧
      ∃ members, replica.document? request.url = some (.object members)
  | .delete => (replica.document? request.url).isSome

theorem exists_read_iff {location : Location} :
    (∃ document, earlier.read location = .ok document) ↔
      (earlier.documents.find? location.path).isSome ∨ earlier.children location ≠ [] ∨
        location.path ∈ earlier.collections ∨
        (earlier.documents.find? (parentOf location.path)).isSome := by
  rw [read]
  cases stored : earlier.documents.find? location.path with
  | some document => simp
  | none =>
      by_cases nothing : earlier.children location = [] ∧ location.path ∉ earlier.collections ∧
          earlier.documents.find? (parentOf location.path) = none
      · simp [Documents.has, nothing]
      · have something := nothing
        simp only [not_and_or, not_not, ← Option.isSome_iff_ne_none] at something
        simp [Documents.has, and_assoc, nothing, something]

/-- A replica handles the requests that it can serve, and refuses all others. -/
theorem exists_handle_iff :
    (∃ answered, earlier.handle request = .ok answered) ↔ earlier.Serves request := by
  rcases request with ⟨verb, url, body⟩
  cases verb with
  | get =>
      simp only [handle, Serves, exists_exceptBind_eq_ok, pure, Except.pure, Except.ok.injEq,
        exists_eq', and_true]
      exact exists_read_iff
  | post | put =>
      simp only [handle, Serves, exists_exceptBind_eq_ok, bodyMembers_eq_ok_iff, pure, Except.pure,
        Except.ok.injEq, exists_eq', and_true]
  | patch =>
      simp only [handle, Serves, exists_exceptBind_eq_ok, bodyMembers_eq_ok_iff, change_eq_ok_iff,
        pure, Except.pure, Except.ok.injEq, exists_eq', and_true]
      constructor
      · rintro ⟨changes, sent, _, members, stored, -⟩
        exact ⟨⟨changes, sent⟩, members, stored⟩
      · rintro ⟨⟨changes, sent⟩, members, stored⟩
        exact ⟨changes, sent, _, members, stored, rfl⟩
  | delete =>
      simp only [handle, Serves, exists_exceptBind_eq_ok, delete_eq_ok_iff, pure, Except.pure,
        Except.ok.injEq, exists_eq', and_true, exists_and_left]
      exact Iff.rfl

/-- A replica that has kept a request and used up the failure that was due for it. -/
def asked (replica : Replica) (request : Request) : Replica :=
  { replica with
    requests := replica.requests ++ [request]
    failures := (takeFailure request.verb request.url replica.failures).2 }

/-- A request is kept before it is seen whether it is refused. -/
theorem answer_eq (replica : Replica) (request : Request) : replica.answer request =
    match replica.due? request, (replica.asked request).handle request with
    | some failure, _ =>
      (.error (.refused request.verb request.url failure.status failure.body),
        replica.asked request)
    | none, .error (status, body) =>
      (.error (.refused request.verb request.url status body.compact), replica.asked request)
    | none, .ok (document, later) => (.ok document, later) := by
  rcases taken : takeFailure request.verb request.url replica.failures with ⟨due, failures⟩
  cases due with
  | some failure => simp only [answer, due?, asked, taken]
  | none =>
      simp only [answer, due?, asked, taken]
      cases handle { replica with requests := replica.requests ++ [request], failures } request <;>
        rfl

theorem exists_answer_iff (replica : Replica) (request : Request) :
    (∃ document, (replica.answer request).1 = .ok document) ↔
      replica.due? request = none ∧ replica.Serves request := by
  have serves_iff : (∃ answered, (replica.asked request).handle request = .ok answered) ↔
      replica.Serves request := exists_handle_iff
  rw [answer_eq, ← serves_iff]
  cases replica.due? request with
  | some failure => simp
  | none => cases (replica.asked request).handle request <;> simp

/-- A request to read is answered with what there is to read, if no failure is due. -/
theorem send_get {replica : Replica} {url : String}
    (calm : replica.due? ⟨.get, url, none⟩ = none) :
    Client.replica.send ⟨.get, url, none⟩ replica =
      match replica.read (.ofUrl url) with
      | .ok document => (.ok document, replica.asked ⟨.get, url, none⟩)
      | .error (status, body) =>
        (.error (.refused .get url status body.compact), replica.asked ⟨.get, url, none⟩) := by
  have same : (replica.asked ⟨.get, url, none⟩).read (.ofUrl url) = replica.read (.ofUrl url) := rfl
  change replica.answer _ = _
  rw [answer_eq, calm, handle, same]
  cases replica.read (.ofUrl url) <;> rfl

/-- What becomes of a replica that answers a request. -/
structure Answered (request : Request) (replica : Replica) (answer : Except RemoteError Json)
    (later : Replica) : Prop where
  /-- The request is kept behind all earlier ones. -/
  kept : later.requests = replica.requests ++ [request]
  /-- A request that is refused changes no document. -/
  refused : ∀ error, answer = .error error → later.documents = replica.documents
  /-- Reading changes no document. -/
  read : request.verb = .get → later.documents = replica.documents
  /-- A request that succeeds changes what its verb says. -/
  effect : ∀ document, answer = .ok document →
    Effect request replica.documents document later.documents
  /-- A request succeeds exactly if no failure is due for it and the replica can serve it. -/
  succeeds : (∃ document, answer = .ok document) ↔
    replica.due? request = none ∧ replica.Serves request

/-- Every request is kept, and has the effect of its verb or none at all. -/
theorem answer_effect (replica : Replica) (request : Request) :
    Answered request replica (replica.answer request).1 (replica.answer request).2 := by
  have serves_iff : (∃ answered, (replica.asked request).handle request = .ok answered) ↔
      replica.Serves request := exists_handle_iff
  rw [answer_eq]
  cases due : replica.due? request with
  | some failure => exact ⟨rfl, fun _ _ => rfl, fun _ => rfl, by simp, by simp [due]⟩
  | none =>
      cases handles : (replica.asked request).handle request with
      | error refusal =>
          have notServed : ¬replica.Serves request := by simp [← serves_iff, handles]
          exact ⟨rfl, fun _ _ => rfl, fun _ => rfl, by simp, by simp [notServed]⟩
      | ok answered =>
          have served : replica.Serves request := serves_iff.mp ⟨answered, handles⟩
          obtain ⟨document, later⟩ := answered
          obtain ⟨effect, kept⟩ := effect_of_handle handles
          refine ⟨kept, by simp, ?_, ?_, by simp [due, served]⟩
          · intro isGet
            obtain rfl := eq_of_handle_get (by simp [Request.isWrite, isGet]) handles
            rfl
          · rintro _ ⟨⟩
            exact effect

end Replica

/-- The directory of the samples. -/
def Directory.sampleGraph : Directory := ⟨"mock://graph/beta", 1⟩

end Provision
