import Provision.Proofs.Answers
import Provision.Proofs.Runs

/-!
# What a run does to a replica

A request that fails changes no document, and neither does one that reads.  So
the documents that a run leaves are those that its successful writes make of the
ones before it, whatever else was sent.
-/

namespace Provision

namespace Replica

/-- The answers that some replica gives when it handles a request. -/
def MayAnswer (request : Request) (answer : Except RemoteError Json) : Prop :=
  ∀ document, answer = .ok document →
    ∃ earlier later, handle earlier request = .ok (document, later)

/-- The exchanges that lead a replica from one state to another: those that fail leave the documents
and the ids alone, and the others are handled. -/
inductive Leads : List Exchange → Replica → Replica → Prop where
  | nil (replica : Replica) : Leads [] replica replica
  | refused {request : Request} {error : RemoteError} {sent : List Exchange}
      {earlier middle later : Replica} (documents : middle.documents = earlier.documents)
      (ids : middle.ids = earlier.ids) (onward : Leads sent middle later) :
      Leads (⟨request, .error error⟩ :: sent) earlier later
  | handled {request : Request} {document : Json} {sent : List Exchange}
      {earlier middle later : Replica} {requests : List Request} {failures : List Failure}
      (handles : handle { earlier with requests, failures } request = .ok (document, middle))
      (onward : Leads sent middle later) :
      Leads (⟨request, .ok document⟩ :: sent) earlier later

variable {schedule : Nat → Option RemoteError} {earlier middle later : Replica} {request : Request}
  {sent sentLater : List Exchange} {document : Json}

/-- The first exchange of a client that may be interrupted leads to the state that it leaves. -/
theorem Leads.of_send
    (onward : Leads sent ((Client.interrupted schedule).send request earlier).2 later) :
    Leads (⟨request, ((Client.interrupted schedule).send request earlier).1⟩ :: sent) earlier
      later := by
  cases lost : schedule earlier.requests.length with
  | some error =>
      simp only [Client.interrupted, lost] at onward ⊢
      refine .refused ?_ ?_ onward <;> rfl
  | none =>
      simp only [Client.interrupted, lost] at onward ⊢
      rcases taken : takeFailure request.verb request.url earlier.failures with ⟨due, failures⟩
      cases due with
      | some failure =>
          simp only [answer, taken] at onward ⊢
          refine .refused ?_ ?_ onward <;> rfl
      | none =>
          cases handles : handle { earlier with
              requests := earlier.requests ++ [request], failures } request with
          | error refusal =>
              simp only [answer, taken, handles] at onward ⊢
              refine .refused ?_ ?_ onward <;> rfl
          | ok answered =>
              simp only [answer, taken, handles] at onward ⊢
              exact .handled handles onward

/-- A request is refused and leaves the documents and the ids alone, or it is handled. -/
theorem send_cases {answer : Except RemoteError Json}
    (sends : (Client.interrupted schedule).send request earlier = (answer, later)) :
    (∃ error, answer = .error error ∧ later.documents = earlier.documents ∧
      later.ids = earlier.ids) ∨
    ∃ requests failures document, answer = .ok document ∧
      handle { earlier with requests, failures } request = .ok (document, later) := by
  have leads : Leads [⟨request, answer⟩] earlier later := by
    have first := Leads.of_send
      (.nil ((Client.interrupted schedule).send request earlier).2)
    rwa [sends] at first
  cases leads with
  | refused documents ids onward =>
      cases onward
      exact .inl ⟨_, rfl, documents, ids⟩
  | handled handles onward =>
      cases onward
      exact .inr ⟨_, _, _, rfl, handles⟩

/-- A request is refused, its program fails and everything is left as it was, or the request is
handled and its program goes on. -/
theorem handled_of_runs {Failure Next : Type} {now last : Run Replica}
    {describe : RemoteError → Failure} {next : Json → Program Failure Next}
    {ending : Ending Failure Next}
    (runs : ((Program.request request).mapFailure describe >>= next).Runs
      (Client.interrupted schedule) now sent ending last) :
    (∃ error, ending = .failed (describe error) ∧
      last.state.documents = now.state.documents ∧ last.state.ids = now.state.ids) ∨
    ∃ requests failures document state rest,
      handle { now.state with requests, failures } request = .ok (document, state) ∧
        (next document).Runs (Client.interrupted schedule) { now with state } rest ending last := by
  rcases runs.of_request with
    ⟨error, state, sends, rfl, rfl⟩ | ⟨document, state, rest, sends, -, goesOn⟩
  · rcases send_cases sends with ⟨_, -, documents, ids⟩ | ⟨_, _, _, ⟨⟩, _⟩
    exact .inl ⟨error, rfl, documents, ids⟩
  · rcases send_cases sends with ⟨_, ⟨⟩, _⟩ | ⟨requests, failures, _, ⟨⟩, handles⟩
    exact .inr ⟨requests, failures, document, state, rest, handles, goesOn⟩

/-- The exchanges of a run lead from the state before it to the state after it. -/
theorem leads_of_runs {Failure Result : Type} {program : Program Failure Result}
    {now last : Run Replica} {ending : Ending Failure Result}
    (runs : program.Runs (Client.interrupted schedule) now sent ending last) :
    Leads sent now.state last.state := by
  rcases runs with ⟨run_eq, rfl⟩
  induction program generalizing now with
  | done | fail | exhausted =>
      rcases Prod.mk.inj run_eq with ⟨-, rfl⟩
      exact .nil _
  | send request answered ih =>
      apply Leads.of_send
      exact ih _ run_eq
  | report message rest ih => exact ih run_eq
  | fresh drawn ih => exact ih _ run_eq

theorem Leads.mayAnswer (leads : Leads sent earlier later) :
    ∀ exchange ∈ sent, MayAnswer exchange.request exchange.answer := by
  induction leads with
  | nil => simp
  | refused _ _ _ ih =>
      refine List.forall_mem_cons.mpr ⟨?_, ih⟩
      intro document answered
      simp at answered
  | handled handles _ ih =>
      refine List.forall_mem_cons.mpr ⟨?_, ih⟩
      rintro document ⟨⟩
      exact ⟨_, _, handles⟩

theorem Leads.split (leads : Leads (sent ++ sentLater) earlier later) :
    ∃ middle, Leads sent earlier middle ∧ Leads sentLater middle later := by
  induction sent generalizing earlier with
  | nil => exact ⟨earlier, .nil earlier, leads⟩
  | cons exchange rest ih =>
      cases leads with
      | refused documents ids onward =>
          rcases ih onward with ⟨middle, first, second⟩
          exact ⟨middle, .refused documents ids first, second⟩
      | handled handles onward =>
          rcases ih onward with ⟨middle, first, second⟩
          exact ⟨middle, .handled handles first, second⟩

/-- Reading leaves a replica as it is. -/
theorem eq_of_handle_get (isRead : request.isWrite = false)
    (handles : handle earlier request = .ok (document, later)) : later = earlier := by
  have isGet : request.verb = .get := by simpa [Request.isWrite] using isRead
  simp only [handle, isGet] at handles
  cases found : earlier.read (Location.ofUrl request.url) with
  | error refusal => simp [found, bind, Except.bind] at handles
  | ok stored =>
      simp only [found, bind, Except.bind, pure, Except.pure, Except.ok.injEq, Prod.mk.injEq]
        at handles
      exact handles.2.symm

/-- Where no document is stored the documents below are brought, in one page. -/
theorem of_handle_get_list {url : String} {body : Option Json}
    (noDocument : earlier.document? url = none)
    (handles : handle earlier ⟨.get, url, body⟩ = .ok (document, later)) :
    document = .object [("value", .array (earlier.children (.ofUrl url)))] ∧ later = earlier := by
  refine ⟨?_, eq_of_handle_get rfl handles⟩
  simp only [handle, bind, Except.bind, pure, Except.pure] at handles
  rcases read_list noDocument with brought | ⟨⟨refusal, refused⟩, -⟩
  · simp only [brought, Except.ok.injEq, Prod.mk.injEq] at handles
    exact handles.1.symm
  · simp [refused] at handles

/-- Without a write that succeeds the documents and the ids stay as they are. -/
theorem Leads.unchanged (leads : Leads sent earlier later)
    (noneWritten : ∀ exchange ∈ sent, exchange.isWrite = true → exchange.succeeded = false) :
    later.documents = earlier.documents ∧ later.ids = earlier.ids := by
  induction leads with
  | nil => exact ⟨rfl, rfl⟩
  | refused documents ids _ ih =>
      rcases ih fun exchange later_mem => noneWritten exchange (List.mem_cons_of_mem _ later_mem)
        with ⟨documentsLater, idsLater⟩
      exact ⟨documentsLater.trans documents, idsLater.trans ids⟩
  | @handled request document _ earlier middle _ requests failures handles _ ih =>
      rcases ih fun exchange later_mem => noneWritten exchange (List.mem_cons_of_mem _ later_mem)
        with ⟨documentsLater, idsLater⟩
      have isRead : request.isWrite = false := by
        by_contra isWrite
        have refused := noneWritten ⟨request, .ok document⟩ (by simp)
          (by simpa [Exchange.isWrite] using isWrite)
        simp at refused
      obtain rfl := eq_of_handle_get isRead handles
      exact ⟨documentsLater, idsLater⟩

/-- Of a run with one write that succeeded the documents are those that the write leaves. -/
theorem Leads.single_write {reads refused : List Exchange}
    (leads : Leads (reads ++ ⟨request, .ok document⟩ :: refused) earlier later)
    (onlyReads : ∀ exchange ∈ reads, exchange.isWrite = false)
    (noneWritten : ∀ exchange ∈ refused, exchange.isWrite = true → exchange.succeeded = false) :
    ∃ before after : Replica, before.documents = earlier.documents ∧ before.ids = earlier.ids ∧
      handle before request = .ok (document, after) ∧ later.documents = after.documents := by
  rcases leads.split with ⟨middle, first, second⟩
  have unchanged := first.unchanged fun exchange read_mem isWrite => by
    simp [onlyReads exchange read_mem] at isWrite
  cases second with
  | @handled _ _ _ _ after _ requests failures handles onward =>
      exact ⟨{ middle with requests, failures }, after, unchanged.1, unchanged.2, handles,
        (onward.unchanged noneWritten).1⟩

/-- A change sets members of a stored object, and its answer is empty. -/
theorem of_handle_patch {url : String} {changes : List (String × Json)}
    (handles : handle earlier ⟨.patch, url, some (.object changes)⟩ = .ok (document, later)) :
    document = .null ∧ ∃ members, earlier.document? url = some (.object members) ∧
      later.documents = earlier.documents.store (Location.ofUrl url).path
        (.object (Members.override members changes)) := by
  simp only [handle, bodyMembers, bind, Except.bind, pure, Except.pure, change] at handles
  cases found : earlier.documents.find? (Location.ofUrl url).path with
  | none => simp [found] at handles
  | some stored =>
      cases stored with
      | object members =>
          simp only [found, Except.ok.injEq, Prod.mk.injEq] at handles
          rcases handles with ⟨rfl, rfl⟩
          exact ⟨rfl, members, found, rfl⟩
      | _ => simp [found] at handles

section Writes

variable {url path : String} {members : List (String × Json)}

theorem documents_assignAppId : (assignAppId earlier path members).2.documents =
    earlier.documents := by
  unfold assignAppId
  split <;> rfl

theorem find?_assignAppId {name : String} (different : name ≠ "appId") :
    Members.find? name (assignAppId earlier path members).1 = Members.find? name members := by
  unfold assignAppId
  split
  · exact Members.find?_insert_of_ne different
  · rfl

theorem withDefault_congr {Value : Type} {read? : Json → Option Value} {default : Value}
    {name : String} {fields others : List (String × Json)}
    (same : Members.find? name fields = Members.find? name others) :
    Json.withDefault read? default name fields = Json.withDefault read? default name others := by
  simp only [Json.withDefault, same]

theorem withDefault_of_find? {Value : Type} {read? : Json → Option Value} {default : Value}
    {name : String} {fields : List (String × Json)} {document : Json}
    (found : Members.find? name fields = some document) :
    Json.withDefault read? default name fields = read? document := by
  simp only [Json.withDefault, found]

theorem withDefault_of_absent {Value : Type} {read? : Json → Option Value} {default : Value}
    {name : String} {fields : List (String × Json)} (absent : Members.find? name fields = none) :
    Json.withDefault read? default name fields = some default := by
  simp only [Json.withDefault, absent]

/-- The client id that a document may be given is a text. -/
theorem exists_appId_assignAppId (absent : Members.find? "appId" members = none) :
    ∃ appId, Json.withDefault Json.text? "" "appId" (assignAppId earlier path members).1 =
      some appId := by
  unfold assignAppId
  split
  · exact ⟨earlier.ids.current, by simp [Json.withDefault, Json.text?]⟩
  · exact ⟨"", by simp [Json.withDefault, absent]⟩

/-- A new document bears the next id and is otherwise made of the members that were sent. -/
theorem of_handle_post (noId : Members.find? "id" members = none)
    (noAppId : Members.find? "appId" members = none)
    (handles : handle earlier ⟨.post, url, some (.object members)⟩ = .ok (document, later)) :
    ∃ created, document = .object created ∧
      Members.find? "id" created = some (.string earlier.ids.current) ∧
      (∃ appId, Json.withDefault Json.text? "" "appId" created = some appId) ∧
      (∀ name, name ≠ "id" → name ≠ "appId" → name ≠ "@odata.type" →
        Members.find? name created = Members.find? name members) ∧
      later.documents = earlier.documents.store
        ((Location.ofUrl url).path ++ "/" ++ earlier.ids.current) document := by
  simp only [handle, bodyMembers, bind, Except.bind, pure, Except.pure, create, noId,
    Option.bind_none, Except.ok.injEq, Prod.mk.injEq] at handles
  obtain ⟨made, left⟩ := handles
  let identified := Members.insert "id" (.string earlier.ids.current) members
  let drawn : Replica := { earlier with ids := earlier.ids.rest }
  let assigned := (drawn.assignAppId (Location.ofUrl url).path identified).1
  -- a type that the list is narrowed to is the last member that may be set
  obtain ⟨created, isObject, typed_apart⟩ : ∃ created, document = .object created ∧
      ∀ name, name ≠ "@odata.type" →
        Members.find? name created = Members.find? name assigned := by
    rw [← made]
    split
    · exact ⟨_, rfl, fun _ different => Members.find?_insertNew_of_ne different⟩
    · exact ⟨_, rfl, fun _ _ => rfl⟩
  have noAppIdYet : Members.find? "appId" identified = none := by
    rw [Members.find?_insert_of_ne (by decide)]
    exact noAppId
  refine ⟨created, isObject, ?_, ?_, ?_, ?_⟩
  · rw [typed_apart _ (by decide), find?_assignAppId (by decide)]
    exact Members.find?_insert_self
  · obtain ⟨appId, read⟩ : ∃ appId, Json.withDefault Json.text? "" "appId" assigned = some appId :=
      exists_appId_assignAppId noAppIdYet
    refine ⟨appId, ?_⟩
    rw [withDefault_congr (typed_apart _ (by decide))]
    exact read
  · intro name notId notAppId notType
    rw [typed_apart name notType, find?_assignAppId notAppId]
    exact Members.find?_insert_of_ne notId
  · rw [← left, ← made, documents_assignAppId]

/-- An application that is sent without a client id gets the id after its own for one. -/
theorem appId_of_handle_post (noId : Members.find? "id" members = none)
    (noAppId : Members.find? "appId" members = none)
    (isApplication :
      Text.sameIgnoringCase (lastSegment (Location.ofUrl url).path) "applications" = true)
    (handles : handle earlier ⟨.post, url, some (.object members)⟩ = .ok (document, later)) :
    document.get? "appId" = some (.string earlier.ids.rest.current) ∧
      later.ids = earlier.ids.rest.rest := by
  have noAppIdYet : Members.has "appId"
      (Members.insert "id" (.string earlier.ids.current) members) = false := by
    rw [Members.has, Members.find?_insert_of_ne (by decide), noAppId]
    rfl
  simp only [handle, bodyMembers, bind, Except.bind, pure, Except.pure, create, noId,
    Option.bind_none, assignAppId, isApplication, noAppIdYet, Bool.not_false, Bool.and_self,
    if_true, Except.ok.injEq, Prod.mk.injEq] at handles
  obtain ⟨rfl, rfl⟩ := handles
  refine ⟨?_, rfl⟩
  split <;> simp [Json.get?, Json.members?, Members.find?_insertNew_of_ne]

/-- What is sent with a client id keeps it, and draws one id only. -/
theorem of_handle_post_identified {appId : Json} (noId : Members.find? "id" members = none)
    (appIdFound : Members.find? "appId" members = some appId)
    (handles : handle earlier ⟨.post, url, some (.object members)⟩ = .ok (document, later)) :
    document.get? "appId" = some appId ∧ later.ids = earlier.ids.rest ∧
      later.documents = earlier.documents.store
        ((Location.ofUrl url).path ++ "/" ++ earlier.ids.current) document := by
  have appIdThere : Members.find? "appId"
      (Members.insert "id" (.string earlier.ids.current) members) = some appId := by
    rw [Members.find?_insert_of_ne (by decide)]
    exact appIdFound
  have hasAppId : Members.has "appId"
      (Members.insert "id" (.string earlier.ids.current) members) = true := by
    rw [Members.has, appIdThere]
    rfl
  simp only [handle, bodyMembers, bind, Except.bind, pure, Except.pure, create, noId,
    Option.bind_none, assignAppId, hasAppId, Bool.not_true, Bool.and_false, Bool.false_eq_true,
    if_false, Except.ok.injEq, Prod.mk.injEq] at handles
  obtain ⟨rfl, rfl⟩ := handles
  refine ⟨?_, rfl, rfl⟩
  split
  · simpa [Json.get?, Json.members?, Members.find?_insertNew_of_ne] using appIdThere
  · exact appIdThere

/-- What is put in a place is made of the members that were sent, an id and a name. -/
theorem of_handle_put (noId : Members.find? "id" members = none)
    (noName : Members.find? "name" members = none)
    (handles : handle earlier ⟨.put, url, some (.object members)⟩ = .ok (document, later)) :
    ∃ created, document = .object created ∧
      (∃ id, Members.find? "id" created = some (.string id)) ∧
      (∃ name, Members.find? "name" created = some (.string name)) ∧
      ∀ name, name ≠ "id" → name ≠ "name" →
        Members.find? name created = Members.find? name members := by
  simp only [handle, bodyMembers, bind, Except.bind, pure, Except.pure, replace,
    Except.ok.injEq, Prod.mk.injEq] at handles
  rcases handles with ⟨rfl, rfl⟩
  refine ⟨_, rfl, ⟨resourceId (Location.ofUrl url).path, ?_⟩,
    ⟨lastSegment (Location.ofUrl url).path, ?_⟩, ?_⟩
  · rw [Members.find?_insertNew_of_ne (by decide)]
    exact Members.find?_insertNew_self noId
  · apply Members.find?_insertNew_self
    rw [Members.find?_insertNew_of_ne (by decide)]
    exact noName
  · intro name notId notName
    rw [Members.find?_insertNew_of_ne notName, Members.find?_insertNew_of_ne notId]

end Writes

end Replica

end Provision
