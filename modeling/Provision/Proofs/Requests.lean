import Provision.Deletion
import Provision.Proofs.Effects

/-!
# What becomes of a request

A request is disturbed on its way or by a failure that is due, and then nothing
is changed, or the replica handles it.  No request changes which paths are
declared as collections, and where nothing disturbs one request nothing
disturbs the ones after it.
-/

namespace Provision

namespace Replica

variable {schedule : Nat → Option RemoteError} {replica earlier later : Replica}
  {request : Request} {url : String} {document : Json}

/-- Two replicas hold the same, whatever they were asked and whatever they are told to fail. -/
structure HoldsSame (earlier later : Replica) : Prop where
  documents : later.documents = earlier.documents
  collections : later.collections = earlier.collections
  ids : later.ids = earlier.ids

theorem HoldsSame.trans {middle : Replica} (first : HoldsSame earlier middle)
    (second : HoldsSame middle later) : HoldsSame earlier later :=
  ⟨second.documents.trans first.documents, second.collections.trans first.collections,
    second.ids.trans first.ids⟩

theorem create_keeps (location : Location) (members : List (String × Json)) :
    (replica.create location members).2.collections = replica.collections ∧
      (replica.create location members).2.failures = replica.failures := by
  simp only [create, assignAppId]
  cases (Members.find? "id" members).bind Json.text? <;> simp only <;> split <;> exact ⟨rfl, rfl⟩

/-- What a replica declares as collections and what it is told to fail is no matter of requests. -/
theorem handle_keeps (handles : earlier.handle request = .ok (document, later)) :
    later.collections = earlier.collections ∧ later.failures = earlier.failures := by
  rcases request with ⟨verb, url, body⟩
  cases verb with
  | get =>
      obtain rfl := eq_of_handle_get rfl handles
      exact ⟨rfl, rfl⟩
  | post =>
      cases read : bodyMembers body with
      | error refusal => simp [handle, read, bind, Except.bind] at handles
      | ok members =>
          simp only [handle, read, bind, Except.bind, pure, Except.pure, Except.ok.injEq] at handles
          have keeps := @create_keeps earlier (Location.ofUrl url) members
          rwa [handles] at keeps
  | patch =>
      cases read : bodyMembers body with
      | error refusal => simp [handle, read, bind, Except.bind] at handles
      | ok changes =>
          simp only [handle, read, bind, Except.bind, pure, Except.pure, change] at handles
          cases found : earlier.documents.find? (Location.ofUrl url).path with
          | none => simp [found] at handles
          | some stored =>
              cases stored with
              | object members =>
                  simp only [found, Except.ok.injEq, Prod.mk.injEq] at handles
                  obtain ⟨-, rfl⟩ := handles
                  exact ⟨rfl, rfl⟩
              | _ => simp [found] at handles
  | put =>
      cases read : bodyMembers body with
      | error refusal => simp [handle, read, bind, Except.bind] at handles
      | ok members =>
          simp only [handle, read, bind, Except.bind, pure, Except.pure, replace, Except.ok.injEq,
            Prod.mk.injEq] at handles
          obtain ⟨-, rfl⟩ := handles
          exact ⟨rfl, rfl⟩
  | delete =>
      simp only [handle, delete] at handles
      split at handles
      · simp only [bind, Except.bind, pure, Except.pure, Except.ok.injEq, Prod.mk.injEq] at handles
        obtain ⟨-, rfl⟩ := handles
        exact ⟨rfl, rfl⟩
      · simp [bind, Except.bind] at handles

/-- What becomes of a request. -/
inductive Sends (schedule : Nat → Option RemoteError) (request : Request) (replica : Replica) :
    Prop where
  | disturbed (cause : RemoteError) (later : Replica)
      (sends : (Client.interrupted schedule).send request replica = (.error cause, later))
      (same : HoldsSame replica later) (isDisturbed : ¬Calm schedule replica)
  | refused (requests : List Request) (failures : List Failure) (refusal : Nat × Json)
      (quiet : replica.failures = [] → failures = [])
      (handles : handle { replica with requests, failures } request = .error refusal)
      (sends : (Client.interrupted schedule).send request replica =
        (.error (.refused request.verb request.url refusal.1 refusal.2.compact),
          { replica with requests, failures }))
  | handled (requests : List Request) (failures : List Failure) (document : Json) (later : Replica)
      (quiet : replica.failures = [] → failures = [])
      (handles : handle { replica with requests, failures } request = .ok (document, later))
      (sends : (Client.interrupted schedule).send request replica = (.ok document, later))

theorem sends (schedule : Nat → Option RemoteError) (request : Request) (replica : Replica) :
    Sends schedule request replica := by
  cases lost : schedule replica.requests.length with
  | some cause =>
      refine .disturbed cause { replica with requests := replica.requests ++ [request] }
        (by simp only [Client.interrupted, lost]) ⟨rfl, rfl, rfl⟩ ?_
      intro calm
      simp [calm.noneLost] at lost
  | none =>
      rcases taken : takeFailure request.verb request.url replica.failures with ⟨due, failures⟩
      cases due with
      | some failure =>
          refine .disturbed
            (.refused request.verb request.url failure.status failure.body)
            { replica with requests := replica.requests ++ [request], failures }
            (by simp only [Client.interrupted, lost, answer, taken]) ⟨rfl, rfl, rfl⟩ ?_
          intro calm
          simp [calm.noneDue, takeFailure] at taken
      | none =>
          let requests := replica.requests ++ [request]
          have quiet : replica.failures = [] → failures = [] := by
            intro noneQueued
            rw [noneQueued, takeFailure] at taken
            exact (Prod.mk.inj taken).2.symm
          cases handles : handle { replica with requests, failures } request with
          | error refusal =>
              refine .refused requests failures refusal quiet handles ?_
              simp only [requests] at handles ⊢
              simp only [Client.interrupted, lost, answer, taken, handles]
          | ok answered =>
              refine .handled requests failures answered.1 answered.2 quiet handles ?_
              simp only [requests] at handles
              simp only [Client.interrupted, lost, answer, taken, handles]

theorem keeps_of_send (schedule : Nat → Option RemoteError) (request : Request)
    (replica : Replica) :
    ((Client.interrupted schedule).send request replica).2.collections = replica.collections ∧
      (Calm schedule replica →
        Calm schedule ((Client.interrupted schedule).send request replica).2) := by
  cases sends schedule request replica with
  | disturbed cause later sends same isDisturbed =>
      rw [sends]
      exact ⟨same.collections, fun calm => absurd calm isDisturbed⟩
  | refused requests failures refusal quiet handles sends =>
      rw [sends]
      exact ⟨rfl, fun calm => ⟨calm.noneLost, quiet calm.noneDue⟩⟩
  | handled requests failures document later quiet handles sends =>
      rw [sends]
      obtain ⟨collections, kept⟩ := handle_keeps handles
      exact ⟨collections, fun calm => ⟨calm.noneLost, kept.trans (quiet calm.noneDue)⟩⟩

/-- A run leaves the collections declared as they are, and nothing disturbs what comes after it if
nothing disturbs it. -/
theorem keeps_of_runs {Failure Result : Type} {program : Program Failure Result}
    {now last : Run Replica} {sent : List Exchange} {ending : Ending Failure Result}
    (runs : program.Runs (Client.interrupted schedule) now sent ending last) :
    last.state.collections = now.state.collections ∧
      (Calm schedule now.state → Calm schedule last.state) := by
  rcases runs with ⟨run_eq, -⟩
  induction program generalizing now with
  | done | fail | exhausted =>
      rcases Prod.mk.inj run_eq with ⟨-, rfl⟩
      exact ⟨rfl, id⟩
  | send request answered ih =>
      obtain ⟨collections, calm⟩ := keeps_of_send schedule request now.state
      obtain ⟨collectionsLater, calmLater⟩ := ih _ run_eq
      exact ⟨collectionsLater.trans collections, calmLater ∘ calm⟩
  | report message rest ih =>
      have kept := ih run_eq
      exact kept
  | fresh drawn ih =>
      have kept := ih _ run_eq
      exact kept

/-- What becomes of a request to delete a document: it is refused, or the document and all that
stands below it are gone. -/
inductive Deletes (schedule : Nat → Option RemoteError) (request : Request) (replica : Replica) :
    Prop where
  | refused (cause : RemoteError) (later : Replica)
      (sends : (Client.interrupted schedule).send request replica = (.error cause, later))
      (same : HoldsSame replica later)
      (reason : Calm schedule replica → replica.document? request.url = none ∧ cause.isNotFound)
  | gone (document : Json) (later : Replica)
      (sends : (Client.interrupted schedule).send request replica = (.ok document, later))
      (stored : (replica.document? request.url).isSome)
      (documents : later.documents = replica.documents.filter fun (other, _) =>
        other ≠ (Location.ofUrl request.url).path &&
          !isBelow (Location.ofUrl request.url).path other)
      (ids : later.ids = replica.ids)

theorem deletes (schedule : Nat → Option RemoteError) (replica : Replica)
    (isDelete : request.verb = .delete) : Deletes schedule request replica := by
  have handle_eq (requests : List Request) (failures : List Failure) :
      handle { replica with requests, failures } request =
        (delete { replica with requests, failures } (Location.ofUrl request.url).path).map
          fun later => (.null, later) := by
    simp only [handle, isDelete]
    cases delete { replica with requests, failures } (Location.ofUrl request.url).path <;> rfl
  cases sends schedule request replica with
  | disturbed cause later sends same isDisturbed =>
      exact .refused cause later sends same fun calm => absurd calm isDisturbed
  | refused requests failures refusal quiet handles sends =>
      refine .refused _ _ sends ⟨rfl, rfl, rfl⟩ fun _ => ?_
      rw [handle_eq] at handles
      cases stored : replica.document? request.url with
      | some document =>
          have has : replica.documents.has (Location.ofUrl request.url).path = true := by
            rw [Documents.has]
            exact Option.isSome_iff_exists.mpr ⟨document, stored⟩
          simp [delete, has, Except.map] at handles
      | none =>
          have absent : replica.documents.has (Location.ofUrl request.url).path = false := by
            rw [Documents.has, Option.isSome_eq_false_iff, Option.isNone_iff_eq_none]
            exact stored
          simp only [delete, absent, Bool.false_eq_true, if_false, Except.map,
            Except.error.injEq] at handles
          rw [← handles]
          exact ⟨rfl, rfl⟩
  | handled requests failures document later quiet handles sends =>
      rw [handle_eq] at handles
      by_cases has : replica.documents.has (Location.ofUrl request.url).path = true
      · simp only [delete, has, if_true, Except.map, Except.ok.injEq, Prod.mk.injEq] at handles
        obtain ⟨-, rfl⟩ := handles
        exact .gone document _ sends has rfl rfl
      · simp [delete, has, Except.map] at handles

/-- A program that sends a request to delete and reports what was deleted fails with the refusal, or
returns when the document is gone. -/
theorem deletion_of_runs {describe : RemoteError → OperationError} {deleted : Deleted}
    {now last : Run Replica} {sent : List Exchange} {ending : Ending OperationError Deleted}
    (isDelete : request.verb = .delete)
    (runs : ((Program.request request >>= fun _ => pure ()).mapFailure describe >>=
      fun _ : Unit => pure deleted).Runs (Client.interrupted schedule) now sent ending last) :
    (∃ cause, sent = [⟨request, .error cause⟩] ∧ ending = .failed (describe cause) ∧
      HoldsSame now.state last.state ∧
      (Calm schedule now.state →
        now.state.document? request.url = none ∧ cause.isNotFound = true)) ∨
    ∃ document, sent = [⟨request, .ok document⟩] ∧ ending = .returned deleted ∧
      (now.state.document? request.url).isSome ∧ last.state.ids = now.state.ids ∧
      last.state.documents = now.state.documents.filter fun (other, _) =>
        other ≠ (Location.ofUrl request.url).path &&
          !isBelow (Location.ofUrl request.url).path other := by
  obtain ⟨answer, state, rest, answers, rfl, goesOn⟩ := Program.Runs.of_send runs
  cases deletes schedule now.state isDelete with
  | refused cause later sends same reason =>
      obtain ⟨rfl, rfl⟩ := Prod.mk.inj (answers.symm.trans sends)
      obtain ⟨rfl, rfl, rfl⟩ := goesOn.unique Program.runs_fail
      exact .inl ⟨cause, rfl, rfl, same, reason⟩
  | gone document later sends stored documents ids =>
      obtain ⟨rfl, rfl⟩ := Prod.mk.inj (answers.symm.trans sends)
      obtain ⟨rfl, rfl, rfl⟩ := goesOn.unique Program.runs_done
      exact .inr ⟨document, rfl, rfl, stored, ids, documents⟩

/-- A program that deletes leaves no document that was not there. -/
theorem fewer_of_deletion {describe : RemoteError → OperationError} {deleted : Deleted}
    {now last : Run Replica} {sent : List Exchange} {ending : Ending OperationError Deleted}
    (isDelete : request.verb = .delete)
    (runs : ((Program.request request >>= fun _ => pure ()).mapFailure describe >>=
      fun _ : Unit => pure deleted).Runs (Client.interrupted schedule) now sent ending last) :
    last.state.documents.Sublist now.state.documents := by
  rcases deletion_of_runs isDelete runs with ⟨_, -, -, same, -⟩ | ⟨_, -, -, -, -, documents⟩
  · simp only [same.documents, List.Sublist.refl]
  · rw [documents]
    exact List.filter_sublist

end Replica

end Provision
