import Provision.Proofs.CredentialListing
import Provision.Proofs.Requests

/-!
# What listing a collection comes to

A list that is asked for below a path without a document comes in one page.  So
an operation that starts with such a list either stops there, with its one
request refused, or it goes on with the list and finds everything as it was.
-/

namespace Provision

namespace Replica

variable {replica : Replica} {schedule : Nat → Option RemoteError} {url : String}

/-- A request to read is refused, or it brings what there is to read; it changes nothing. -/
theorem send_get_cases (schedule : Nat → Option RemoteError) (replica : Replica) (url : String) :
    ∃ answer later, (Client.interrupted schedule).send ⟨.get, url, none⟩ replica = (answer, later) ∧
      HoldsSame replica later ∧
      ((∃ cause, answer = .error cause ∧
          (Calm schedule replica → ∃ refusal, replica.read (.ofUrl url) = .error refusal)) ∨
        ∃ document, answer = .ok document ∧ replica.read (.ofUrl url) = .ok document) := by
  have read_eq (requests : List Request) (failures : List Failure) :
      handle { replica with requests, failures } ⟨.get, url, none⟩ =
        (replica.read (.ofUrl url)).map
          fun document => (document, { replica with requests, failures }) := by
    have same : read { replica with requests, failures } (.ofUrl url) =
        replica.read (.ofUrl url) := rfl
    simp only [handle, same]
    cases replica.read (.ofUrl url) <;> rfl
  cases sends schedule ⟨.get, url, none⟩ replica with
  | disturbed cause later sends same isDisturbed =>
      exact ⟨.error cause, later, sends, same,
        .inl ⟨cause, rfl, fun calm => absurd calm isDisturbed⟩⟩
  | refused requests failures refusal quiet handles sends =>
      refine ⟨_, _, sends, ⟨rfl, rfl, rfl⟩, .inl ⟨_, rfl, fun _ => ⟨refusal, ?_⟩⟩⟩
      rw [read_eq] at handles
      cases found : replica.read (.ofUrl url) with
      | error _ => simpa [found, Except.map] using handles
      | ok _ => simp [found, Except.map] at handles
  | handled requests failures document later quiet handles sends =>
      rw [read_eq] at handles
      cases found : replica.read (.ofUrl url) with
      | error _ => simp [found, Except.map] at handles
      | ok stored =>
          simp only [found, Except.map, Except.ok.injEq, Prod.mk.injEq] at handles
          obtain ⟨rfl, rfl⟩ := handles
          exact ⟨_, _, sends, ⟨rfl, rfl, rfl⟩, .inr ⟨stored, rfl, rfl⟩⟩

end Replica

open Program
open Replica (HoldsSame Calm)

/-- A program asks for a list, and brings certain items unless its request is refused.  It changes
nothing. -/
inductive Brings {Element : Type} (program : Program OperationError (List Element))
    (request : Request) (what : String) (schedule : Nat → Option RemoteError) (now : Run Replica)
    (items : List Element) : Prop where
  | unread (cause : RemoteError) (state : Replica) (same : HoldsSame now.state state)
      (disturbed : Calm schedule now.state →
        ∃ refusal, now.state.read (.ofUrl request.url) = .error refusal)
      (runs : program.Runs (Client.interrupted schedule) now [⟨request, .error cause⟩]
        (.failed (.read what cause)) { now with state })
  | brought (answer : Json) (state : Replica) (same : HoldsSame now.state state)
      (runs : program.Runs (Client.interrupted schedule) now [⟨request, .ok answer⟩]
        (.returned items) { now with state })

section Lists

variable {Element Other : Type} {schedule : Nat → Option RemoteError} {now : Run Replica}
  {items : List Element}

/-- A list below a path without a document is read in one page. -/
theorem brings_readPages {element? : Json → Option Element} {pages : Nat} {url : String}
    (what : String) (paged : pages ≠ 0) (noDocument : now.state.document? url = none)
    (decoded : Json.readAll? element? (now.state.children (.ofUrl url)) = some items) :
    Brings (readPages element? what pages url) ⟨.get, url, none⟩ what schedule now items := by
  obtain ⟨fewer, rfl⟩ := Nat.exists_eq_succ_of_ne_zero paged
  obtain ⟨answer, state, sends, same, outcome⟩ := Replica.send_get_cases schedule now.state url
  rcases outcome with ⟨cause, rfl, disturbed⟩ | ⟨document, rfl, reads⟩
  · exact .unread cause state same disturbed (runs_readPages_refused what sends)
  · have isList : document = .object [("value", .array (now.state.children (.ofUrl url)))] := by
      rcases Replica.read_list noDocument with brought | ⟨⟨refusal, refused⟩, -⟩
      · exact Except.ok.inj (reads.symm.trans brought)
      · simp [refused] at reads
    have page : Page.decode? element? document = some ⟨items, none⟩ := by
      rw [isList, Page.decode?_list, decoded]
      rfl
    exact .brought document state same (runs_readPages_single what sends page rfl)

variable {program : Program OperationError (List Element)} {request : Request} {what : String}

/-- What is done with the items alone is done with what is brought. -/
theorem Brings.change (change : List Element → List Other)
    (brings : Brings program request what schedule now items) :
    Brings (program >>= fun items => pure (change items)) request what schedule now
      (change items) := by
  cases brings with
  | unread cause state same disturbed runs =>
      exact .unread cause state same disturbed runs.bind_failed
  | brought answer state same runs => exact .brought answer state same runs.bind_return

/-- A list that can be read is returned when nothing disturbs the request. -/
theorem Brings.returns (brings : Brings program request what schedule now items)
    (readable : ∀ refusal, now.state.read (.ofUrl request.url) ≠ .error refusal)
    (calm : Calm schedule now.state) :
    (program.run (Client.interrupted schedule) now).1 = .returned items := by
  cases brings with
  | unread cause state same disturbed =>
      obtain ⟨refusal, refused⟩ := disturbed calm
      exact absurd refused (readable refusal)
  | brought answer state same runs => rw [runs.run_eq]

/-- A program that starts with a list stops when it is refused, and goes on with its items
otherwise. -/
theorem Brings.of_bind {Next : Type} {next : List Element → Program OperationError Next}
    {sent : List Exchange} {ending : Ending OperationError Next} {last : Run Replica}
    (brings : Brings program request what schedule now items)
    (runs : (program >>= next).Runs (Client.interrupted schedule) now sent ending last) :
    (∃ cause, sent = [⟨request, .error cause⟩] ∧ ending = .failed (.read what cause) ∧
      HoldsSame now.state last.state ∧
      (Calm schedule now.state →
        ∃ refusal, now.state.read (.ofUrl request.url) = .error refusal)) ∨
    ∃ answer state rest, sent = ⟨request, .ok answer⟩ :: rest ∧ HoldsSame now.state state ∧
      (Calm schedule now.state → Calm schedule state) ∧
      (next items).Runs (Client.interrupted schedule) { now with state } rest ending last := by
  cases brings with
  | unread cause state same disturbed unread =>
      left
      obtain ⟨rfl, rfl, rfl⟩ := runs.unique unread.bind_failed
      exact ⟨cause, rfl, rfl, same, disturbed⟩
  | brought answer state same brought =>
      right
      have goesOn := brought.bind (runs_run (Client.interrupted schedule) (next items) _)
      obtain ⟨rfl, rfl, rfl⟩ := runs.unique goesOn
      exact ⟨answer, state, _, rfl, same, (Replica.keeps_of_runs brought).2, runs_run _ _ _⟩

end Lists

end Provision
