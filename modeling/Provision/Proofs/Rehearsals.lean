import Provision.Proofs.FailedRuns
import Provision.Rehearsal

/-!
# Programs and their rehearsals

A rehearsal shares the answers of the server with the run it stands for until
something would be written.  From there on it gets made-up answers, and the
server it reads from is no longer the one that the run has changed.  So the two
stay in step only as long as no program reads after it has written, and the
rehearsal comes to its end only if the program can go on with what is made up.

`Rehearses` states this of two programs: the one that is run and the one that is
rehearsed.  They are instances of one operation, but after different answers and
different ids they need not be the same program.
-/

namespace Provision

section Sending

variable {State : Type} {client : Client State} {request : Request} {rehearsal : Rehearsal State}

theorem Client.rehearsing_send_read (isRead : request.isWrite = false) {state : State}
    {answer : Except RemoteError Json}
    (answers : client.send request rehearsal.inner = (answer, state)) :
    client.rehearsing.send request rehearsal = (answer, { rehearsal with inner := state }) := by
  simp [Client.rehearsing, isRead, answers]

theorem Client.rehearsing_send_write (isWrite : request.isWrite = true) :
    client.rehearsing.send request rehearsal =
      (.ok (Rehearsal.pretend request),
        { rehearsal with skipped := rehearsal.skipped ++ [request] }) := by
  simp [Client.rehearsing, isWrite]

end Sending

/-- A replica holds what an earlier one holds and has got further requests that read only. -/
structure Replica.OnlyRead (earlier later : Replica) : Prop where
  documents_eq : later.documents = earlier.documents
  requests_eq : ∃ reads, later.requests = earlier.requests ++ reads ∧
    ∀ request ∈ reads, request.verb = .get

namespace Replica

variable {earlier middle later : Replica} {request : Request}

theorem OnlyRead.refl : OnlyRead earlier earlier := ⟨rfl, [], by simp, by simp⟩

theorem OnlyRead.trans (first : OnlyRead earlier middle) (second : OnlyRead middle later) :
    OnlyRead earlier later := by
  rcases first.requests_eq with ⟨reads, middle_eq, readsOnly⟩
  rcases second.requests_eq with ⟨moreReads, later_eq, moreReadsOnly⟩
  refine ⟨second.documents_eq.trans first.documents_eq, reads ++ moreReads, ?_, ?_⟩
  · rw [later_eq, middle_eq, List.append_assoc]
  · exact List.forall_mem_append.mpr ⟨readsOnly, moreReadsOnly⟩

theorem onlyRead_answer (isRead : request.isWrite = false) :
    OnlyRead earlier (answer request earlier).2 := by
  have isGet : request.verb = .get := by simpa [Request.isWrite] using isRead
  have onlyOne : ∀ other ∈ [request], other.verb = .get := by simpa using isGet
  rcases taken : takeFailure request.verb request.url earlier.failures with ⟨due, failures⟩
  let received : Replica := { earlier with requests := earlier.requests ++ [request], failures }
  cases due with
  | some failure => exact ⟨by simp only [answer, taken], [request], by simp only [answer, taken],
      onlyOne⟩
  | none =>
      cases handled : received.handle request with
      | error refusal =>
          have answered : (answer request earlier).2 = received := by
            simp only [answer, taken, received, handled]
          rw [answered]
          exact ⟨rfl, [request], rfl, onlyOne⟩
      | ok handled_ok =>
          rcases handled_ok with ⟨document, later⟩
          obtain rfl : later = received := eq_of_handle_get isRead handled
          have answered : (answer request earlier).2 = received := by
            simp only [answer, taken, received, handled]
          rw [answered]
          exact ⟨rfl, [request], rfl, onlyOne⟩

theorem onlyRead_rehearsing (request : Request) (rehearsal : Rehearsal Replica) :
    OnlyRead rehearsal.inner (Client.replica.rehearsing.send request rehearsal).2.inner := by
  cases isWrite : request.isWrite with
  | true =>
      rw [Client.rehearsing_send_write isWrite]
      exact .refl
  | false =>
      rw [Client.rehearsing_send_read isWrite rfl]
      exact onlyRead_answer isWrite

end Replica

namespace Program

variable {State Failure Other Result Next : Type}

theorem onlyRead_run (program : Program Failure Result) (now : Run (Rehearsal Replica)) :
    Replica.OnlyRead now.state.inner
      (program.run Client.replica.rehearsing now).2.state.inner := by
  induction program generalizing now with
  | done | fail | exhausted => exact .refl
  | send request answered ih =>
      have sent := Replica.onlyRead_rehearsing request now.state
      rcases sends : Client.replica.rehearsing.send request now.state with ⟨answer, state⟩
      simp only [run, sends] at sent ⊢
      exact sent.trans (ih answer { now with state })
  | report message rest ih => exact ih { now with messages := now.messages ++ [message] }
  | fresh drawn ih => exact ih now.ids.current { now with ids := now.ids.rest }

/-- Runs programs one after the other, however each of them ends. -/
def runAll (client : Client State) (programs : List (Program Failure Result)) (now : Run State) :
    Run State :=
  programs.foldl (fun now program => (program.run client now).2) now

theorem onlyRead_runAll (programs : List (Program Failure Result))
    (now : Run (Rehearsal Replica)) :
    Replica.OnlyRead now.state.inner
      (runAll Client.replica.rehearsing programs now).state.inner := by
  induction programs generalizing now with
  | nil => exact .refl
  | cons program rest ih => exact (onlyRead_run program now).trans (ih _)

/-- Whether a program may still read, or has begun to write. -/
inductive Phase where
  | reading
  | writing

/-- How a program can be rehearsed that goes on like another one which is run.  Both get the same
answers up to the first write; then the rehearsed one gets what is made up, whatever the other
gets, and neither reads any more.  The results are related by `alike`; the ids and the writes are
the same if `matching` holds. -/
inductive Rehearses (matching : Prop) (alike : Result → Result → Prop) :
    Phase → Program Failure Result → Program Failure Result → Prop where
  | done {phase : Phase} {result other : Result} (isAlike : alike result other) :
      Rehearses matching alike phase (.done result) (.done other)
  | fail {phase : Phase} {failure : Failure} {rehearsed : Program Failure Result} :
      Rehearses matching alike phase (.fail failure) rehearsed
  | exhausted {phase : Phase} {rehearsed : Program Failure Result} :
      Rehearses matching alike phase .exhausted rehearsed
  | report {phase : Phase} {message other : String} {actual rehearsed : Program Failure Result}
      (onward : Rehearses matching alike phase actual rehearsed) :
      Rehearses matching alike phase (.report message actual) (.report other rehearsed)
  | fresh {phase : Phase} {actual rehearsed : String → Program Failure Result}
      (onward : ∀ id other, (matching → id = other) →
        Rehearses matching alike phase (actual id) (rehearsed other)) :
      Rehearses matching alike phase (.fresh actual) (.fresh rehearsed)
  | read {request : Request} {actual rehearsed : Except RemoteError Json → Program Failure Result}
      (isRead : request.isWrite = false)
      (onward : ∀ answer, Rehearses matching alike .reading (actual answer) (rehearsed answer)) :
      Rehearses matching alike .reading (.send request actual) (.send request rehearsed)
  | write {phase : Phase} {request other : Request}
      {actual rehearsed : Except RemoteError Json → Program Failure Result}
      (isWrite : request.isWrite = true) (otherIsWrite : other.isWrite = true)
      (same : matching → request = other)
      (onward : ∀ answer, Rehearses matching alike .writing (actual answer)
        (rehearsed (.ok (Rehearsal.pretend other)))) :
      Rehearses matching alike phase (.send request actual) (.send other rehearsed)

variable {matching : Prop} {alike : Result → Result → Prop} {phase : Phase}
  {actual rehearsed : Program Failure Result} {client : Client State} {now later : Run State}
  {sent : List Exchange} {result : Result}

/-- A program that returns comes to its end in a rehearsal too, from a server in the same state, and
its writes are held back as they are sent. -/
theorem Rehearses.of_returned (rehearses : Rehearses matching alike phase actual rehearsed)
    (runs : actual.Runs client now sent (.returned result) later) (start : Run (Rehearsal State))
    (sameState : phase = .reading → start.state.inner = now.state)
    (sameIds : matching → start.ids = now.ids) :
    ∃ held other last, rehearsed.Runs client.rehearsing start held (.returned other) last ∧
      alike result other ∧
      (matching → last.state.skipped =
        start.state.skipped ++ (sent.filter Exchange.isWrite).map Exchange.request) := by
  induction rehearses generalizing now start sent with
  | @done phase result other isAlike =>
      obtain ⟨rfl, ending_eq, rfl⟩ := runs.unique runs_done
      obtain rfl := Ending.returned.inj ending_eq
      exact ⟨[], other, start, runs_done, isAlike, by simp⟩
  | fail =>
      obtain ⟨-, ending_eq, -⟩ := runs.unique runs_fail
      simp at ending_eq
  | exhausted =>
      have ending_eq := (Prod.mk.inj runs.run_eq).1
      simp at ending_eq
  | @report phase message other actual rehearsed onward ih =>
      have runsOn : actual.Runs client { now with messages := now.messages ++ [message] } sent
          (.returned result) later := ⟨runs.run_eq, runs.exchanges_eq⟩
      rcases ih runsOn { start with messages := start.messages ++ [other] } sameState sameIds with
        ⟨held, ended, last, goesOn, isAlike, skipped⟩
      exact ⟨held, ended, last, ⟨goesOn.run_eq, goesOn.exchanges_eq⟩, isAlike, skipped⟩
  | @fresh phase actual rehearsed onward ih =>
      have runsOn : (actual now.ids.current).Runs client { now with ids := now.ids.rest } sent
          (.returned result) later := ⟨runs.run_eq, runs.exchanges_eq⟩
      have sameId : matching → now.ids.current = start.ids.current := fun holds => by
        rw [sameIds holds]
      rcases ih now.ids.current start.ids.current sameId runsOn
          { start with ids := start.ids.rest } sameState
          (fun holds => by rw [← sameIds holds]) with
        ⟨held, ended, last, goesOn, isAlike, skipped⟩
      exact ⟨held, ended, last, ⟨goesOn.run_eq, goesOn.exchanges_eq⟩, isAlike, skipped⟩
  | @read request actual rehearsed isRead onward ih =>
      rcases runs.of_send with ⟨answer, state, rest, answers, rfl, runsOn⟩
      -- a rehearsal passes a read on, so both states move on alike
      rw [← sameState rfl] at answers
      have sends := Client.rehearsing_send_read isRead answers
      rcases ih answer runsOn { start with state := { start.state with inner := state } }
          (fun _ => rfl) sameIds with ⟨held, ended, last, goesOn, isAlike, skipped⟩
      refine ⟨_, ended, last, runs_send sends goesOn, isAlike, ?_⟩
      intro holds
      rw [skipped holds, List.filter_cons_of_neg (by simp [Exchange.isWrite, isRead])]
  | @write phase request other actual rehearsed isWrite otherIsWrite same onward ih =>
      rcases runs.of_send with ⟨answer, state, rest, answers, rfl, runsOn⟩
      have sends : client.rehearsing.send other start.state = _ :=
        Client.rehearsing_send_write otherIsWrite
      -- only the server of the actual run changes, and neither program reads from here on
      rcases ih answer runsOn
          { start with state := { start.state with skipped := start.state.skipped ++ [other] } }
          (by simp) sameIds with ⟨held, ended, last, goesOn, isAlike, skipped⟩
      refine ⟨_, ended, last, runs_send sends goesOn, isAlike, ?_⟩
      intro holds
      rw [skipped holds, List.filter_cons_of_pos (by simp [Exchange.isWrite, isWrite]), same holds]
      simp

/-- Programs that do not read are in step wherever programs may be that do. -/
theorem Rehearses.relax (rehearses : Rehearses matching alike .writing actual rehearsed) :
    Rehearses matching alike phase actual rehearsed := by
  generalize isWriting : Phase.writing = begun at rehearses
  induction rehearses with
  | done isAlike => exact .done isAlike
  | fail => exact .fail
  | exhausted => exact .exhausted
  | report _ ih => exact .report (ih isWriting)
  | fresh _ ih => exact .fresh fun id other same => ih id other same isWriting
  | read => simp at isWriting
  | write isWrite otherIsWrite same onward => exact .write isWrite otherIsWrite same onward

theorem Rehearses.weaken {loosely : Result → Result → Prop}
    (rehearses : Rehearses matching alike phase actual rehearsed)
    (weaker : ∀ result other, alike result other → loosely result other) :
    Rehearses matching loosely phase actual rehearsed := by
  induction rehearses with
  | done isAlike => exact .done (weaker _ _ isAlike)
  | fail => exact .fail
  | exhausted => exact .exhausted
  | report _ ih => exact .report ih
  | fresh _ ih => exact .fresh ih
  | read isRead _ ih => exact .read isRead ih
  | write isWrite otherIsWrite same _ ih => exact .write isWrite otherIsWrite same ih

/-- What is done with results that are alike is in step, if it does not read. -/
theorem Rehearses.bind {alikeNext : Next → Next → Prop}
    {next nextRehearsed : Result → Program Failure Next}
    (rehearses : Rehearses matching alike phase actual rehearsed)
    (further : ∀ result other, alike result other →
      Rehearses matching alikeNext .writing (next result) (nextRehearsed other)) :
    Rehearses matching alikeNext phase (actual >>= next) (rehearsed >>= nextRehearsed) := by
  induction rehearses with
  | done isAlike => exact (further _ _ isAlike).relax
  | fail => exact .fail
  | exhausted => exact .exhausted
  | report _ ih => exact .report ih
  | fresh _ ih => exact .fresh ih
  | read isRead _ ih => exact .read isRead ih
  | write isWrite otherIsWrite same _ ih => exact .write isWrite otherIsWrite same ih

theorem Rehearses.bind_return {alikeNext : Next → Next → Prop} {change : Result → Next}
    (rehearses : Rehearses matching alike phase actual rehearsed)
    (kept : ∀ result other, alike result other → alikeNext (change result) (change other)) :
    Rehearses matching alikeNext phase (actual >>= fun result => pure (change result))
      (rehearsed >>= fun result => pure (change result)) := by
  apply rehearses.bind
  intro result other isAlike
  exact .done (kept result other isAlike)

theorem Rehearses.after_progress {message other : String}
    (rehearses : Rehearses matching alike phase actual rehearsed) :
    Rehearses matching alike phase (progress message >>= fun _ => actual)
      (progress other >>= fun _ => rehearsed) := .report rehearses

theorem Rehearses.mapFailure {describe : Failure → Other}
    (rehearses : Rehearses matching alike phase actual rehearsed) :
    Rehearses matching alike phase (actual.mapFailure describe)
      (rehearsed.mapFailure describe) := by
  induction rehearses with
  | done isAlike => exact .done isAlike
  | fail => exact .fail
  | exhausted => exact .exhausted
  | report _ ih => exact .report ih
  | fresh _ ih => exact .fresh ih
  | read isRead _ ih => exact .read isRead ih
  | write isWrite otherIsWrite same _ ih => exact .write isWrite otherIsWrite same ih

section Operations

variable {alike : Next → Next → Prop} {next nextRehearsed : Result → Program OperationError Next}

/-- What follows reads is in step if it is in step after the same results. -/
theorem Reads.rehearses_bind {program : Program OperationError Result} (reads : program.Reads)
    (further : ∀ result, Rehearses matching alike .reading (next result) (nextRehearsed result)) :
    Rehearses matching alike .reading (program >>= next) (program >>= nextRehearsed) := by
  induction reads with
  | done => exact further _
  | fail => exact .fail
  | exhausted => exact .exhausted
  | send isRead _ ih => exact .read isRead ih
  | report _ ih => exact .report ih

theorem rehearses_checks {check other : Except PlanError Result}
    (further : ∀ result, check = .ok result → ∃ otherResult, other = .ok otherResult ∧
      Rehearses matching alike phase (next result) (nextRehearsed otherResult)) :
    Rehearses matching alike phase ((liftM check : Program OperationError Result) >>= next)
      ((liftM other : Program OperationError Result) >>= nextRehearsed) := by
  cases check with
  | error error => exact .fail
  | ok result =>
      rcases further result rfl with ⟨otherResult, rfl, inStep⟩
      exact inStep

theorem rehearses_check {check : Except PlanError Result}
    (further : ∀ result, check = .ok result →
      Rehearses matching alike phase (next result) (nextRehearsed result)) :
    Rehearses matching alike phase ((liftM check : Program OperationError Result) >>= next)
      ((liftM check : Program OperationError Result) >>= nextRehearsed) := by
  apply rehearses_checks
  intro result accepted
  exact ⟨result, accepted, further result accepted⟩

/-- A write is in step if the rehearsal goes on with what is made up for it, and the run ends when
it is refused. -/
theorem rehearses_send {request other : Request}
    {next nextRehearsed : Except RemoteError Json → Program OperationError Next}
    (isWrite : request.isWrite = true) (otherIsWrite : other.isWrite = true)
    (same : matching → request = other)
    (refused : ∀ cause, ∃ failure, next (.error cause) = .fail failure)
    (further : ∀ document, Rehearses matching alike .writing (next (.ok document))
      (nextRehearsed (.ok (Rehearsal.pretend other)))) :
    Rehearses matching alike phase (.send request next) (.send other nextRehearsed) := by
  refine .write isWrite otherIsWrite same ?_
  intro answer
  cases answer with
  | error cause =>
      rcases refused cause with ⟨failure, next_eq⟩
      rw [next_eq]
      exact .fail
  | ok document => exact further document

theorem rehearses_request {request other : Request}
    {describe otherDescribe : RemoteError → OperationError}
    {next nextRehearsed : Json → Program OperationError Next} (isWrite : request.isWrite = true)
    (otherIsWrite : other.isWrite = true) (same : matching → request = other)
    (further : ∀ document, Rehearses matching alike .writing (next document)
      (nextRehearsed (Rehearsal.pretend other))) :
    Rehearses matching alike phase ((Program.request request).mapFailure describe >>= next)
      ((Program.request other).mapFailure otherDescribe >>= nextRehearsed) :=
  rehearses_send isWrite otherIsWrite same (fun _ => ⟨_, rfl⟩) further

end Operations

end Program

end Provision
