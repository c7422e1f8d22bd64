import Provision.Client

/-!
# Runs

What a run of a program amounts to: how it ends, where it leaves the client, and
the requests it sent with the answers it got.  A run of a composite program is
put together from the runs of its parts, so an operation is followed request by
request without unfolding what it is made of.
-/

namespace Provision

/-- A request with the answer that it got. -/
structure Exchange where
  request : Request
  answer : Except RemoteError Json

namespace Exchange

def succeeded (exchange : Exchange) : Bool := exchange.answer.isOk

/-- Whether the request may have changed what the server holds. -/
def isWrite (exchange : Exchange) : Bool := exchange.request.isWrite

@[simp]
theorem succeeded_ok {request : Request} {document : Json} :
    succeeded ⟨request, .ok document⟩ = true := rfl

@[simp]
theorem succeeded_error {request : Request} {error : RemoteError} :
    succeeded ⟨request, .error error⟩ = false := rfl

end Exchange

/-- How a check ends that sends no request. -/
def Ending.ofExcept {Failure Result : Type} : Except Failure Result → Ending Failure Result
  | .ok result => .returned result
  | .error failure => .failed failure

/-- An ending with its failure described in another way. -/
def Ending.mapFailure {Failure Other Result : Type} (describe : Failure → Other) :
    Ending Failure Result → Ending Other Result
  | .returned result => .returned result
  | .failed failure => .failed (describe failure)
  | .exhausted => .exhausted

/-- An ending with its result put in another form. -/
def Ending.map {Failure Result Next : Type} (change : Result → Next) :
    Ending Failure Result → Ending Failure Next
  | .returned result => .returned (change result)
  | .failed failure => .failed failure
  | .exhausted => .exhausted

theorem Ending.map_map {Failure Result Next Last : Type} {change : Result → Next}
    {further : Next → Last} (ending : Ending Failure Result) :
    (ending.map change).map further = ending.map (further ∘ change) := by
  cases ending <;> rfl

namespace Program

variable {State Failure Other Result Next : Type}

/-- The requests that a program sends, with their answers. -/
def exchanges (client : Client State) : Program Failure Result → Run State → List Exchange
  | send request answered, now =>
    let (answer, state) := client.send request now.state
    ⟨request, answer⟩ :: (answered answer).exchanges client { now with state }
  | report message rest, now =>
    rest.exchanges client { now with messages := now.messages ++ [message] }
  | fresh drawn, now => (drawn now.ids.current).exchanges client { now with ids := now.ids.rest }
  | done _, _ | fail _, _ | exhausted, _ => []

/-- A program sends certain requests, ends in a certain way and leaves the client as stated. -/
structure Runs (client : Client State) (program : Program Failure Result) (now : Run State)
    (sent : List Exchange) (ending : Ending Failure Result) (later : Run State) : Prop where
  run_eq : program.run client now = (ending, later)
  exchanges_eq : program.exchanges client now = sent

variable {client : Client State} {program : Program Failure Result} {now middle later : Run State}
  {sent sentLater : List Exchange} {ending : Ending Failure Result}

theorem runs_run (client : Client State) (program : Program Failure Result) (now : Run State) :
    program.Runs client now (program.exchanges client now) (program.run client now).1
      (program.run client now).2 :=
  ⟨rfl, rfl⟩

theorem runs_of_ending (ends : (program.run client now).1 = ending) :
    program.Runs client now (program.exchanges client now) ending (program.run client now).2 :=
  ⟨Prod.ext ends rfl, rfl⟩

theorem runs_of_exchanges (sends : program.exchanges client now = sent) :
    program.Runs client now sent (program.run client now).1 (program.run client now).2 :=
  ⟨rfl, sends⟩

/-- A program has one run from where it starts. -/
theorem Runs.unique {otherSent : List Exchange} {otherEnding : Ending Failure Result}
    {otherLater : Run State} (runs : program.Runs client now sent ending later)
    (others : program.Runs client now otherSent otherEnding otherLater) :
    sent = otherSent ∧ ending = otherEnding ∧ later = otherLater := by
  refine ⟨runs.exchanges_eq.symm.trans others.exchanges_eq, ?_⟩
  exact Prod.mk.inj (runs.run_eq.symm.trans others.run_eq)

theorem runs_done {result : Result} :
    (done result : Program Failure Result).Runs client now [] (.returned result) now :=
  ⟨rfl, rfl⟩

theorem runs_fail {failure : Failure} :
    (fail failure : Program Failure Result).Runs client now [] (.failed failure) now :=
  ⟨rfl, rfl⟩

theorem runs_ofExcept (check : Except Failure Result) :
    (ofExcept check).Runs client now [] (Ending.ofExcept check) now := by
  cases check with
  | ok result => exact runs_done
  | error failure => exact runs_fail

/-- A program that starts with a request goes on with the answer of the client. -/
theorem runs_send {request : Request} {answered : Except RemoteError Json → Program Failure Result}
    {answer : Except RemoteError Json} {state : State}
    (answers : client.send request now.state = (answer, state))
    (goesOn : (answered answer).Runs client { now with state } sent ending later) :
    (send request answered).Runs client now (⟨request, answer⟩ :: sent) ending later := by
  constructor
  · simp [run, answers, goesOn.run_eq]
  · simp [exchanges, answers, goesOn.exchanges_eq]

theorem runs_request {request : Request} {answer : Except RemoteError Json} {state : State}
    (answers : client.send request now.state = (answer, state)) :
    (Program.request request).Runs client now [⟨request, answer⟩] (Ending.ofExcept answer)
      { now with state } :=
  runs_send answers (runs_ofExcept answer)

theorem runs_progress {message : String} :
    (progress message : Program Failure Unit).Runs client now [] (.returned ())
      { now with messages := now.messages ++ [message] } :=
  ⟨rfl, rfl⟩

theorem runs_freshId :
    (freshId : Program Failure String).Runs client now [] (.returned now.ids.current)
      { now with ids := now.ids.rest } :=
  ⟨rfl, rfl⟩

theorem run_bind (program : Program Failure Result) (next : Result → Program Failure Next)
    (now : Run State) :
    (program >>= next).run client now =
      match program.run client now with
      | (.returned result, middle) => (next result).run client middle
      | (.failed failure, middle) => (.failed failure, middle)
      | (.exhausted, middle) => (.exhausted, middle) := by
  change (program.bind next).run client now = _
  induction program generalizing now with
  | done | fail | exhausted => rfl
  | send request answered ih => exact ih _ _
  | report message rest ih => exact ih _
  | fresh drawn ih => exact ih _ _

theorem exchanges_bind (program : Program Failure Result) (next : Result → Program Failure Next)
    (now : Run State) :
    (program >>= next).exchanges client now =
      program.exchanges client now ++
        match program.run client now with
        | (.returned result, middle) => (next result).exchanges client middle
        | _ => [] := by
  change (program.bind next).exchanges client now = _
  induction program generalizing now with
  | done | fail | exhausted => simp [bind, exchanges, run]
  | send request answered ih =>
      simp only [bind, exchanges, run, List.cons_append]
      rw [ih]
  | report message rest ih => exact ih _
  | fresh drawn ih => exact ih _ _

/-- A program that returns is followed by what is done with its result. -/
theorem Runs.bind {next : Result → Program Failure Next} {result : Result}
    {ending : Ending Failure Next}
    (first : program.Runs client now sent (.returned result) middle)
    (second : (next result).Runs client middle sentLater ending later) :
    (program >>= next).Runs client now (sent ++ sentLater) ending later := by
  constructor
  · rw [run_bind, first.run_eq]
    exact second.run_eq
  · simp only [exchanges_bind, first.run_eq, first.exchanges_eq, second.exchanges_eq]

theorem Runs.bind_failed {next : Result → Program Failure Next} {failure : Failure}
    (first : program.Runs client now sent (.failed failure) later) :
    (program >>= next).Runs client now sent (.failed failure) later := by
  constructor
  · rw [run_bind, first.run_eq]
  · rw [exchanges_bind, first.run_eq, first.exchanges_eq, List.append_nil]

/-- A program whose result is only put in another form ends as it would without that. -/
theorem Runs.bind_return {change : Result → Next}
    (runs : program.Runs client now sent ending later) :
    (program >>= fun result => pure (change result)).Runs client now sent (ending.map change)
      later := by
  constructor
  · rw [run_bind, runs.run_eq]
    cases ending <;> rfl
  · rw [exchanges_bind, runs.run_eq, runs.exchanges_eq]
    cases ending <;> exact List.append_nil sent

theorem Runs.bind_ok {next : Result → Program OperationError Next} {check : Except PlanError Result}
    {result : Result} {ending : Ending OperationError Next} (checked : check = .ok result)
    (goesOn : (next result).Runs client now sent ending later) :
    ((liftM check : Program OperationError Result) >>= next).Runs client now sent ending later := by
  subst checked
  exact goesOn

theorem Runs.bind_error {next : Result → Program OperationError Next}
    {check : Except PlanError Result} {error : PlanError} (refused : check = .error error) :
    ((liftM check : Program OperationError Result) >>= next).Runs client now []
      (.failed (.plan error)) now := by
  subst refused
  exact runs_fail

theorem run_mapFailure (describe : Failure → Other) (program : Program Failure Result)
    (now : Run State) :
    (program.mapFailure describe).run client now =
      ((program.run client now).1.mapFailure describe, (program.run client now).2) := by
  induction program generalizing now with
  | done | fail | exhausted => rfl
  | send request answered ih => exact ih _ _
  | report message rest ih => exact ih _
  | fresh drawn ih => exact ih _ _

theorem exchanges_mapFailure (describe : Failure → Other) (program : Program Failure Result)
    (now : Run State) :
    (program.mapFailure describe).exchanges client now = program.exchanges client now := by
  induction program generalizing now with
  | done | fail | exhausted => rfl
  | send request answered ih => exact congrArg _ (ih _ _)
  | report message rest ih => exact ih _
  | fresh drawn ih => exact ih _ _

theorem Runs.mapFailure (describe : Failure → Other)
    (runs : program.Runs client now sent ending later) :
    (program.mapFailure describe).Runs client now sent (ending.mapFailure describe) later := by
  constructor
  · rw [run_mapFailure, runs.run_eq]
  · rw [exchanges_mapFailure, runs.exchanges_eq]

/-- A run draws its ids one after the other from the supply that it starts with. -/
theorem Runs.ids_drawn (runs : program.Runs client now sent ending later) :
    later.ids.name = now.ids.name ∧ now.ids.used ≤ later.ids.used := by
  rcases runs with ⟨run_eq, -⟩
  induction program generalizing now with
  | done | fail | exhausted =>
      obtain ⟨-, rfl⟩ := Prod.mk.inj run_eq
      exact ⟨rfl, Nat.le_refl _⟩
  | send request answered ih =>
      have drawn := ih _ run_eq
      exact drawn
  | report message rest ih =>
      have drawn := ih run_eq
      exact drawn
  | fresh drawn ih =>
      obtain ⟨name, used⟩ := ih _ run_eq
      exact ⟨name, Nat.le_trans (Nat.le_succ _) used⟩

/-- A run of a composite program returns from its first part and goes on with the result, or it
ends with the first part. -/
theorem Runs.of_bind {next : Result → Program Failure Next} {ending : Ending Failure Next}
    (runs : (program >>= next).Runs client now sent ending later) :
    (∃ sentFirst sentLater result middle, sent = sentFirst ++ sentLater ∧
        program.Runs client now sentFirst (.returned result) middle ∧
        (next result).Runs client middle sentLater ending later) ∨
      (∃ failure, ending = .failed failure ∧
        program.Runs client now sent (.failed failure) later) ∨
      (ending = .exhausted ∧ program.Runs client now sent .exhausted later) := by
  rcases runs with ⟨run_eq, exchanges_eq⟩
  rw [run_bind] at run_eq
  rw [exchanges_bind] at exchanges_eq
  rcases ended : program.run client now with ⟨first, middle⟩
  rw [ended] at run_eq exchanges_eq
  cases first with
  | returned result =>
      left
      exact ⟨_, _, result, middle, exchanges_eq.symm, ⟨ended, rfl⟩, run_eq, rfl⟩
  | failed failure =>
      rcases Prod.mk.inj run_eq with ⟨rfl, rfl⟩
      right
      left
      exact ⟨failure, rfl, ended, by simpa using exchanges_eq⟩
  | exhausted =>
      rcases Prod.mk.inj run_eq with ⟨rfl, rfl⟩
      right
      right
      exact ⟨rfl, ended, by simpa using exchanges_eq⟩

/-- Only the program itself can fail when its result is put in another form. -/
theorem Runs.of_bind_return {change : Result → Next} {failure : Failure}
    (runs : (program >>= fun result => pure (change result)).Runs client now sent
      (.failed failure) later) : program.Runs client now sent (.failed failure) later := by
  rcases runs.of_bind with ⟨_, _, result, _, _, _, returned⟩ | ⟨_, ⟨⟩, failed⟩ | ⟨⟨⟩, -⟩
  · rcases returned with ⟨run_eq, -⟩
    exact absurd (Prod.mk.inj run_eq).1 (by simp)
  · exact failed

theorem Runs.of_mapFailure {describe : Failure → Other} {error : Other}
    (runs : (program.mapFailure describe).Runs client now sent (.failed error) later) :
    ∃ failure, describe failure = error ∧
      program.Runs client now sent (.failed failure) later := by
  rcases runs with ⟨run_eq, exchanges_eq⟩
  rw [run_mapFailure] at run_eq
  rw [exchanges_mapFailure] at exchanges_eq
  rcases ended : program.run client now with ⟨ending, last⟩
  rw [ended] at run_eq
  rcases Prod.mk.inj run_eq with ⟨ending_eq, rfl⟩
  cases ending with
  | failed failure =>
      exact ⟨failure, by simpa [Ending.mapFailure] using ending_eq, ended, exchanges_eq⟩
  | _ => simp [Ending.mapFailure] at ending_eq

theorem Runs.of_send {request : Request}
    {answered : Except RemoteError Json → Program Failure Result}
    (runs : (send request answered).Runs client now sent ending later) :
    ∃ answer state rest, client.send request now.state = (answer, state) ∧
      sent = ⟨request, answer⟩ :: rest ∧
      (answered answer).Runs client { now with state } rest ending later :=
  ⟨_, _, _, rfl, runs.exchanges_eq.symm, runs.run_eq, rfl⟩

theorem Runs.of_progress {message : String} {next : Unit → Program Failure Result}
    (runs : (progress message >>= next).Runs client now sent ending later) :
    (next ()).Runs client { now with messages := now.messages ++ [message] } sent ending later :=
  ⟨runs.run_eq, runs.exchanges_eq⟩

/-- A request is refused, and its program with it, or the program goes on with the answer. -/
theorem Runs.of_request {request : Request} {describe : RemoteError → Failure}
    {next : Json → Program Failure Next} {ending : Ending Failure Next}
    (runs : ((Program.request request).mapFailure describe >>= next).Runs client now sent ending
      later) :
    (∃ error state, client.send request now.state = (.error error, state) ∧
      ending = .failed (describe error) ∧ later = { now with state }) ∨
    ∃ document state rest, client.send request now.state = (.ok document, state) ∧
      sent = ⟨request, .ok document⟩ :: rest ∧
      (next document).Runs client { now with state } rest ending later := by
  obtain ⟨answer, state, rest, sends, sent_eq, goesOn⟩ := Runs.of_send runs
  cases answer with
  | error error =>
      left
      obtain ⟨-, ended, rfl⟩ := goesOn.unique runs_fail
      exact ⟨error, state, sends, ended, rfl⟩
  | ok document =>
      right
      exact ⟨document, state, rest, sends, sent_eq, goesOn⟩

theorem Runs.of_freshId {next : String → Program Failure Result}
    (runs : (freshId >>= next).Runs client now sent ending later) :
    (next now.ids.current).Runs client { now with ids := now.ids.rest } sent ending later :=
  ⟨runs.run_eq, runs.exchanges_eq⟩

/-- What follows a check is run only if the check holds. -/
theorem Runs.of_check {next : Result → Program OperationError Next}
    {check : Except PlanError Result} {ending : Ending OperationError Next}
    (runs : ((liftM check : Program OperationError Result) >>= next).Runs client now sent ending
      later) :
    (∃ error, check = .error error ∧ sent = [] ∧ ending = .failed (.plan error) ∧ later = now) ∨
      ∃ result, check = .ok result ∧ (next result).Runs client now sent ending later := by
  cases check with
  | ok result =>
      right
      exact ⟨result, rfl, runs.run_eq, runs.exchanges_eq⟩
  | error error =>
      left
      rcases runs with ⟨run_eq, exchanges_eq⟩
      rcases Prod.mk.inj run_eq with ⟨ending_eq, now_eq⟩
      exact ⟨error, rfl, exchanges_eq.symm, ending_eq.symm, now_eq.symm⟩

theorem Runs.of_check_ok {next : Result → Program OperationError Next}
    {check : Except PlanError Result} {result : Result} {ending : Ending OperationError Next}
    (checked : check = .ok result)
    (runs : ((liftM check : Program OperationError Result) >>= next).Runs client now sent ending
      later) : (next result).Runs client now sent ending later := by
  subst checked
  exact runs

/-- What follows a program that returns is run with its result. -/
theorem Runs.of_bind_returned {next : Result → Program Failure Next} {result : Result}
    {ending : Ending Failure Next}
    (returns : program.Runs client now sent (.returned result) middle)
    (runs : (program >>= next).Runs client now sentLater ending later) :
    ∃ rest, sentLater = sent ++ rest ∧ (next result).Runs client middle rest ending later := by
  obtain ⟨rfl, rfl, rfl⟩ := runs.unique (returns.bind (runs_run client (next result) middle))
  exact ⟨_, rfl, runs_run client (next result) middle⟩

/-- A program that starts with a request sends it, whatever the answer. -/
theorem Runs.sent_first {request : Request} {describe : RemoteError → Failure}
    {next : Json → Program Failure Next} {ending : Ending Failure Next}
    (runs : ((Program.request request).mapFailure describe >>= next).Runs client now sent ending
      later) : ∃ answer rest, sent = ⟨request, answer⟩ :: rest := by
  obtain ⟨answer, _, rest, -, sent_eq, -⟩ := Runs.of_send runs
  exact ⟨answer, rest, sent_eq⟩

end Program

end Provision
