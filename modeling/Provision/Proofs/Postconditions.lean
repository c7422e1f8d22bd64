import Provision.Proofs.Runs

/-!
# Postconditions of programs

A postcondition speaks about the exchanges of a run and about its ending.  A
program ensures one when it holds for all admitted answers and all ids that the
program may get.  This is computed along the program, so an operation is proved
part by part, and every run with admitted answers has the postcondition of its
program.
-/

namespace Provision.Program

variable {Failure Other Result Next State : Type}
  {admits : Request → Except RemoteError Json → Prop}
  {expected : List Exchange → Ending Failure Result → Prop} {program : Program Failure Result}

/-- Whatever admitted answers and ids a program gets, its exchanges and its ending are as
expected. -/
def Ensures (admits : Request → Except RemoteError Json → Prop) :
    Program Failure Result → (List Exchange → Ending Failure Result → Prop) → Prop
  | done result, expected => expected [] (.returned result)
  | fail failure, expected => expected [] (.failed failure)
  | send request next, expected => ∀ answer, admits request answer →
      (next answer).Ensures admits fun sent ending => expected (⟨request, answer⟩ :: sent) ending
  | report _ next, expected => next.Ensures admits expected
  | fresh next, expected => ∀ id, (next id).Ensures admits expected
  | exhausted, expected => expected [] .exhausted

theorem ensures_done {result : Result} (holds : expected [] (.returned result)) :
    (done result).Ensures admits expected := holds

theorem ensures_fail {failure : Failure} (holds : expected [] (.failed failure)) :
    (fail failure).Ensures admits expected := holds

theorem ensures_exhausted (holds : expected [] .exhausted) :
    (exhausted : Program Failure Result).Ensures admits expected := holds

theorem ensures_send {request : Request} {next : Except RemoteError Json → Program Failure Result}
    (further : ∀ answer, admits request answer →
      (next answer).Ensures admits fun sent ending => expected (⟨request, answer⟩ :: sent) ending) :
    (send request next).Ensures admits expected := further

theorem ensures_report {message : String} (further : program.Ensures admits expected) :
    (report message program).Ensures admits expected := further

theorem ensures_fresh {next : String → Program Failure Result}
    (further : ∀ id, (next id).Ensures admits expected) :
    (fresh next).Ensures admits expected := further

theorem Ensures.weaken {accepted : List Exchange → Ending Failure Result → Prop}
    (ensures : program.Ensures admits expected)
    (weaker : ∀ sent ending, expected sent ending → accepted sent ending) :
    program.Ensures admits accepted := by
  induction program generalizing expected accepted with
  | done | fail | exhausted => exact weaker _ _ ensures
  | send request next ih =>
      intro answer admitted
      apply ih answer (ensures answer admitted)
      intro sent ending holds
      exact weaker _ _ holds
  | report message next ih => exact ih ensures weaker
  | fresh next ih =>
      intro id
      exact ih id (ensures id) weaker

/-- What follows a program is proved from what its exchanges and its result are like. -/
theorem Ensures.bind {next : Result → Program Failure Next}
    {accepted : List Exchange → Ending Failure Next → Prop}
    (first : program.Ensures admits expected)
    (returned : ∀ sent result, expected sent (.returned result) →
      (next result).Ensures admits fun sentLater ending => accepted (sent ++ sentLater) ending)
    (failed : ∀ sent failure, expected sent (.failed failure) → accepted sent (.failed failure))
    (exhausted : ∀ sent, expected sent .exhausted → accepted sent .exhausted) :
    (program >>= next).Ensures admits accepted := by
  induction program generalizing expected accepted with
  | done result => exact returned [] result first
  | fail failure => exact failed [] failure first
  | exhausted => exact exhausted [] first
  | send request answered ih =>
      intro answer admitted
      apply ih answer (first answer admitted)
      · intro sent result holds
        exact returned (⟨request, answer⟩ :: sent) result holds
      · intro sent failure holds
        exact failed (⟨request, answer⟩ :: sent) failure holds
      · intro sent holds
        exact exhausted (⟨request, answer⟩ :: sent) holds
  | report message rest ih => exact ih first returned failed exhausted
  | fresh drawn ih =>
      intro id
      exact ih id (first id) returned failed exhausted

theorem Ensures.mapFailure {describe : Failure → Other}
    {accepted : List Exchange → Ending Other Result → Prop}
    (ensures : program.Ensures admits fun sent ending =>
      accepted sent (ending.mapFailure describe)) :
    (program.mapFailure describe).Ensures admits accepted := by
  induction program generalizing accepted with
  | done | fail | exhausted => exact ensures
  | send request answered ih =>
      intro answer admitted
      exact ih answer (ensures answer admitted)
  | report message rest ih => exact ih ensures
  | fresh drawn ih =>
      intro id
      exact ih id (ensures id)

theorem ensures_ofExcept (check : Except Failure Result)
    (holds : expected [] (Ending.ofExcept check)) : (ofExcept check).Ensures admits expected := by
  cases check with
  | ok result => exact holds
  | error failure => exact holds

theorem ensures_check {check : Except PlanError Result}
    {next : Result → Program OperationError Next}
    {accepted : List Exchange → Ending OperationError Next → Prop}
    (refused : ∀ error, check = .error error → accepted [] (.failed (.plan error)))
    (goesOn : ∀ result, check = .ok result → (next result).Ensures admits accepted) :
    ((liftM check : Program OperationError Result) >>= next).Ensures admits accepted := by
  cases check with
  | ok result => exact goesOn result rfl
  | error error => exact refused error rfl

/-- What is said about the exchanges alone holds also when the result is put in another form. -/
theorem Ensures.bind_return {sentSo : List Exchange → Prop} {change : Result → Next}
    (ensures : program.Ensures admits fun sent _ => sentSo sent) :
    (program >>= fun result => pure (change result)).Ensures admits fun sent _ => sentSo sent := by
  apply ensures.bind
  · intro sent result holds
    simpa [Ensures, pure] using holds
  · intro sent failure holds
    exact holds
  · intro sent holds
    exact holds

/-- A run with admitted answers has the postcondition of its program. -/
theorem Ensures.of_runs {client : Client State} {now later : Run State} {sent : List Exchange}
    {ending : Ending Failure Result} (ensures : program.Ensures admits expected)
    (runs : program.Runs client now sent ending later)
    (admitted : ∀ exchange ∈ sent, admits exchange.request exchange.answer) :
    expected sent ending := by
  rcases runs with ⟨run_eq, rfl⟩
  induction program generalizing now expected with
  | done | fail | exhausted =>
      rcases Prod.mk.inj run_eq with ⟨rfl, -⟩
      exact ensures
  | send request answered ih =>
      have first := admitted ⟨request, (client.send request now.state).1⟩ (by simp [exchanges])
      apply ih _ (ensures _ first) run_eq
      intro exchange later_mem
      exact admitted exchange (List.mem_cons_of_mem _ later_mem)
  | report message rest ih => exact ih ensures run_eq admitted
  | fresh drawn ih => exact ih _ (ensures _) run_eq admitted

-- an operation is proved by the lemmas above, without unfolding it to find its next request
attribute [irreducible] Ensures

end Provision.Program
