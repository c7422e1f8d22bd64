import Provision.Proofs.Runs

/-!
# Contracts between programs and those who answer them

A contract says which requests may be sent and which answers may be given.  A
program meets it when it only sends allowed requests as long as it is given
admitted answers, and then returns only results of a certain kind.  Nothing is
said about who answers, so a program that meets a contract keeps to it in a run
of its own as well as among others.
-/

namespace Provision

/-- Which requests may be sent, and which answers may be given to them. -/
structure Contract where
  allows : Request → Prop
  admits : Request → Except RemoteError Json → Prop

namespace Program

variable {Failure Other Result Next : Type}

/-- A program sends allowed requests and returns results of a certain kind, whatever admitted
answers and whatever ids it gets. -/
inductive Meets (contract : Contract) (expected : Result → Prop) :
    Program Failure Result → Prop where
  | done {result : Result} (holds : expected result) : Meets contract expected (.done result)
  | fail {failure : Failure} : Meets contract expected (.fail failure)
  | send {request : Request} {next : Except RemoteError Json → Program Failure Result}
      (allowed : contract.allows request)
      (follows : ∀ answer, contract.admits request answer →
        Meets contract expected (next answer)) :
      Meets contract expected (.send request next)
  | report {message : String} {next : Program Failure Result}
      (follows : Meets contract expected next) : Meets contract expected (.report message next)
  | fresh {next : String → Program Failure Result}
      (follows : ∀ id, Meets contract expected (next id)) : Meets contract expected (.fresh next)
  | exhausted : Meets contract expected .exhausted

variable {contract : Contract} {expected : Result → Prop} {program : Program Failure Result}

theorem Meets.weaken {accepted : Result → Prop} (meets : program.Meets contract expected)
    (weaker : ∀ result, expected result → accepted result) :
    program.Meets contract accepted := by
  induction meets with
  | done holds => exact .done (weaker _ holds)
  | fail => exact .fail
  | send allowed _ ih => exact .send allowed ih
  | report _ ih => exact .report ih
  | fresh _ ih => exact .fresh ih
  | exhausted => exact .exhausted

/-- What follows a program relies on the kind of its results. -/
theorem Meets.bind {next : Result → Program Failure Next} {accepted : Next → Prop}
    (meets : program.Meets contract expected)
    (follows : ∀ result, expected result → (next result).Meets contract accepted) :
    (program >>= next).Meets contract accepted := by
  induction meets with
  | done holds => exact follows _ holds
  | fail => exact .fail
  | send allowed _ ih => exact .send allowed ih
  | report _ ih => exact .report ih
  | fresh _ ih => exact .fresh ih
  | exhausted => exact .exhausted

theorem Meets.mapFailure (describe : Failure → Other) (meets : program.Meets contract expected) :
    (program.mapFailure describe).Meets contract expected := by
  induction meets with
  | done holds => exact .done holds
  | fail => exact .fail
  | send allowed _ ih => exact .send allowed ih
  | report _ ih => exact .report ih
  | fresh _ ih => exact .fresh ih
  | exhausted => exact .exhausted

theorem meets_pure {result : Result} (holds : expected result) :
    (pure result : Program Failure Result).Meets contract expected := .done holds

theorem meets_ofExcept {check : Except Failure Result}
    (holds : ∀ result, check = .ok result → expected result) :
    (ofExcept check).Meets contract expected := by
  cases check with
  | ok result => exact .done (holds result rfl)
  | error failure => exact .fail

theorem meets_check {check : Except PlanError Result} :
    (liftM check : Program OperationError Result).Meets contract fun result =>
      check = .ok result := by
  cases check with
  | ok result => exact .done rfl
  | error error => exact .fail

theorem meets_progress {message : String} :
    (progress message : Program Failure Unit).Meets contract fun _ => True :=
  .report (.done trivial)

theorem meets_freshId : (freshId : Program Failure String).Meets contract fun _ => True :=
  .fresh fun _ => .done trivial

/-- An allowed request brings a document that may be an answer to it. -/
theorem meets_request {request : Request} (allowed : contract.allows request) :
    (Program.request request).Meets contract fun document =>
      contract.admits request (.ok document) := by
  refine .send allowed ?_
  intro answer admitted
  apply meets_ofExcept
  rintro document rfl
  exact admitted

/-- In a run with admitted answers a program keeps to its contract. -/
theorem Meets.of_runs {State : Type} {client : Client State} {now later : Run State}
    {sent : List Exchange} {ending : Ending Failure Result}
    (meets : program.Meets contract expected)
    (runs : program.Runs client now sent ending later)
    (admitted : ∀ exchange ∈ sent, contract.admits exchange.request exchange.answer) :
    (∀ exchange ∈ sent, contract.allows exchange.request) ∧
      ∀ result, ending = .returned result → expected result := by
  rcases runs with ⟨run_eq, rfl⟩
  induction meets generalizing now with
  | done holds =>
      rcases Prod.mk.inj run_eq with ⟨rfl, -⟩
      refine ⟨by simp [exchanges], ?_⟩
      rintro _ ⟨⟩
      exact holds
  | fail | exhausted =>
      rcases Prod.mk.inj run_eq with ⟨rfl, -⟩
      exact ⟨by simp [exchanges], by simp⟩
  | @send request next allowed _ ih =>
      have first := admitted ⟨request, (client.send request now.state).1⟩ (by simp [exchanges])
      have others := ih _ first run_eq fun exchange later_mem =>
        admitted exchange (List.mem_cons_of_mem _ later_mem)
      refine ⟨?_, others.2⟩
      intro exchange exchange_mem
      rcases List.mem_cons.mp exchange_mem with rfl | later_mem
      · exact allowed
      · exact others.1 exchange later_mem
  | report _ ih => exact ih run_eq admitted
  | fresh _ ih => exact ih _ run_eq admitted

end Program

end Provision
