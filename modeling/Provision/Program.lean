import Provision.OperationError

/-!
# Operations as programs

An operation is a program: a tree of what it does next, which depends on the
answers it gets.  A program sends requests, reports its progress, draws fresh
ids, and ends with a result or a failure.  Nothing is said here about who answers:
the same program can be run against a server, against a replica of one, or step
by step among others.

A program that follows links has a bound on their number; one that passes the
bound ends in `exhausted`, which is neither a result nor a failure.
-/

namespace Provision

/-- A program with failures of one type and results of another. -/
inductive Program (Failure Result : Type) : Type where
  /-- The program ends with a result. -/
  | done (result : Result)
  /-- The program ends with a failure. -/
  | fail (failure : Failure)
  /-- The program sends a request and goes on with its answer. -/
  | send (request : Request) (next : Except RemoteError Json → Program Failure Result)
  /-- The program reports its progress and goes on. -/
  | report (message : String) (next : Program Failure Result)
  /-- The program draws a fresh id and goes on with it. -/
  | fresh (next : String → Program Failure Result)
  /-- The program has followed as many links as it may. -/
  | exhausted

namespace Program

variable {Failure Other Result Next : Type}

/-- Goes on with the result of a program. -/
def bind : Program Failure Result → (Result → Program Failure Next) → Program Failure Next
  | done result, next => next result
  | fail failure, _ => fail failure
  | send request answered, next => send request fun answer => (answered answer).bind next
  | report message rest, next => report message (rest.bind next)
  | fresh drawn, next => fresh fun id => (drawn id).bind next
  | exhausted, _ => exhausted

instance : Monad (Program Failure) where
  pure := done
  bind := bind

/-- A program with its failures described in another way. -/
def mapFailure (describe : Failure → Other) : Program Failure Result → Program Other Result
  | done result => done result
  | fail failure => fail (describe failure)
  | send request answered => send request fun answer => (answered answer).mapFailure describe
  | report message rest => report message (rest.mapFailure describe)
  | fresh drawn => fresh fun id => (drawn id).mapFailure describe
  | exhausted => exhausted

/-- A check that sends no request. -/
def ofExcept : Except Failure Result → Program Failure Result
  | .ok result => done result
  | .error failure => fail failure

instance : MonadLift (Except PlanError) (Program OperationError) where
  monadLift check := ofExcept (check.mapError .plan)

/-- Sends a request. -/
def request (request : Request) : Program RemoteError Json :=
  send request ofExcept

/-- Reports progress. -/
def progress (message : String) : Program Failure Unit :=
  report message (done ())

/-- Draws a fresh id. -/
def freshId : Program Failure String :=
  fresh done

end Program

end Provision
