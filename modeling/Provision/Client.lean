import Provision.Program

/-!
# Running programs

A client answers requests from a state of its own, which each request may
change.  `Program.run` runs a program with a client and an endless supply of
fresh ids, and keeps the messages that the program reports.
-/

namespace Provision

/-- Someone who answers requests, one after the other. -/
structure Client (State : Type) where
  send : Request → State → Except RemoteError Json × State

/-- An endless supply of ids, and how many of them are used up. -/
structure IdSupply where
  name : Nat → String
  used : Nat

namespace IdSupply

/-- The next id. -/
def current (ids : IdSupply) : String := ids.name ids.used

/-- The supply without its next id. -/
def rest (ids : IdSupply) : IdSupply := { ids with used := ids.used + 1 }

end IdSupply

/-- How a program ended. -/
inductive Ending (Failure Result : Type) where
  | returned (result : Result)
  | failed (failure : Failure)
  | exhausted
deriving DecidableEq

/-- Where a run stands. -/
structure Run (State : Type) where
  state : State
  ids : IdSupply
  messages : List String

namespace Program

variable {State Failure Result : Type}

/-- Runs a program to its end. -/
def run (client : Client State) :
    Program Failure Result → Run State → Ending Failure Result × Run State
  | done result, now => (.returned result, now)
  | fail failure, now => (.failed failure, now)
  | send request answered, now =>
    let (answer, state) := client.send request now.state
    (answered answer).run client { now with state }
  | report message rest, now => rest.run client { now with messages := now.messages ++ [message] }
  | fresh drawn, now => (drawn now.ids.current).run client { now with ids := now.ids.rest }
  | exhausted, now => (.exhausted, now)

end Program

end Provision
