import Provision.AuthError
import Provision.Remote.Error
import Provision.Removal

/-!
# Failures of operations

A failed write names the item, the step of the plan and the state that the item
was left in, so that it can be decided whether to run the operation again.
-/

namespace Provision

/-- What a failed write leaves behind. -/
structure WriteFailure where
  key : String
  itemId : Option String
  position : Option StepPosition
  state : ItemState
deriving DecidableEq, Repr

/-- The wording of a failed write. -/
def WriteFailure.message (failure : WriteFailure) : String :=
  "could not write '" ++ failure.key ++ "'"
    ++ (failure.itemId.map fun id => " (id " ++ id ++ ")").getD ""
    ++ (failure.position.map fun position => " at " ++ position.text).getD ""
    ++ "; item is " ++ failure.state.text

/-- Why an operation failed. -/
inductive OperationError where
  | plan (error : PlanError)
  | auth (error : AuthError)
  | read (what : String) (cause : RemoteError)
  | write (failure : WriteFailure) (cause : RemoteError)
  | decode (what : String)
deriving DecidableEq, Repr

namespace OperationError

/-- The wording of a failure, without its cause. -/
def message : OperationError → String
  | plan error => error.message
  | auth error => error.message
  | read what _ => "could not read " ++ what
  | write failure _ => failure.message
  | decode what => "unexpected " ++ what ++ " payload"

/-- Whether a removal stopped between its two steps. -/
def isPartial : OperationError → Bool
  | write failure _ => failure.state.isStranded
  | _ => false

/-- The failure of the request behind the failure of the operation. -/
def remote? : OperationError → Option RemoteError
  | read _ cause | write _ cause => some cause
  | _ => none

end OperationError

end Provision
