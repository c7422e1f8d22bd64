import Provision.Json.Record
import Provision.PlanError

/-!
# Creating next to a namesake

Display names need not be unique on the server.  A policy says what becomes of a
create whose name is taken: refuse it, keep the first resource of that name, or
create another one.
-/

namespace Provision.Namesake

/-- What to do when the wanted name is taken. -/
inductive Policy where
  | fail
  | skip
  | createAnyway
deriving DecidableEq, Repr, Inhabited

/-- What becomes of a create. -/
inductive Decision where
  | create
  | reuse (existingId : String)
deriving DecidableEq, Repr

namespace Policy

/-- The name of a policy. -/
def name : Policy → String
  | fail => "fail"
  | skip => "skip"
  | createAnyway => "create-anyway"

/-- The policy with a given name. -/
def ofName? : String → Option Policy
  | "fail" => some fail
  | "skip" => some skip
  | "create-anyway" => some createAnyway
  | _ => none

instance : Record Policy where
  encode policy := .string policy.name
  decode? document := document.choice?.bind ofName?

/-- Applies a policy to the ids of the resources that carry the wanted name. -/
def decide (policy : Policy) (name : String) (existingIds : List String) :
    Except PlanError Decision :=
  match existingIds, policy with
  | [], _ => .ok .create
  | _ :: _, fail => .error (.nameTaken name existingIds.length)
  | existingId :: _, skip => .ok (.reuse existingId)
  | _ :: _, createAnyway => .ok .create

end Policy

end Provision.Namesake
