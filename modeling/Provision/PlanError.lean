import Provision.Text.Basic

/-!
# Failures of planning

Whatever is wrong with the arguments of a change, or with the collection it is
planned for, is found before anything is written.
-/

namespace Provision

/-- Why a change was not planned. -/
inductive PlanError where
  /-- A required value is missing or blank. -/
  | missing (field : String)
  /-- A value has a form that is not allowed. -/
  | invalid (field reason : String)
  /-- Nothing is there under the given name. -/
  | notFound (what : String)
  /-- Several items of a collection share one key. -/
  | repeatedKey (key : String) (count : Nat)
  /-- Resources with the wanted name exist already. -/
  | nameTaken (name : String) (count : Nat)
deriving DecidableEq, Repr

/-- The wording of a failure. -/
def PlanError.message : PlanError → String
  | missing field => "missing required value: " ++ field
  | invalid field reason => "invalid " ++ field ++ ": " ++ reason
  | notFound what => what ++ " not found"
  | repeatedKey key count =>
    "collection holds " ++ Text.decimal count ++ " items keyed '" ++ key ++ "'"
  | nameTaken name count =>
    Text.decimal count ++ " existing resources already named '" ++ name ++ "'"

end Provision
