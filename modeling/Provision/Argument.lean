import Provision.PlanError
import Provision.Text.Blank

/-!
# Arguments that must not be blank

`required` trims a value and refuses it when nothing is left.  Keys are compared
character by character later on, so `verbatim` refuses a padded one instead of
trimming it.
-/

namespace Provision.Argument

/-- The trimmed value, unless it is blank. -/
def required (field value : String) : Except PlanError String :=
  let trimmed := Text.trim value
  if trimmed = "" then .error (.missing field) else .ok trimmed

/-- The value itself, unless it is blank or padded with blanks. -/
def verbatim (field value : String) : Except PlanError String := do
  let trimmed ← required field value
  if trimmed = value then return value
  else throw (.invalid field "leading or trailing whitespace is not allowed")

/-- The trimmed value, unless it is absent or blank. -/
def given (field : String) (value : Option String) : Except PlanError String :=
  required field (value.getD "")

/-- The trimmed values, unless one of them is blank. -/
def all (field : String) : List String → Except PlanError (List String)
  | [] => .ok []
  | value :: rest => do
    let trimmed ← required field value
    let others ← all field rest
    return trimmed :: others

/-- The trimmed values, unless there are none or one of them is blank. -/
def each (field : String) (values : List String) : Except PlanError (List String) := do
  let trimmed ← all field values
  if trimmed.isEmpty then throw (.missing field) else return trimmed

end Provision.Argument
