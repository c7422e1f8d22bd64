import Provision.Namesake
import Provision.Item.Scope
import Provision.ResourceManager.StorageRole

/-!
# Options of a command line

An option is given as `--name value` or `--name=value`, a flag as `--name`.
Values are checked as they are read: most must not be blank and are trimmed, and
some must be one of a few names.
-/

namespace Provision.CommandLine

/-- Why a command line is not run. -/
inductive UsageError where
  /-- Help was asked for. -/
  | help
  /-- The version was asked for. -/
  | version
  /-- Nothing but the name of a group of commands was given. -/
  | helpOnMissing
  | missingSubcommand
  | missingArgument
  /-- A value is refused by the rule of its option. -/
  | refusedValue
  /-- A value is missing, or is none of the names it has to be one of. -/
  | invalidValue
  /-- A value was given to a flag. -/
  | tooManyValues
  | unknownArgument
  | unknownSubcommand
  /-- An option was repeated that may be given only once. -/
  | conflict
deriving DecidableEq, Repr

/-- The rule that the values of an option follow. -/
inductive ValueRule where
  | any
  | nonBlank
  | oneOf (names : List String)
  | role
deriving DecidableEq, Repr

/-- The value as it is kept, if the rule allows it. -/
def ValueRule.check (value : String) : ValueRule → Except UsageError String
  | any => .ok value
  | nonBlank =>
    match Text.nonBlank? value with
    | some trimmed => .ok trimmed
    | none => .error .refusedValue
  | oneOf names => if names.contains value then .ok value else .error .invalidValue
  | role =>
    match StorageRole.parse value with
    | .ok found => .ok found.slug
    | .error _ => .error .refusedValue

/-- How often an option may be given, and whether it takes a value. -/
inductive Arity where
  | flag
  | single
  | repeatable
deriving DecidableEq, Repr

/-- An option. -/
structure Parameter where
  name : String
  arity : Arity
  rule : ValueRule
  required : Bool
  /-- Another option that has to be given with this one. -/
  needs : Option String
deriving DecidableEq, Repr

namespace Parameter

/-- A flag. -/
def flag (name : String) : Parameter := ⟨name, .flag, .any, false, none⟩

/-- An option whose value must not be blank and that has to be given. -/
def needed (name : String) : Parameter := ⟨name, .single, .nonBlank, true, none⟩

/-- An option with any value that may be left out. -/
def free (name : String) : Parameter := ⟨name, .single, .any, false, none⟩

/-- An option whose value must not be blank and that may be left out. -/
def optional (name : String) : Parameter := ⟨name, .single, .nonBlank, false, none⟩

/-- An option with any value that is given together with another one. -/
def together (name other : String) : Parameter := ⟨name, .single, .any, false, some other⟩

/-- An option that may be given several times with values that are not blank. -/
def several (name : String) (required : Bool) : Parameter :=
  ⟨name, .repeatable, .nonBlank, required, none⟩

/-- An option whose value is one of a few names. -/
def chosen (name : String) (names : List String) : Parameter :=
  ⟨name, .single, .oneOf names, false, none⟩

end Parameter

end Provision.CommandLine
