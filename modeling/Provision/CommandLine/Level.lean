import Provision.CommandLine.Options

/-!
# Reading one level of a command line

A command line has three levels: the program, a group of commands, and a
command.  Each level has options of its own and ends where the name of the next
one stands.  `Level.scan` reads the options of a level; a value is checked when
the option after it begins, or when the level is finished.  `Level.finish` checks
what is left: values, the environment, and the options that have to be given.

The levels are finished from the innermost to the outermost, so a mistake in a
command is reported before one in the options of its group.
-/

namespace Provision.CommandLine

/-- What has been read of a level: the checked values of the options given so far, and the option
whose value is still to be checked. -/
structure Level where
  values : List (String × List String)
  pending : Option (Parameter × Option String)

/-- What may stand on a level. -/
structure Scheme where
  parameters : List Parameter
  /-- The names of the levels below; a level without any is that of a command. -/
  below : List String
  /-- Whether the version can be asked for. -/
  showsVersion : Bool

namespace Scheme

/-- The option with a given name. -/
def find? (scheme : Scheme) (name : String) : Option Parameter :=
  scheme.parameters.find? fun parameter => parameter.name = name

/-- Whether an argument is the name of a level below, or asks for help on one. -/
def leadsBelow (scheme : Scheme) (argument : String) : Bool :=
  !scheme.below.isEmpty && (argument = "help" || scheme.below.contains argument)

/-- The mistake of an argument that is no option and leads to no level. -/
def strayError (scheme : Scheme) (trailing : Bool) (argument : String) : UsageError :=
  if scheme.below.isEmpty || (trailing && scheme.leadsBelow argument) then .unknownArgument
  else .unknownSubcommand

end Scheme

namespace Level

/-- The level before anything is read. -/
def empty : Level := ⟨[], none⟩

/-- The values of an option, in the order in which they were given. -/
def valuesOf (level : Level) (name : String) : List String :=
  (Members.find? name level.values).getD []

/-- Whether an option was given. -/
def has (level : Level) (name : String) : Bool := Members.has name level.values

/-- Keeps a value of an option. -/
def keep (level : Level) (parameter : Parameter) (value : String) : Except UsageError Level := do
  if parameter.arity ≠ .repeatable ∧ level.has parameter.name then throw .conflict
  let value ← parameter.rule.check value
  return { level with
    values := Members.insert parameter.name (level.valuesOf parameter.name ++ [value])
      level.values }

/-- Checks the value of the last option. -/
def settle (level : Level) : Except UsageError Level :=
  match level.pending with
  | none => .ok level
  | some (_, none) => .error .invalidValue
  | some (parameter, some value) => { level with pending := none }.keep parameter value

/-- Whether the next argument is taken for a value. -/
def awaitsValue (level : Level) : Bool :=
  match level.pending with
  | some (_, none) => true
  | _ => false

/-- Reads a long option. -/
def readLong (scheme : Scheme) (level : Level) (name : String) (value : Option String) :
    Except UsageError Level :=
  if name = "help" ∨ (name = "version" ∧ scheme.showsVersion) then
    match value with
    | some _ => .error .tooManyValues
    | none => do
      let _ ← level.settle
      throw (if name = "help" then .help else .version)
  else
    match scheme.find? name with
    | none => .error .unknownArgument
    | some parameter =>
      match parameter.arity, value with
      | .flag, some _ => .error .tooManyValues
      | .flag, none => do
        let level ← level.settle
        level.keep parameter "true"
      | _, some value => do
        let level ← level.settle
        level.keep parameter value
      | _, none => do
        let level ← level.settle
        return { level with pending := some (parameter, none) }

/-- Reads short options, of which there are only the ones that ask for help and for the version. -/
def readShort (scheme : Scheme) (level : Level) (letters : List Char) : UsageError :=
  let asked (error : UsageError) : UsageError :=
    match level.settle with
    | .ok _ => error
    | .error error => error
  match letters with
  | 'h' :: _ => asked .help
  | 'V' :: _ => if scheme.showsVersion then asked .version else .unknownArgument
  | _ => .unknownArgument

/-- What an argument looks like. -/
inductive Shape where
  | escape
  | long (name : String) (value : Option String)
  | short (letters : List Char)
  | plain

/-- The shape of an argument. -/
def Shape.of (argument : String) : Shape :=
  match argument.toList with
  | ['-', '-'] => escape
  | '-' :: '-' :: text =>
    match Text.cut? ['='] text with
    | some (name, value) => long (String.ofList name) (some (String.ofList value))
    | none => long (String.ofList text) none
  | '-' :: letter :: letters => short (letter :: letters)
  | _ => plain

/-- Reads the options of a level, up to the name of a level below; answers that name and the
arguments behind it. -/
def scan (scheme : Scheme) (level : Level) (trailing : Bool) :
    List String → Except UsageError (Level × Option (String × List String))
  | [] => .ok (level, none)
  | argument :: rest =>
    if trailing then .error (scheme.strayError true argument)
    else if !level.awaitsValue && scheme.leadsBelow argument then .ok (level, some (argument, rest))
    else
      match Shape.of argument with
      | .escape => scan scheme level true rest
      | .long name value => do
        let level ← readLong scheme level name value
        scan scheme level false rest
      | .short letters => .error (readShort scheme level letters)
      | .plain =>
        match level.pending with
        | some (parameter, none) =>
          scan scheme { level with pending := some (parameter, some argument) } false rest
        | _ => .error (scheme.strayError false argument)

/-- Whether all options that have to be given are there. -/
def isComplete (scheme : Scheme) (level : Level) : Bool :=
  scheme.parameters.all fun parameter =>
    (!parameter.required || level.has parameter.name)
      && (!level.has parameter.name || parameter.needs.all level.has)

/-- Finishes a level: the last value and the tenant of the environment are checked, and the options
that have to be given and the level below must be there. -/
def finish (scheme : Scheme) (environmentTenant : Option String) (level : Level)
    (goesBelow : Bool) : Except UsageError Level := do
  let level ← level.settle
  let fromEnvironment := !level.has "tenant-id" && environmentTenant.isSome
  if fromEnvironment then
    let _ ← ValueRule.nonBlank.check (environmentTenant.getD "")
  if !scheme.below.isEmpty && !goesBelow then
    throw (if level.values.isEmpty && !fromEnvironment then .helpOnMissing else .missingSubcommand)
  if !level.isComplete scheme then throw .missingArgument
  return level

end Level

end Provision.CommandLine
