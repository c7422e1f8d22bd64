import Provision.CommandLine.Grammar
import Provision.Http.Client
import Provision.Http.Endpoint
import Provision.Rehearsal
import Provision.Telemetry

/-!
# The program as a whole

The program reads its command line and its settings, gets a token, runs the
command, and prints the report.  Progress and failures go to the error output; a
rehearsed command reports how many writes it held back.
-/

namespace Provision.Launch

/-- What the program leaves behind for whoever called it. -/
structure Finish where
  exitCode : Nat
  output : String
  errorLines : List String
deriving DecidableEq, Repr

/-- The name of the program. -/
def programName : String := "agent-identity"

/-- The version of the program. -/
def programVersion : String := "0.1.0"

/-- How many pages of a list are read at most. -/
def pageLimit : Nat := 1000000

/-- The wording of a failure on one line. -/
def errorLine (parts : List String) : String := "error: " ++ Text.join ": " parts

/-- The end of a run that failed. -/
def failure (lines : List String) : Finish := ⟨1, "", lines⟩

/-- The lines that explain a failed command: what failed, that a removal is to be repeated, and the
code that the server gave. -/
def failureLines (error : CommandError) : List String :=
  [errorLine error.chain]
    ++ (if error.cause.isPartial then
        ["the item was disabled but is still present; run the same remove again to finish"]
      else [])
    ++ ((error.cause.remote?.bind RemoteError.serviceCode?).map fun code =>
        "service error code: " ++ code).toList

/-- The line that says that nothing is logged, if the exporter cannot be set up. -/
def loggingLines (settings : Settings) : List String :=
  match (Telemetry.Options.ofSettings programName programVersion settings).exporter with
  | some exporter =>
    if Http.Endpoint.isValid exporter.endpoint then []
    else ["warning: logging disabled: failed to build OTLP exporter for " ++ exporter.endpoint]
  | none => []

/-- The end of a run of a command. -/
def finishRun {State : Type} (invocation : Invocation) (skipped : Nat)
    (ended : Ending CommandError Report × Run State) : Finish :=
  let progress :=
    if invocation.asJson then [] else ended.2.messages.map fun message => "... " ++ message
  match ended.1 with
  | .returned report =>
    let report :=
      if invocation.rehearse then
        (report.insert "dryRun" (.bool true)).insert "skippedWrites" (.ofNat skipped)
      else report
    ⟨0, report.render invocation.asJson ++ "\n", progress⟩
  | .failed error => failure (progress ++ failureLines error)
  | .exhausted => failure (progress ++ [errorLine ["the list has too many pages"]])

/-- Runs the operation of a command with a token. -/
def runCommand {State : Type} (server : Http.Server State) (ids : IdSupply)
    (invocation : Invocation) (token : String) (program : Program CommandError Report)
    (state : State) : Finish × State :=
  let client := Client.http server token
  if invocation.rehearse then
    let ended := program.run client.rehearsing ⟨⟨state, []⟩, ids, []⟩
    (finishRun invocation ended.2.state.skipped.length ended, ended.2.state.inner)
  else
    let ended := program.run client ⟨state, ids, []⟩
    (finishRun invocation 0 ended, ended.2.state)

/-- The operation of a command under a configuration. -/
def programOf (config : Config) : Command → Except ConfigError (Program CommandError Report)
  | .directory command => .ok (command.run (Directory.ofBase config.directoryBase pageLimit))
  | .resources command => do
    let (subscriptionId, resourceGroup) ← config.resourceScope
    return command.run
      (ResourceManager.ofBase config.resourceManagerBase subscriptionId resourceGroup pageLimit)

/-- Runs a command that was read from the command line. -/
def runInvocation {State : Type} (settings : Settings) (server : Http.Server State)
    (ids : IdSupply) (invocation : Invocation) (state : State) : Finish × State :=
  let settings : Settings := fun name =>
    if name = "AZURE_TENANT_ID" then invocation.tenantId else settings name
  match Config.ofSettings settings with
  | .error error => (failure [errorLine ["incomplete configuration", error.message]], state)
  | .ok config =>
    let (session, state) := config.authenticator.authenticate server config.tenantId
      invocation.command.audience.scopes state
    match session with
    | .error error =>
      (failure [errorLine
        ["authentication for tenant '" ++ config.tenantId ++ "' failed", error.message]], state)
    | .ok session =>
      match programOf config invocation.command with
      | .error error => (failure [errorLine [error.message]], state)
      | .ok program => runCommand server ids invocation session.token program state

/-- Runs the program with settings and arguments. -/
def run {State : Type} (settings : Settings) (arguments : List String)
    (server : Http.Server State) (ids : IdSupply) (state : State) : Finish × State :=
  match CommandLine.parse (settings "AZURE_TENANT_ID") arguments with
  | .error .help =>
    (⟨0, "Usage: " ++ programName ++ " [OPTIONS] <GROUP> <COMMAND>\n", []⟩, state)
  | .error .version => (⟨0, programName ++ " " ++ programVersion ++ "\n", []⟩, state)
  | .error _ => (⟨2, "", [errorLine ["the arguments make no command"]]⟩, state)
  | .ok invocation =>
    let (finish, state) := runInvocation settings server ids invocation state
    ({ finish with errorLines := loggingLines settings ++ finish.errorLines }, state)

end Provision.Launch
