import Provision.Launch
import Provision.Uuid

/-!
# The executable

The executable hands its environment and arguments to `Launch.run`.  It has no
way to reach a server, so that every request ends without an answer.
-/

namespace Provision.Main

/-- The environment variables that the program looks at. -/
def settingNames : List String :=
  ["AZURE_TENANT_ID", "AZURE_CLIENT_ID", "AZURE_CLIENT_SECRET", "AZURE_SUBSCRIPTION_ID",
    "AZURE_RESOURCE_GROUP", "AID_ACCESS_TOKEN", "AID_ARM_ACCESS_TOKEN", "AID_HTTP_TIMEOUT_SECS",
    "AID_GRAPH_BASE", "AID_LOGIN_BASE", "AID_ARM_BASE", "OTEL_EXPORTER_OTLP_ENDPOINT",
    "OTEL_EXPORTER_OTLP_PROTOCOL", "OTEL_SERVICE_NAME", "OTEL_SERVICE_VERSION",
    "OTEL_RESOURCE_ATTRIBUTES", "DEPLOYMENT_ENV", "LOG_FORMAT", "ENABLE_OTEL"]

/-- The settings that the environment holds. -/
def readSettings : IO Settings := do
  let values ← settingNames.filterMapM fun name => do
    let value ← IO.getEnv name
    return value.map fun value => (name, value)
  return Settings.ofList values

end Provision.Main

/-- Runs the program. -/
def main (arguments : List String) : IO UInt32 := do
  let settings ← Provision.Main.readSettings
  let seed ← IO.rand 0 (1 <<< 61)
  let ids : Provision.IdSupply := ⟨fun used => Provision.Uuid.ofNat (seed <<< 61 + used), 0⟩
  let (finish, _) :=
    Provision.Launch.run settings arguments Provision.Http.Server.unreachable ids ()
  for line in finish.errorLines do
    IO.eprintln line
  IO.print finish.output
  return UInt32.ofNat finish.exitCode
