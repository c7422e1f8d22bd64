import Provision.Config
import Provision.Text.Case

/-!
# Logs and spans

What is logged and where spans are sent is read from the settings that are
customary for it.  These are taken as they stand, without trimming.
-/

namespace Provision.Telemetry

/-- How spans are sent. -/
inductive Protocol where
  | grpc
  | httpProtobuf
deriving DecidableEq, Repr

/-- The name of a protocol. -/
def Protocol.name : Protocol → String
  | grpc => "grpc"
  | httpProtobuf => "http/protobuf"

/-- How log lines are written. -/
inductive LogFormat where
  | text
  | json
deriving DecidableEq, Repr

/-- The name of a log format. -/
def LogFormat.name : LogFormat → String
  | text => "text"
  | json => "json"

/-- Where spans are sent. -/
structure Exporter where
  endpoint : String
  protocol : Protocol
deriving DecidableEq, Repr

/-- What is logged and where spans are sent. -/
structure Options where
  serviceName : String
  serviceVersion : String
  environment : String
  logFormat : LogFormat
  defaultFilter : String
  exporter : Option Exporter
deriving DecidableEq, Repr

/-- The environment that a list of resource attributes names. -/
def environmentOf? (attributes : String) : Option String :=
  (Text.splitOn ',' attributes).findSome? fun entry => do
    let (name, value) ← Text.splitFirst? "=" entry
    if Text.trim name = "deployment.environment" then some (Text.trim value) else none

/-- Whether a setting says yes. -/
def isYes (value : String) : Bool :=
  ["1", "true", "yes", "on"].contains (Text.lower value)

/-- The options that settings make. -/
def Options.ofSettings (serviceName serviceVersion : String) (settings : Settings) : Options :=
  let endpoint := Text.trim ((settings "OTEL_EXPORTER_OTLP_ENDPOINT").getD "")
  let protocol : Protocol :=
    match (settings "OTEL_EXPORTER_OTLP_PROTOCOL").map Text.lower with
    | some "grpc" => .grpc
    | _ => .httpProtobuf
  let enabled := (settings "ENABLE_OTEL").any isYes
  { serviceName := (settings "OTEL_SERVICE_NAME").getD serviceName
    serviceVersion := (settings "OTEL_SERVICE_VERSION").getD serviceVersion
    environment :=
      (((settings "OTEL_RESOURCE_ATTRIBUTES").bind environmentOf?)
        <|> settings "DEPLOYMENT_ENV").getD "dev"
    logFormat :=
      match (settings "LOG_FORMAT").map Text.lower with
      | some "json" => .json
      | _ => .text
    defaultFilter := "info"
    exporter := if enabled && endpoint ≠ "" then some ⟨endpoint, protocol⟩ else none }

end Provision.Telemetry
