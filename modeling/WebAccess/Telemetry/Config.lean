/-!
# The configuration of logging and metrics
-/

set_option autoImplicit false

namespace WebAccess.Telemetry

/-- How events are logged. -/
structure LogConfig where
  /-- Whether events are logged at all. -/
  enabled : Bool
  /-- Which events are logged, as the text of a filter. -/
  level : String
  /-- Whether log lines are JSON. -/
  jsonFormat : Bool
  /-- Whether the ends of spans are logged. -/
  spanEvents : Bool
  /-- Whether the place in the source is logged. -/
  location : Bool
  /-- Whether colours are used. -/
  ansi : Bool
deriving DecidableEq, Repr

/-- Logging where nothing is said. -/
def LogConfig.default : LogConfig := ⟨true, "info", true, false, false, false⟩

/-- Logging in development. -/
def LogConfig.development : LogConfig := ⟨true, "debug", false, true, true, true⟩

/-- Logging in production. -/
def LogConfig.production : LogConfig := .default

/-- How metrics are exported. -/
structure MetricsConfig where
  /-- Whether metrics are exported. -/
  enabled : Bool
  /-- The address they are served at. -/
  address : String
deriving DecidableEq, Repr

/-- Metrics where nothing is said. -/
def MetricsConfig.default : MetricsConfig := ⟨false, "0.0.0.0:9090"⟩

/-- How logging and metrics are set up. -/
structure Config where
  /-- The name of the service, logged at the start. -/
  serviceName : String
  /-- How events are logged. -/
  logging : LogConfig
  /-- How metrics are exported. -/
  metrics : MetricsConfig
deriving DecidableEq, Repr

namespace Config

/-- Logging and metrics where nothing is said. -/
def default : Config := ⟨"trellis", .default, .default⟩

/-- The configuration with metrics served at the given address. -/
def withMetricsAt (c : Config) (address : String) : Config :=
  { c with metrics := ⟨true, address⟩ }

end Config

end WebAccess.Telemetry
