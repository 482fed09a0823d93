import WebAccess.ServiceConfig
import WebAccess.Telemetry.Config

/-!
# Settings

What an installation can set, in sections: the access service with its cache, logging, and
metrics. The sections say the same as the configurations of the parts, in the terms in which
people write them.
-/

set_option autoImplicit false

namespace WebAccess

/-- The settings of the cache. -/
structure CacheSettings where
  /-- Whether outcomes are remembered. -/
  enabled : Bool
  /-- How many outcomes are remembered. -/
  maxEntries : Nat
  /-- For how many seconds an outcome is remembered. -/
  ttlSeconds : Nat
deriving DecidableEq, Repr

/-- The settings of the cache where nothing is said. -/
def CacheSettings.default : CacheSettings := ⟨true, 1000, 600⟩

/-- The limits that the settings describe. -/
def CacheSettings.limits (s : CacheSettings) : CacheLimits :=
  if s.enabled then ⟨s.maxEntries, Duration.ofSeconds s.ttlSeconds⟩ else .disabled

/-- The settings of the access service. -/
structure AccessSettings where
  /-- The identifier of the root container. -/
  root : Identifier
  /-- The agent that holds every mode. -/
  administrator : String
  /-- Further agents that hold every mode. -/
  admins : List String
  /-- The agent of requests without identification. -/
  anonymous : String
  /-- Whether the root gets permissive rules at the start if it has none. -/
  initializeRoot : Bool
  /-- The settings of the cache. -/
  cache : CacheSettings
deriving DecidableEq, Repr

/-- The settings of the access service where nothing is said. -/
def AccessSettings.default : AccessSettings where
  root := "trellis:data/"
  administrator := Vocab.administratorAgent.iri
  admins := []
  anonymous := Vocab.anonymousAgent.iri
  initializeRoot := true
  cache := .default

/-- The form of log lines. -/
inductive LogFormat where
  /-- JSON. -/
  | json
  /-- Lines for people. -/
  | pretty
deriving DecidableEq, Repr

/-- The word for a form of log lines. -/
def LogFormat.word : LogFormat → String
  | json => "json"
  | pretty => "pretty"

/-- The forms of log lines, by their words. -/
def LogFormat.words : List (String × LogFormat) :=
  [json, pretty].map fun f => (f.word, f)

/-- The settings of logging. -/
structure LogSettings where
  /-- Whether events are logged. -/
  enabled : Bool
  /-- Which events are logged, as the text of a filter. -/
  level : String
  /-- The form of log lines. -/
  format : LogFormat
  /-- Whether colours are used. -/
  ansi : Bool
  /-- Whether the place in the source is logged. -/
  location : Bool
deriving DecidableEq, Repr

/-- The settings of logging where nothing is said. -/
def LogSettings.default : LogSettings := ⟨true, "info", .json, false, false⟩

/-- The settings of metrics. -/
structure MetricsSettings where
  /-- Whether metrics are exported. -/
  enabled : Bool
  /-- The address they are served at. -/
  address : String
deriving DecidableEq, Repr

/-- The settings of metrics where nothing is said. -/
def MetricsSettings.default : MetricsSettings := ⟨false, "0.0.0.0:9090"⟩

/-- The settings of logging and metrics. -/
structure TelemetrySettings where
  /-- The name of the service, logged at the start. -/
  serviceName : String
  /-- The settings of logging. -/
  logging : LogSettings
  /-- The settings of metrics. -/
  metrics : MetricsSettings
deriving DecidableEq, Repr

/-- The settings of logging and metrics where nothing is said. -/
def TelemetrySettings.default : TelemetrySettings := ⟨"trellis", .default, .default⟩

/-- All settings. -/
structure Settings where
  /-- The settings of the access service. -/
  access : AccessSettings
  /-- The settings of logging and metrics. -/
  telemetry : TelemetrySettings
deriving DecidableEq, Repr

namespace Settings

/-- The settings where nothing is said. -/
def default : Settings := ⟨.default, .default⟩

/-- The settings in development: debug lines for people, and outcomes remembered for seconds. -/
def development : Settings where
  access := { AccessSettings.default with initializeRoot := true, cache := ⟨true, 1000, 5⟩ }
  telemetry :=
    { TelemetrySettings.default with
      logging := { LogSettings.default with
        level := "debug", format := .pretty, ansi := true, location := true } }

/-- The settings in production: a large cache, and no rules given to a root without any. -/
def production : Settings where
  access := { AccessSettings.default with initializeRoot := false, cache := ⟨true, 50000, 60⟩ }
  telemetry :=
    { TelemetrySettings.default with
      logging := { LogSettings.default with level := "info", format := .json, ansi := false } }

/-- The configuration of the access service that the settings describe. -/
def serviceConfig (s : Settings) : ServiceConfig where
  root := s.access.root
  administrator := s.access.administrator
  admins := NameSet.ofList s.access.admins
  anonymous := s.access.anonymous
  initializeRoot := s.access.initializeRoot
  cache := s.access.cache.limits

/-- The configuration of logging and metrics that the settings describe. -/
def telemetryConfig (s : Settings) : Telemetry.Config where
  serviceName := s.telemetry.serviceName
  logging := {
    enabled := s.telemetry.logging.enabled
    level := s.telemetry.logging.level
    jsonFormat := s.telemetry.logging.format = .json
    spanEvents := false
    location := s.telemetry.logging.location
    ansi := s.telemetry.logging.ansi }
  metrics := ⟨s.telemetry.metrics.enabled, s.telemetry.metrics.address⟩

end Settings

end WebAccess
