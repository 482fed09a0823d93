import WebAccess.Document.Decode
import WebAccess.Settings

/-!
# Settings in documents

Each section is a strict record: an unknown key is a mistake, and what is not given has its default.
-/

set_option autoImplicit false

namespace WebAccess

open WebAccess.Document

/-- What is given of the settings of the cache. -/
structure CacheSettings.Draft where
  /-- Whether outcomes are remembered. -/
  enabled : Option Bool
  /-- How many outcomes are remembered. -/
  maxEntries : Option Nat
  /-- For how many seconds an outcome is remembered. -/
  ttlSeconds : Option Nat

/-- The settings of the cache with what is given, and defaults for the rest. -/
def CacheSettings.Draft.fill (d : CacheSettings.Draft) : CacheSettings where
  enabled := d.enabled.getD CacheSettings.default.enabled
  maxEntries := d.maxEntries.getD CacheSettings.default.maxEntries
  ttlSeconds := d.ttlSeconds.getD CacheSettings.default.ttlSeconds

/-- The settings of the cache as records. -/
def CacheSettings.record : Record CacheSettings.Draft CacheSettings where
  title := "struct CacheSection"
  strict := true
  fields := [
    .of "enabled" true (·.enabled) (fun d v => { d with enabled := some v }) asBool,
    .of "max_entries" true (·.maxEntries) (fun d v => { d with maxEntries := some v })
      (asNat "usize"),
    .of "ttl_secs" true (·.ttlSeconds) (fun d v => { d with ttlSeconds := some v }) (asNat "u64")]
  start := ⟨none, none, none⟩
  complete d := .ok d.fill

/-- The settings of the cache as a tree. -/
def CacheSettings.toTree (s : CacheSettings) : Tree :=
  .record [("enabled", .bool s.enabled), ("max_entries", .int s.maxEntries),
    ("ttl_secs", .int s.ttlSeconds)]

/-- What is given of the settings of the access service. -/
structure AccessSettings.Draft where
  /-- The root container. -/
  root : Option String
  /-- The administrator. -/
  administrator : Option String
  /-- Further administrators. -/
  admins : Option (List String)
  /-- The anonymous agent. -/
  anonymous : Option String
  /-- Whether the root gets rules at the start. -/
  initializeRoot : Option Bool
  /-- The settings of the cache. -/
  cache : Option CacheSettings

/-- The settings of the access service with what is given, and defaults for the rest. -/
def AccessSettings.Draft.fill (d : AccessSettings.Draft) : AccessSettings where
  root := d.root.getD AccessSettings.default.root
  administrator := d.administrator.getD AccessSettings.default.administrator
  admins := d.admins.getD AccessSettings.default.admins
  anonymous := d.anonymous.getD AccessSettings.default.anonymous
  initializeRoot := d.initializeRoot.getD AccessSettings.default.initializeRoot
  cache := d.cache.getD AccessSettings.default.cache

/-- The settings of the access service as records. -/
def AccessSettings.record (origin : Origin) : Record AccessSettings.Draft AccessSettings where
  title := "struct WebacSection"
  strict := true
  fields := [
    .of "root" true (·.root) (fun d v => { d with root := some v }) asText,
    .of "administrator_agent" true (·.administrator)
      (fun d v => { d with administrator := some v }) asText,
    .of "admin_agents" true (·.admins) (fun d v => { d with admins := some v }) (asList asText),
    .of "anonymous_agent" true (·.anonymous) (fun d v => { d with anonymous := some v }) asText,
    .of "initialize_root_acl" true (·.initializeRoot)
      (fun d v => { d with initializeRoot := some v }) asBool,
    .of "cache" true (·.cache) (fun d v => { d with cache := some v })
      (CacheSettings.record.decode origin)]
  start := ⟨none, none, none, none, none, none⟩
  complete d := .ok d.fill

/-- Takes a tree as the settings of the access service. -/
def AccessSettings.decode (origin : Origin) (t : Tree) : Decoded AccessSettings :=
  (AccessSettings.record origin).decode origin t

/-- The settings of the access service as a tree. -/
def AccessSettings.toTree (s : AccessSettings) : Tree :=
  .record [("root", .text s.root), ("administrator_agent", .text s.administrator),
    ("admin_agents", .list (s.admins.map .text)), ("anonymous_agent", .text s.anonymous),
    ("initialize_root_acl", .bool s.initializeRoot), ("cache", s.cache.toTree)]

/-- What is given of the settings of logging. -/
structure LogSettings.Draft where
  /-- Whether events are logged. -/
  enabled : Option Bool
  /-- Which events are logged. -/
  level : Option String
  /-- The form of log lines. -/
  format : Option LogFormat
  /-- Whether colours are used. -/
  ansi : Option Bool
  /-- Whether the place in the source is logged. -/
  location : Option Bool

/-- The settings of logging with what is given, and defaults for the rest. -/
def LogSettings.Draft.fill (d : LogSettings.Draft) : LogSettings where
  enabled := d.enabled.getD LogSettings.default.enabled
  level := d.level.getD LogSettings.default.level
  format := d.format.getD LogSettings.default.format
  ansi := d.ansi.getD LogSettings.default.ansi
  location := d.location.getD LogSettings.default.location

/-- The settings of logging as records. -/
def LogSettings.record (origin : Origin) : Record LogSettings.Draft LogSettings where
  title := "struct LoggingSection"
  strict := true
  fields := [
    .of "enabled" true (·.enabled) (fun d v => { d with enabled := some v }) asBool,
    .of "level" true (·.level) (fun d v => { d with level := some v }) asText,
    .of "format" true (·.format) (fun d v => { d with format := some v })
      (asWord origin LogFormat.words),
    .of "ansi_enabled" true (·.ansi) (fun d v => { d with ansi := some v }) asBool,
    .of "include_location" true (·.location) (fun d v => { d with location := some v }) asBool]
  start := ⟨none, none, none, none, none⟩
  complete d := .ok d.fill

/-- The settings of logging as a tree. -/
def LogSettings.toTree (s : LogSettings) : Tree :=
  .record [("enabled", .bool s.enabled), ("level", .text s.level), ("format", .text s.format.word),
    ("ansi_enabled", .bool s.ansi), ("include_location", .bool s.location)]

/-- What is given of the settings of metrics. -/
structure MetricsSettings.Draft where
  /-- Whether metrics are exported. -/
  enabled : Option Bool
  /-- The address they are served at. -/
  address : Option String

/-- The settings of metrics with what is given, and defaults for the rest. -/
def MetricsSettings.Draft.fill (d : MetricsSettings.Draft) : MetricsSettings where
  enabled := d.enabled.getD MetricsSettings.default.enabled
  address := d.address.getD MetricsSettings.default.address

/-- The settings of metrics as records. -/
def MetricsSettings.record : Record MetricsSettings.Draft MetricsSettings where
  title := "struct MetricsSection"
  strict := true
  fields := [
    .of "enabled" true (·.enabled) (fun d v => { d with enabled := some v }) asBool,
    .of "addr" true (·.address) (fun d v => { d with address := some v }) asText]
  start := ⟨none, none⟩
  complete d := .ok d.fill

/-- The settings of metrics as a tree. -/
def MetricsSettings.toTree (s : MetricsSettings) : Tree :=
  .record [("enabled", .bool s.enabled), ("addr", .text s.address)]

/-- What is given of the settings of logging and metrics. -/
structure TelemetrySettings.Draft where
  /-- The name of the service. -/
  serviceName : Option String
  /-- The settings of logging. -/
  logging : Option LogSettings
  /-- The settings of metrics. -/
  metrics : Option MetricsSettings

/-- The settings of logging and metrics with what is given, and defaults for the rest. -/
def TelemetrySettings.Draft.fill (d : TelemetrySettings.Draft) : TelemetrySettings where
  serviceName := d.serviceName.getD TelemetrySettings.default.serviceName
  logging := d.logging.getD TelemetrySettings.default.logging
  metrics := d.metrics.getD TelemetrySettings.default.metrics

/-- The settings of logging and metrics as records. -/
def TelemetrySettings.record (origin : Origin) :
    Record TelemetrySettings.Draft TelemetrySettings where
  title := "struct TelemetrySection"
  strict := true
  fields := [
    .of "service_name" true (·.serviceName) (fun d v => { d with serviceName := some v }) asText,
    .of "logging" true (·.logging) (fun d v => { d with logging := some v })
      ((LogSettings.record origin).decode origin),
    .of "metrics" true (·.metrics) (fun d v => { d with metrics := some v })
      (MetricsSettings.record.decode origin)]
  start := ⟨none, none, none⟩
  complete d := .ok d.fill

/-- Takes a tree as the settings of logging and metrics. -/
def TelemetrySettings.decode (origin : Origin) (t : Tree) : Decoded TelemetrySettings :=
  (TelemetrySettings.record origin).decode origin t

/-- The settings of logging and metrics as a tree. -/
def TelemetrySettings.toTree (s : TelemetrySettings) : Tree :=
  .record [("service_name", .text s.serviceName), ("logging", s.logging.toTree),
    ("metrics", s.metrics.toTree)]

/-- What is given of all settings. -/
structure Settings.Draft where
  /-- The settings of the access service. -/
  access : Option AccessSettings
  /-- The settings of logging and metrics. -/
  telemetry : Option TelemetrySettings

/-- All settings with what is given, and defaults for the rest. -/
def Settings.Draft.fill (d : Settings.Draft) : Settings where
  access := d.access.getD .default
  telemetry := d.telemetry.getD .default

/-- All settings as records. -/
def Settings.record (origin : Origin) : Record Settings.Draft Settings where
  title := "struct TrellisConfig"
  strict := true
  fields := [
    .of "webac" true (·.access) (fun d v => { d with access := some v })
      (AccessSettings.decode origin),
    .of "telemetry" true (·.telemetry) (fun d v => { d with telemetry := some v })
      (TelemetrySettings.decode origin)]
  start := ⟨none, none⟩
  complete d := .ok d.fill

/-- Takes a tree as settings. -/
def Settings.decode (origin : Origin) (t : Tree) : Decoded Settings :=
  (Settings.record origin).decode origin t

/-- All settings as a tree. -/
def Settings.toTree (s : Settings) : Tree :=
  .record [("webac", s.access.toTree), ("telemetry", s.telemetry.toTree)]

end WebAccess
