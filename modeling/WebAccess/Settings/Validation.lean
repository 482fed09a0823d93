import WebAccess.Settings
import WebAccess.Settings.Error
import WebAccess.Telemetry.Installation

/-!
# Checking settings

Settings can be used if root and agents are given, the anonymous agent is no administrator, an
enabled cache can hold something, an enabled log has a valid filter, and enabled metrics have a
socket address. The first of these that fails is reported.
-/

set_option autoImplicit false

namespace WebAccess.Settings

/-- Checks that a setting holds more than blanks. -/
def checkGiven (field value : String) : Except Error Unit :=
  if Text.allBlank value then .error (.invalidValue field "must not be empty") else .ok ()

/-- Checks that a limit of an enabled cache is not zero. -/
def checkPositive (field : String) (n : Nat) : Except Error Unit :=
  if n = 0 then .error (.invalidValue field "must be positive when the cache is enabled")
  else .ok ()

/-- Checks the settings of the cache. -/
def checkCache (s : CacheSettings) : Except Error Unit := do
  if s.enabled then
    checkPositive "webac.cache.max_entries" s.maxEntries
    checkPositive "webac.cache.ttl_secs" s.ttlSeconds

/-- Checks the settings of logging. -/
def checkLogging (s : LogSettings) : Except Error Unit :=
  if s.enabled then
    match Telemetry.readFilter s.level with
    | .ok _ => .ok ()
    | .error e => .error (.invalidValue "telemetry.logging.level" e.message)
  else .ok ()

/-- Checks the settings of metrics. -/
def checkMetrics (s : MetricsSettings) : Except Error Unit :=
  if s.enabled ∧ ¬Telemetry.SocketAddress.isValid s.address then
    .error (.invalidValue "telemetry.metrics.addr" ("invalid socket address: " ++ s.address))
  else .ok ()

/-- Checks all settings. -/
def validate (s : Settings) : Except Error Unit := do
  checkGiven "webac.root" s.access.root
  checkGiven "webac.administrator_agent" s.access.administrator
  checkGiven "webac.anonymous_agent" s.access.anonymous
  s.serviceConfig.validate.mapError Error.access
  checkCache s.access.cache
  checkLogging s.telemetry.logging
  checkMetrics s.telemetry.metrics

end WebAccess.Settings
