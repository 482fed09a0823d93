import WebAccess.Settings
import WebAccess.Settings.Error
import WebAccess.Text.Blank
import WebAccess.Text.Digit
import WebAccess.Text.Pieces

/-!
# Settings in the environment

An environment variable sets one setting. Its name is a chosen beginning and the path of the
setting in upper case, joined by `__`: with the beginning `APP`, the variable
`APP__WEBAC__CACHE__TTL_SECS` sets how long outcomes are remembered. Variables with other names
say nothing.
-/

set_option autoImplicit false

namespace WebAccess.Settings

/-- A setting that a variable can set. -/
inductive Setting where
  /-- The root container. -/
  | root
  /-- The administrator. -/
  | administrator
  /-- Further administrators, between commas. -/
  | admins
  /-- The anonymous agent. -/
  | anonymous
  /-- Whether the root gets rules at the start. -/
  | initializeRoot
  /-- Whether outcomes are remembered. -/
  | cacheEnabled
  /-- How many outcomes are remembered. -/
  | cacheMaxEntries
  /-- For how many seconds an outcome is remembered. -/
  | cacheTtlSeconds
  /-- The name of the service. -/
  | serviceName
  /-- Whether events are logged. -/
  | loggingEnabled
  /-- Which events are logged. -/
  | loggingLevel
  /-- The form of log lines. -/
  | loggingFormat
  /-- Whether colours are used. -/
  | loggingAnsi
  /-- Whether metrics are exported. -/
  | metricsEnabled
  /-- The address metrics are served at. -/
  | metricsAddress
deriving DecidableEq, Repr

namespace Setting

/-- All settings that a variable can set. -/
def all : List Setting :=
  [root, administrator, admins, anonymous, initializeRoot, cacheEnabled, cacheMaxEntries,
    cacheTtlSeconds, serviceName, loggingEnabled, loggingLevel, loggingFormat, loggingAnsi,
    metricsEnabled, metricsAddress]

/-- The path of a setting. -/
def path : Setting → String
  | root => "WEBAC__ROOT"
  | administrator => "WEBAC__ADMINISTRATOR_AGENT"
  | admins => "WEBAC__ADMIN_AGENTS"
  | anonymous => "WEBAC__ANONYMOUS_AGENT"
  | initializeRoot => "WEBAC__INITIALIZE_ROOT_ACL"
  | cacheEnabled => "WEBAC__CACHE__ENABLED"
  | cacheMaxEntries => "WEBAC__CACHE__MAX_ENTRIES"
  | cacheTtlSeconds => "WEBAC__CACHE__TTL_SECS"
  | serviceName => "TELEMETRY__SERVICE_NAME"
  | loggingEnabled => "TELEMETRY__LOGGING__ENABLED"
  | loggingLevel => "TELEMETRY__LOGGING__LEVEL"
  | loggingFormat => "TELEMETRY__LOGGING__FORMAT"
  | loggingAnsi => "TELEMETRY__LOGGING__ANSI_ENABLED"
  | metricsEnabled => "TELEMETRY__METRICS__ENABLED"
  | metricsAddress => "TELEMETRY__METRICS__ADDR"

/-- The setting with the given path. -/
def ofPath? (s : String) : Option Setting :=
  all.find? fun x => x.path == s

end Setting

/-- The text with its ASCII letters in lower case. No other letter has a lower case that occurs in a
word with a meaning here. -/
def lowerCase (s : String) : String :=
  String.ofList (s.toList.map Char.toLower)

/-- The truth value that a word denotes, in any case. -/
def readBool (s : String) : Except String Bool :=
  if lowerCase s ∈ ["true", "1", "yes", "on"] then .ok true
  else if lowerCase s ∈ ["false", "0", "no", "off"] then .ok false
  else .error "expected boolean"

/-- The number below `2 ^ 64` that digits denote. -/
def readNat (s : String) : Except String Nat :=
  match Text.natural? (Nat.pow 2 64) s.toList with
  | some n => .ok n
  | none => .error "expected integer"

/-- The form of log lines that a word denotes, in any case. -/
def readFormat (s : String) : Except String LogFormat :=
  match LogFormat.words.lookup (lowerCase s) with
  | some format => .ok format
  | none => .error "expected \x27json\x27 or \x27pretty\x27"

/-- The names between commas, without blanks around them; blank ones are left out. -/
def readNames (s : String) : List String :=
  ((Text.pieces ',' s.toList).map Text.trim).filterMap fun name =>
    if name.isEmpty then none else some (String.ofList name)

/-- Sets a setting from the text of a variable, or says what was expected. -/
def set (s : Settings) (setting : Setting) (value : String) : Except String Settings :=
  let access (a : AccessSettings) : Settings := { s with access := a }
  let cache (c : CacheSettings) : Settings := access { s.access with cache := c }
  let telemetry (t : TelemetrySettings) : Settings := { s with telemetry := t }
  let logging (l : LogSettings) : Settings := telemetry { s.telemetry with logging := l }
  let metrics (m : MetricsSettings) : Settings := telemetry { s.telemetry with metrics := m }
  match setting with
  | .root => .ok (access { s.access with root := value })
  | .administrator => .ok (access { s.access with administrator := value })
  | .admins => .ok (access { s.access with admins := readNames value })
  | .anonymous => .ok (access { s.access with anonymous := value })
  | .initializeRoot => (readBool value).map fun v => access { s.access with initializeRoot := v }
  | .cacheEnabled => (readBool value).map fun v => cache { s.access.cache with enabled := v }
  | .cacheMaxEntries => (readNat value).map fun v => cache { s.access.cache with maxEntries := v }
  | .cacheTtlSeconds => (readNat value).map fun v => cache { s.access.cache with ttlSeconds := v }
  | .serviceName => .ok (telemetry { s.telemetry with serviceName := value })
  | .loggingEnabled =>
    (readBool value).map fun v => logging { s.telemetry.logging with enabled := v }
  | .loggingLevel => .ok (logging { s.telemetry.logging with level := value })
  | .loggingFormat =>
    (readFormat value).map fun v => logging { s.telemetry.logging with format := v }
  | .loggingAnsi => (readBool value).map fun v => logging { s.telemetry.logging with ansi := v }
  | .metricsEnabled =>
    (readBool value).map fun v => metrics { s.telemetry.metrics with enabled := v }
  | .metricsAddress => .ok (metrics { s.telemetry.metrics with address := value })

/-- The variables of an environment with their values. -/
abbrev Environment := List (String × String)

/-- The setting that a variable sets, where names of variables begin with `beginning`. -/
def settingOf? (beginning name : String) : Option Setting :=
  Setting.all.find? fun setting => name == beginning ++ "__" ++ setting.path

/-- Sets what one variable sets. -/
def applyVariable (beginning : String) (s : Settings) (entry : String × String) :
    Except Error Settings :=
  match settingOf? beginning entry.1 with
  | none => .ok s
  | some setting => (s.set setting entry.2).mapError (.environment entry.1)

/-- Sets what the variables of an environment set. -/
def applyEnvironment (beginning : String) (s : Settings) (env : Environment) :
    Except Error Settings :=
  env.foldlM (applyVariable beginning) s

end WebAccess.Settings
