import WebAccess.Proofs.RecordFields
import WebAccess.Settings.Loader

/-!
# Single items of the settings

All settings are sixteen single items (`Settings.eq_of_value_eq`). Fifteen of them can be set by a
variable, which changes this one (`Settings.value_set`) and no other (`Settings.value_set_of_ne`).
In a document each item has its place in the sections, and settings that are taken from a document
have there what the document gives, and the default for the rest (`Settings.gives_of_decode`).
-/

set_option autoImplicit false

namespace WebAccess

open Document

namespace Settings

/-- What a single item can be. -/
inductive Value where
  | text (s : String)
  | texts (l : List String)
  | flag (b : Bool)
  | number (n : Nat)
  | format (f : LogFormat)
deriving DecidableEq, Repr

/-- A single item of the settings. -/
inductive Item where
  /-- One that a variable can set. -/
  | named (setting : Setting)
  /-- Whether the place in the source is logged. -/
  | location
deriving DecidableEq, Repr

/-- The item in some settings. -/
def value (s : Settings) : Item → Value
  | .named .root => .text s.access.root
  | .named .administrator => .text s.access.administrator
  | .named .admins => .texts s.access.admins
  | .named .anonymous => .text s.access.anonymous
  | .named .initializeRoot => .flag s.access.initializeRoot
  | .named .cacheEnabled => .flag s.access.cache.enabled
  | .named .cacheMaxEntries => .number s.access.cache.maxEntries
  | .named .cacheTtlSeconds => .number s.access.cache.ttlSeconds
  | .named .serviceName => .text s.telemetry.serviceName
  | .named .loggingEnabled => .flag s.telemetry.logging.enabled
  | .named .loggingLevel => .text s.telemetry.logging.level
  | .named .loggingFormat => .format s.telemetry.logging.format
  | .named .loggingAnsi => .flag s.telemetry.logging.ansi
  | .named .metricsEnabled => .flag s.telemetry.metrics.enabled
  | .named .metricsAddress => .text s.telemetry.metrics.address
  | .location => .flag s.telemetry.logging.location

/-- The place of an item in a document. -/
def Item.place : Item → List (String × Nat)
  | .named .root => [("webac", 0), ("root", 0)]
  | .named .administrator => [("webac", 0), ("administrator_agent", 1)]
  | .named .admins => [("webac", 0), ("admin_agents", 2)]
  | .named .anonymous => [("webac", 0), ("anonymous_agent", 3)]
  | .named .initializeRoot => [("webac", 0), ("initialize_root_acl", 4)]
  | .named .cacheEnabled => [("webac", 0), ("cache", 5), ("enabled", 0)]
  | .named .cacheMaxEntries => [("webac", 0), ("cache", 5), ("max_entries", 1)]
  | .named .cacheTtlSeconds => [("webac", 0), ("cache", 5), ("ttl_secs", 2)]
  | .named .serviceName => [("telemetry", 1), ("service_name", 0)]
  | .named .loggingEnabled => [("telemetry", 1), ("logging", 1), ("enabled", 0)]
  | .named .loggingLevel => [("telemetry", 1), ("logging", 1), ("level", 1)]
  | .named .loggingFormat => [("telemetry", 1), ("logging", 1), ("format", 2)]
  | .named .loggingAnsi => [("telemetry", 1), ("logging", 1), ("ansi_enabled", 3)]
  | .named .metricsEnabled => [("telemetry", 1), ("metrics", 2), ("enabled", 0)]
  | .named .metricsAddress => [("telemetry", 1), ("metrics", 2), ("addr", 1)]
  | .location => [("telemetry", 1), ("logging", 1), ("include_location", 4)]

/-- Takes a part of a document as an item. -/
def Item.decode (origin : Origin) (item : Item) (t : Tree) : Decoded Value :=
  match item with
  | .named .root | .named .administrator | .named .anonymous | .named .serviceName
  | .named .loggingLevel | .named .metricsAddress => (asText t).map .text
  | .named .admins => (asList asText t).map .texts
  | .named .initializeRoot | .named .cacheEnabled | .named .loggingEnabled | .named .loggingAnsi
  | .named .metricsEnabled | .location => (asBool t).map .flag
  | .named .cacheMaxEntries => (asNat "usize" t).map .number
  | .named .cacheTtlSeconds => (asNat "u64" t).map .number
  | .named .loggingFormat => (asWord origin LogFormat.words t).map .format

/-- Takes the text of a variable as an item, or says what was expected. -/
def Setting.read (setting : Setting) (text : String) : Except String Value :=
  match setting with
  | .root | .administrator | .anonymous | .serviceName | .loggingLevel | .metricsAddress =>
    .ok (.text text)
  | .admins => .ok (.texts (readNames text))
  | .initializeRoot | .cacheEnabled | .loggingEnabled | .loggingAnsi | .metricsEnabled =>
    (readBool text).map .flag
  | .cacheMaxEntries | .cacheTtlSeconds => (readNat text).map .number
  | .loggingFormat => (readFormat text).map .format

/-- Settings with the same items are the same. -/
theorem eq_of_value_eq {s s' : Settings} (h : ∀ item, s.value item = s'.value item) : s = s' := by
  obtain ⟨⟨_, _, _, _, _, _, _, _⟩, ⟨_, ⟨_, _, _, _, _⟩, ⟨_, _⟩⟩⟩ := s
  obtain ⟨⟨_, _, _, _, _, _, _, _⟩, ⟨_, ⟨_, _, _, _, _⟩, ⟨_, _⟩⟩⟩ := s'
  obtain rfl := Value.text.inj (h (.named .root))
  obtain rfl := Value.text.inj (h (.named .administrator))
  obtain rfl := Value.texts.inj (h (.named .admins))
  obtain rfl := Value.text.inj (h (.named .anonymous))
  obtain rfl := Value.flag.inj (h (.named .initializeRoot))
  obtain rfl := Value.flag.inj (h (.named .cacheEnabled))
  obtain rfl := Value.number.inj (h (.named .cacheMaxEntries))
  obtain rfl := Value.number.inj (h (.named .cacheTtlSeconds))
  obtain rfl := Value.text.inj (h (.named .serviceName))
  obtain rfl := Value.flag.inj (h (.named .loggingEnabled))
  obtain rfl := Value.text.inj (h (.named .loggingLevel))
  obtain rfl := Value.format.inj (h (.named .loggingFormat))
  obtain rfl := Value.flag.inj (h (.named .loggingAnsi))
  obtain rfl := Value.flag.inj (h (.named .metricsEnabled))
  obtain rfl := Value.text.inj (h (.named .metricsAddress))
  obtain rfl := Value.flag.inj (h .location)
  rfl

/-! ## Variables -/

/-- A text that can be read becomes the item, one that cannot be read says why. -/
theorem value_set (s : Settings) (setting : Setting) (text : String) :
    (s.set setting text).map (·.value (.named setting)) = setting.read text := by
  cases setting with
  | root | administrator | admins | anonymous | serviceName | loggingLevel | metricsAddress => rfl
  | initializeRoot | cacheEnabled | loggingEnabled | loggingAnsi | metricsEnabled =>
    simp only [set, Setting.read]
    cases readBool text <;> rfl
  | cacheMaxEntries | cacheTtlSeconds =>
    simp only [set, Setting.read]
    cases readNat text <;> rfl
  | loggingFormat =>
    simp only [set, Setting.read]
    cases readFormat text <;> rfl

/-- Setting one item leaves the others. -/
theorem value_set_of_ne {s s' : Settings} {setting : Setting} {text : String} {item : Item}
    (h : s.set setting text = .ok s') (hne : item ≠ .named setting) :
    s'.value item = s.value item := by
  cases setting with
  | root | administrator | admins | anonymous | serviceName | loggingLevel | metricsAddress =>
    obtain rfl := Except.ok.inj h
    rcases item with other | _
    · cases other <;> first | rfl | exact absurd rfl hne
    · rfl
  | initializeRoot | cacheEnabled | cacheMaxEntries | cacheTtlSeconds | loggingEnabled
  | loggingFormat | loggingAnsi | metricsEnabled =>
    obtain ⟨v, -, rfl⟩ := map_eq_ok.1 h
    rcases item with other | _
    · cases other <;> first | rfl | exact absurd rfl hne
    · rfl

end Settings

/-! ## Documents -/

section Documents

variable {origin : Origin} {t : Tree}

/-- Each setting of the cache is what the document gives for it, or the default. -/
structure CacheSettings.GivenBy (t : Tree) (s : CacheSettings) : Prop where
  enabled : t.Gives [("enabled", 0)] asBool CacheSettings.default.enabled s.enabled
  maxEntries : t.Gives [("max_entries", 1)] (asNat "usize")
    CacheSettings.default.maxEntries s.maxEntries
  ttlSeconds : t.Gives [("ttl_secs", 2)] (asNat "u64") CacheSettings.default.ttlSeconds s.ttlSeconds

/-- The settings of the cache that are decoded are those that the document gives. -/
theorem CacheSettings.givenBy_of_decode (horigin : origin ≠ .jsonValue) {s : CacheSettings}
    (h : CacheSettings.record.decode origin t = .ok s) : s.GivenBy t := by
  obtain ⟨d, hcomplete, hfilled⟩ := Record.exists_draft horigin h
  obtain rfl := Except.ok.inj hcomplete
  -- Each goal names a key, which settles the field and its part of the draft.
  constructor <;>
    exact Filled.gives (hfilled ⟨⟨_, _, rfl, fun _ _ => rfl⟩,
      by simp [CacheSettings.record, Field.spares_of], rfl, by decide⟩) rfl

/-- Each setting of the access service is what the document gives for it, or the default. -/
structure AccessSettings.GivenBy (origin : Origin) (t : Tree) (s : AccessSettings) : Prop where
  root : t.Gives [("root", 0)] asText AccessSettings.default.root s.root
  administrator : t.Gives [("administrator_agent", 1)] asText
    AccessSettings.default.administrator s.administrator
  admins : t.Gives [("admin_agents", 2)] (asList asText) AccessSettings.default.admins s.admins
  anonymous : t.Gives [("anonymous_agent", 3)] asText AccessSettings.default.anonymous s.anonymous
  initializeRoot : t.Gives [("initialize_root_acl", 4)] asBool
    AccessSettings.default.initializeRoot s.initializeRoot
  cache : t.Gives [("cache", 5)] (CacheSettings.record.decode origin)
    AccessSettings.default.cache s.cache

/-- The settings of the access service that are decoded are those that the document gives. -/
theorem AccessSettings.givenBy_of_decode (horigin : origin ≠ .jsonValue) {s : AccessSettings}
    (h : (AccessSettings.record origin).decode origin t = .ok s) : s.GivenBy origin t := by
  obtain ⟨d, hcomplete, hfilled⟩ := Record.exists_draft horigin h
  obtain rfl := Except.ok.inj hcomplete
  constructor <;>
    exact Filled.gives (hfilled ⟨⟨_, _, rfl, fun _ _ => rfl⟩,
      by simp [AccessSettings.record, Field.spares_of], rfl, by decide⟩) rfl

/-- Each setting of logging is what the document gives for it, or the default. -/
structure LogSettings.GivenBy (origin : Origin) (t : Tree) (s : LogSettings) : Prop where
  enabled : t.Gives [("enabled", 0)] asBool LogSettings.default.enabled s.enabled
  level : t.Gives [("level", 1)] asText LogSettings.default.level s.level
  format : t.Gives [("format", 2)] (asWord origin LogFormat.words)
    LogSettings.default.format s.format
  ansi : t.Gives [("ansi_enabled", 3)] asBool LogSettings.default.ansi s.ansi
  location : t.Gives [("include_location", 4)] asBool LogSettings.default.location s.location

/-- The settings of logging that are decoded are those that the document gives. -/
theorem LogSettings.givenBy_of_decode (horigin : origin ≠ .jsonValue) {s : LogSettings}
    (h : (LogSettings.record origin).decode origin t = .ok s) : s.GivenBy origin t := by
  obtain ⟨d, hcomplete, hfilled⟩ := Record.exists_draft horigin h
  obtain rfl := Except.ok.inj hcomplete
  constructor <;>
    exact Filled.gives (hfilled ⟨⟨_, _, rfl, fun _ _ => rfl⟩,
      by simp [LogSettings.record, Field.spares_of], rfl, by decide⟩) rfl

/-- Each setting of metrics is what the document gives for it, or the default. -/
structure MetricsSettings.GivenBy (t : Tree) (s : MetricsSettings) : Prop where
  enabled : t.Gives [("enabled", 0)] asBool MetricsSettings.default.enabled s.enabled
  address : t.Gives [("addr", 1)] asText MetricsSettings.default.address s.address

/-- The settings of metrics that are decoded are those that the document gives. -/
theorem MetricsSettings.givenBy_of_decode (horigin : origin ≠ .jsonValue) {s : MetricsSettings}
    (h : MetricsSettings.record.decode origin t = .ok s) : s.GivenBy t := by
  obtain ⟨d, hcomplete, hfilled⟩ := Record.exists_draft horigin h
  obtain rfl := Except.ok.inj hcomplete
  constructor <;>
    exact Filled.gives (hfilled ⟨⟨_, _, rfl, fun _ _ => rfl⟩,
      by simp [MetricsSettings.record, Field.spares_of], rfl, by decide⟩) rfl

/-- The name of the service and the sections are what the document gives, or the defaults. -/
structure TelemetrySettings.GivenBy (origin : Origin) (t : Tree) (s : TelemetrySettings) :
    Prop where
  serviceName : t.Gives [("service_name", 0)] asText
    TelemetrySettings.default.serviceName s.serviceName
  logging : t.Gives [("logging", 1)] ((LogSettings.record origin).decode origin)
    TelemetrySettings.default.logging s.logging
  metrics : t.Gives [("metrics", 2)] (MetricsSettings.record.decode origin)
    TelemetrySettings.default.metrics s.metrics

/-- The name of the service and the sections that are decoded are those that the document gives. -/
theorem TelemetrySettings.givenBy_of_decode (horigin : origin ≠ .jsonValue) {s : TelemetrySettings}
    (h : (TelemetrySettings.record origin).decode origin t = .ok s) : s.GivenBy origin t := by
  obtain ⟨d, hcomplete, hfilled⟩ := Record.exists_draft horigin h
  obtain rfl := Except.ok.inj hcomplete
  constructor <;>
    exact Filled.gives (hfilled ⟨⟨_, _, rfl, fun _ _ => rfl⟩,
      by simp [TelemetrySettings.record, Field.spares_of], rfl, by decide⟩) rfl

/-- Both sections are what the document gives, or the defaults. -/
structure Settings.GivenBy (origin : Origin) (t : Tree) (s : Settings) : Prop where
  access : t.Gives [("webac", 0)] (AccessSettings.decode origin) Settings.default.access s.access
  telemetry : t.Gives [("telemetry", 1)] (TelemetrySettings.decode origin)
    Settings.default.telemetry s.telemetry

/-- The two sections that are decoded are those that the document gives. -/
theorem Settings.givenBy_of_decode (horigin : origin ≠ .jsonValue) {s : Settings}
    (h : (Settings.record origin).decode origin t = .ok s) : s.GivenBy origin t := by
  obtain ⟨d, hcomplete, hfilled⟩ := Record.exists_draft horigin h
  obtain rfl := Except.ok.inj hcomplete
  constructor <;>
    exact Filled.gives (hfilled ⟨⟨_, _, rfl, fun _ _ => rfl⟩,
      by simp [Settings.record, Field.spares_of], rfl, by decide⟩) rfl

/-- Settings that are taken from a document have, item by item, what the document gives at the place
of the item, and the default where it gives nothing. -/
theorem Settings.gives_of_decode (horigin : origin ≠ .jsonValue) {s : Settings}
    (h : Settings.decode origin t = .ok s) (item : Settings.Item) :
    t.Gives item.place (item.decode origin) (Settings.default.value item) (s.value item) := by
  obtain ⟨haccess, htelemetry⟩ := Settings.givenBy_of_decode horigin h
  have hcache : t.Gives [("webac", 0), ("cache", 5)] (CacheSettings.record.decode origin)
      CacheSettings.default s.access.cache :=
    haccess.down (·.cache) fun u hu => (AccessSettings.givenBy_of_decode horigin hu).cache
  have hlogging : t.Gives [("telemetry", 1), ("logging", 1)]
      ((LogSettings.record origin).decode origin) LogSettings.default s.telemetry.logging :=
    htelemetry.down (·.logging) fun u hu => (TelemetrySettings.givenBy_of_decode horigin hu).logging
  have hmetrics : t.Gives [("telemetry", 1), ("metrics", 2)] (MetricsSettings.record.decode origin)
      MetricsSettings.default s.telemetry.metrics :=
    htelemetry.down (·.metrics) fun u hu => (TelemetrySettings.givenBy_of_decode horigin hu).metrics
  rcases item with setting | _
  · cases setting with
    | root =>
      have h := haccess.down (·.root) fun u hu =>
        (AccessSettings.givenBy_of_decode horigin hu).root
      exact h.map Settings.Value.text
    | administrator =>
      have h := haccess.down (·.administrator) fun u hu =>
        (AccessSettings.givenBy_of_decode horigin hu).administrator
      exact h.map Settings.Value.text
    | admins =>
      have h := haccess.down (·.admins) fun u hu =>
        (AccessSettings.givenBy_of_decode horigin hu).admins
      exact h.map Settings.Value.texts
    | anonymous =>
      have h := haccess.down (·.anonymous) fun u hu =>
        (AccessSettings.givenBy_of_decode horigin hu).anonymous
      exact h.map Settings.Value.text
    | initializeRoot =>
      have h := haccess.down (·.initializeRoot) fun u hu =>
        (AccessSettings.givenBy_of_decode horigin hu).initializeRoot
      exact h.map Settings.Value.flag
    | cacheEnabled =>
      have h := hcache.down (·.enabled) fun u hu =>
        (CacheSettings.givenBy_of_decode horigin hu).enabled
      exact h.map Settings.Value.flag
    | cacheMaxEntries =>
      have h := hcache.down (·.maxEntries) fun u hu =>
        (CacheSettings.givenBy_of_decode horigin hu).maxEntries
      exact h.map Settings.Value.number
    | cacheTtlSeconds =>
      have h := hcache.down (·.ttlSeconds) fun u hu =>
        (CacheSettings.givenBy_of_decode horigin hu).ttlSeconds
      exact h.map Settings.Value.number
    | serviceName =>
      have h := htelemetry.down (·.serviceName) fun u hu =>
        (TelemetrySettings.givenBy_of_decode horigin hu).serviceName
      exact h.map Settings.Value.text
    | loggingEnabled =>
      have h := hlogging.down (·.enabled) fun u hu =>
        (LogSettings.givenBy_of_decode horigin hu).enabled
      exact h.map Settings.Value.flag
    | loggingLevel =>
      have h := hlogging.down (·.level) fun u hu =>
        (LogSettings.givenBy_of_decode horigin hu).level
      exact h.map Settings.Value.text
    | loggingFormat =>
      have h := hlogging.down (·.format) fun u hu =>
        (LogSettings.givenBy_of_decode horigin hu).format
      exact h.map Settings.Value.format
    | loggingAnsi =>
      have h := hlogging.down (·.ansi) fun u hu =>
        (LogSettings.givenBy_of_decode horigin hu).ansi
      exact h.map Settings.Value.flag
    | metricsEnabled =>
      have h := hmetrics.down (·.enabled) fun u hu =>
        (MetricsSettings.givenBy_of_decode horigin hu).enabled
      exact h.map Settings.Value.flag
    | metricsAddress =>
      have h := hmetrics.down (·.address) fun u hu =>
        (MetricsSettings.givenBy_of_decode horigin hu).address
      exact h.map Settings.Value.text
  · have h := hlogging.down (·.location) fun u hu =>
      (LogSettings.givenBy_of_decode horigin hu).location
    exact h.map Settings.Value.flag

end Documents

end WebAccess
