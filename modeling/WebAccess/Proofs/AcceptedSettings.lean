import WebAccess.Proofs.Administrators
import WebAccess.Proofs.RootEffect

/-!
# Accepted settings start

Settings are checked section by section, in the terms in which people write them, and the start
checks again what it makes of them: the configuration of the service, the limits of its cache, the
filter of the log, the address of the metrics. Each check of a section is read here as what the
start asks of it, so the two sides cannot disagree: settings that pass start, up to a root that
cannot be read or written to.

Of the faults of a configuration only one is left to be reported as such by the check of settings.
The others are found before, as settings that hold nothing but blanks.

Main statement: `Settings.accepted_iff_starts`.
-/

set_option autoImplicit false

namespace WebAccess

/-- Where nothing is blank, the check of a configuration fails exactly if the anonymous agent is an
administrator. -/
theorem ServiceConfig.exists_validate_eq_error_iff {c : ServiceConfig}
    (hroot : Text.allBlank c.root = false) (hadministrator : Text.allBlank c.administrator = false)
    (hanonymous : Text.allBlank c.anonymous = false) :
    (∃ fault, c.validate = .error fault) ↔ c.isAdministrator c.anonymous = true := by
  unfold validate
  cases c.isAdministrator c.anonymous <;> simp [hroot, hadministrator, hanonymous]

namespace Settings

open Telemetry (readFilter Installation SocketAddress)

/-! ## What each check asks -/

/-- A limit passes exactly if it is not zero. -/
theorem checkPositive_eq_ok_iff {field : String} {n : Nat} :
    checkPositive field n = .ok () ↔ n ≠ 0 := by
  unfold checkPositive
  by_cases h : n = 0 <;> simp [h]

/-- The limits that settings of the cache give can keep something exactly if the cache is enabled
and neither limit is zero. -/
theorem isDisabled_limits_iff {s : CacheSettings} :
    s.limits.isDisabled = false ↔ s.enabled = true ∧ s.maxEntries ≠ 0 ∧ s.ttlSeconds ≠ 0 := by
  unfold CacheSettings.limits CacheLimits.isDisabled Duration.ofSeconds
  cases s.enabled
  · simp [CacheLimits.disabled]
  · simp

/-- The settings of the cache pass exactly if the cache can keep something where it is enabled. -/
theorem checkCache_eq_ok_iff {s : CacheSettings} :
    checkCache s = .ok () ↔ (s.enabled = true → s.limits.isDisabled = false) := by
  rw [isDisabled_limits_iff]
  unfold checkCache
  cases s.enabled with
  | false => exact iff_of_true rfl nofun
  | true =>
    rw [if_pos rfl, check_bind_eq_ok, checkPositive_eq_ok_iff, checkPositive_eq_ok_iff]
    simp

/-- The settings of logging pass exactly if their level is a filter where logging is enabled. -/
theorem checkLogging_eq_ok_iff {s : LogSettings} :
    checkLogging s = .ok () ↔ (s.enabled = true → ∃ filter, readFilter s.level = .ok filter) := by
  unfold checkLogging
  cases s.enabled with
  | false => exact iff_of_true rfl nofun
  | true =>
    cases readFilter s.level <;> simp

/-- The settings of metrics pass exactly if their address is one of a socket where metrics are
enabled. -/
theorem checkMetrics_eq_ok_iff {s : MetricsSettings} :
    checkMetrics s = .ok () ↔
      (s.enabled = true → ∃ address, SocketAddress.ofString? s.address = some address) := by
  unfold checkMetrics
  rw [← Option.isSome_iff_exists]
  show _ ↔ (_ → SocketAddress.isValid s.address = true)
  cases s.enabled
  · simp
  · cases SocketAddress.isValid s.address <;> simp

/-! ## What each check reports -/

/-- If the check fails, it reports the value of a setting. -/
def BlamesValue (check : Except Error Unit) : Prop :=
  ∀ e, check = .error e → ∃ field reason, e = .invalidValue field reason

/-- A check that passes reports nothing. -/
theorem blamesValue_ok : BlamesValue (.ok ()) := nofun

/-- An error about the value of a field reports that value. -/
theorem blamesValue_error (field reason : String) :
    BlamesValue (.error (.invalidValue field reason)) := by
  intro e he
  exact ⟨field, reason, (Except.error.inj he).symm⟩

/-- Two checks in sequence report only values if each of them does. -/
theorem BlamesValue.bind {check : Except Error Unit} {next : Unit → Except Error Unit}
    (h : BlamesValue check) (hnext : BlamesValue (next ())) : BlamesValue (check >>= next) := by
  cases check with
  | error e => exact h
  | ok => exact hnext

/-- A check that reports only values reports no fault of the configuration. -/
theorem BlamesValue.ne_access {check : Except Error Unit} (h : BlamesValue check) (fault : Fault) :
    check ≠ .error (.access fault) := by
  intro haccess
  obtain ⟨_, _, hvalue⟩ := h _ haccess
  cases hvalue

/-- A fault that comes of a check and what follows is not one of the check. -/
theorem BlamesValue.bind_eq_access_iff {check : Except Error Unit} (h : BlamesValue check)
    {next : Unit → Except Error Unit} {fault : Fault} :
    (check >>= next) = .error (.access fault) ↔
      check = .ok () ∧ next () = .error (.access fault) := by
  rw [bind_eq_error, or_iff_right (h.ne_access fault)]
  exact ⟨fun ⟨_, hnext⟩ => hnext, fun hnext => ⟨(), hnext⟩⟩

/-- The check for blanks reports only the value that it checks. -/
theorem blamesValue_checkGiven (field value : String) : BlamesValue (checkGiven field value) := by
  unfold checkGiven
  split
  · exact blamesValue_error field _
  · exact blamesValue_ok

/-- The check of a limit reports only the value that it checks. -/
theorem blamesValue_checkPositive (field : String) (n : Nat) :
    BlamesValue (checkPositive field n) := by
  unfold checkPositive
  split
  · exact blamesValue_error field _
  · exact blamesValue_ok

/-- The check of the cache reports only values. -/
theorem blamesValue_checkCache (s : CacheSettings) : BlamesValue (checkCache s) := by
  unfold checkCache
  split
  · exact (blamesValue_checkPositive _ _).bind (blamesValue_checkPositive _ _)
  · exact blamesValue_ok

/-- The check of logging reports only values. -/
theorem blamesValue_checkLogging (s : LogSettings) : BlamesValue (checkLogging s) := by
  unfold checkLogging
  split
  · split
    · exact blamesValue_ok
    · exact blamesValue_error _ _
  · exact blamesValue_ok

/-- The check of metrics reports only values. -/
theorem blamesValue_checkMetrics (s : MetricsSettings) : BlamesValue (checkMetrics s) := by
  unfold checkMetrics
  split
  · exact blamesValue_error _ _
  · exact blamesValue_ok

/-- A fault of the configuration is reported as such if nothing is blank. -/
theorem validate_eq_access_iff {s : Settings} {fault : Fault} :
    s.validate = .error (.access fault) ↔
      Text.allBlank s.access.root = false ∧ Text.allBlank s.access.administrator = false ∧
        Text.allBlank s.access.anonymous = false ∧ s.serviceConfig.validate = .error fault := by
  have hsections : BlamesValue (do
      checkCache s.access.cache
      checkLogging s.telemetry.logging
      checkMetrics s.telemetry.metrics) :=
    (blamesValue_checkCache _).bind
      ((blamesValue_checkLogging _).bind (blamesValue_checkMetrics _))
  unfold validate
  rw [(blamesValue_checkGiven _ _).bind_eq_access_iff, checkGiven_eq_ok_iff,
    (blamesValue_checkGiven _ _).bind_eq_access_iff, checkGiven_eq_ok_iff,
    (blamesValue_checkGiven _ _).bind_eq_access_iff, checkGiven_eq_ok_iff, bind_eq_error]
  cases s.serviceConfig.validate with
  | error other => simp [Except.mapError]
  | ok => simp [Except.mapError, hsections.ne_access]

/-- Only an anonymous agent that administers is reported as a fault of the configuration. -/
theorem exists_validate_eq_access_iff {s : Settings} :
    (∃ fault, s.validate = .error (.access fault)) ↔
      Text.trimmed s.access.root ≠ "" ∧ Text.trimmed s.access.administrator ≠ "" ∧
        Text.trimmed s.access.anonymous ≠ "" ∧
        (s.access.anonymous = s.access.administrator ∨ s.access.anonymous ∈ s.access.admins) := by
  simp only [Ne, Text.trimmed_eq_empty_iff, Bool.not_eq_true, ← isAdministrator_serviceConfig_iff,
    validate_eq_access_iff, exists_and_left]
  apply and_congr_right
  intro hroot
  apply and_congr_right
  intro hadministrator
  apply and_congr_right
  intro hanonymous
  exact ServiceConfig.exists_validate_eq_error_iff hroot hadministrator hanonymous

/-! ## The start -/

variable {σ : Type} {s : Settings} {store : Store}
  {write : Identifier → Rdf.Graph → Except Fault σ}

/-- The start answers the service and what giving the root its rules came to. -/
theorem answer_bootstrap (h : s.serviceConfig.validate = .ok ()) :
    (s.bootstrap store write).answer =
      Service.rootRulesWritten store write s.serviceConfig >>= fun written =>
        .ok ((Service.ensureRootRules store write).after s.service, written) := by
  have hwritten := (Service.ensureRootRules_eq store write s.service).1
  have hrun : Inquiry.answer (ExceptT.lift ((Service.ensureRootRules store write).run s.service)) =
      .ok ((Service.ensureRootRules store write).answer s.service,
        (Service.ensureRootRules store write).after s.service) := rfl
  unfold bootstrap
  rw [h]
  simp only [Inquiry.answer_bind, hrun, ok_bind, hwritten]
  show _ = Service.rootRulesWritten store write s.service.config >>= _
  cases Service.rootRulesWritten store write s.service.config <;> rfl

/-- The start under accepted settings yields a service, or the fault of reading the root or of
writing to it. -/
theorem bootstrap_cases (h : s.serviceConfig.validate = .ok ()) :
    (∃ started, (s.bootstrap store write).answer = .ok started) ∨
      ∃ fault, (s.bootstrap store write).answer = .error (.failed fault) ∧
        s.access.initializeRoot = true ∧ Service.RootFault store write s.access.root fault := by
  rw [answer_bootstrap h]
  rcases Service.rootRulesWritten_cases store write s.serviceConfig with
    ⟨written, hwritten⟩ | ⟨fault, hfault, hinit, hroot⟩
  · left
    rw [hwritten]
    exact ⟨_, rfl⟩
  · right
    refine ⟨fault, ?_, hinit, hroot⟩
    rw [hfault, error_bind]

/-- If the settings of the cache pass, the service has a cache exactly if it is enabled. -/
theorem isSome_cache_service_iff (h : checkCache s.access.cache = .ok ()) :
    s.service.cache.isSome = true ↔ s.access.cache.enabled = true := by
  have hlimits : s.service.cache.isSome = !s.access.cache.limits.isDisabled := by
    unfold service Service.ofConfig serviceConfig
    cases s.access.cache.limits.isDisabled <;> rfl
  rw [hlimits, Bool.not_eq_true', isDisabled_limits_iff]
  constructor
  · exact And.left
  · intro henabled
    exact isDisabled_limits_iff.1 (checkCache_eq_ok_iff.1 h henabled)

/-- In a process in which nothing is installed, accepted settings of logging and metrics are set
up. -/
theorem init_fresh_telemetryConfig (hlogging : checkLogging s.telemetry.logging = .ok ())
    (hmetrics : checkMetrics s.telemetry.metrics = .ok ()) :
    (Installation.fresh.init s.telemetryConfig).1 = .ok () := by
  have hlog : ∃ log, Installation.fresh.initLogging s.telemetryConfig.logging =
      .ok { Installation.fresh with log } := by
    unfold Installation.initLogging telemetryConfig
    cases henabled : s.telemetry.logging.enabled with
    | false => exact ⟨none, rfl⟩
    | true =>
      obtain ⟨filter, hfilter⟩ := checkLogging_eq_ok_iff.1 hlogging henabled
      refine ⟨some filter, ?_⟩
      simp only [hfilter]
      rfl
  obtain ⟨log, hlog⟩ := hlog
  have hrecorder : ∃ recorder, Installation.initMetrics { Installation.fresh with log }
      s.telemetryConfig.metrics = .ok { Installation.fresh with log, recorder } := by
    unfold Installation.initMetrics telemetryConfig
    cases henabled : s.telemetry.metrics.enabled with
    | false => exact ⟨none, rfl⟩
    | true =>
      have hvalid : SocketAddress.isValid s.telemetry.metrics.address = true :=
        Option.isSome_iff_exists.2 (checkMetrics_eq_ok_iff.1 hmetrics henabled)
      refine ⟨some .empty, ?_⟩
      simp only [hvalid]
      rfl
  obtain ⟨recorder, hrecorder⟩ := hrecorder
  unfold Installation.init
  simp only [hlog, hrecorder]

/-- The check of settings accepts what the start can use: the configuration of the service, a cache
that can keep something if it is enabled, and a filter and an address if they are. Accepted settings
start: no step finds fault with them, the service has a cache if the settings say so, and logging
and metrics are set up in a process without any. What can stop the start is the root, which may not
be read or written to; no fault of a configuration comes of that over a store and a writer that
raise none (`Service.BlamesNoConfig`). The one fault that the check of settings leaves to the
configuration is an anonymous agent that administers. -/
theorem accepted_iff_starts (s : Settings) :
    (s.validate = .ok () ↔ s.serviceConfig.validate = .ok () ∧
      (s.access.cache.enabled = true → s.serviceConfig.cache.isDisabled = false) ∧
      (s.telemetry.logging.enabled = true →
        ∃ filter, readFilter s.telemetry.logging.level = .ok filter) ∧
      (s.telemetry.metrics.enabled = true →
        ∃ address, SocketAddress.ofString? s.telemetry.metrics.address = some address)) ∧
    (s.validate = .ok () →
      (∀ (σ : Type) (store : Store) (write : Identifier → Rdf.Graph → Except Fault σ),
        ((∃ started, (s.bootstrap store write).answer = .ok started) ∨
          ∃ fault, (s.bootstrap store write).answer = .error (.failed fault) ∧
            s.access.initializeRoot = true ∧ Service.RootFault store write s.access.root fault) ∧
        ∀ reason, Service.BlamesNoConfig store write s.access.root reason →
          (s.bootstrap store write).answer ≠ .error (.failed (.config reason))) ∧
      (s.service.cache.isSome = true ↔ s.access.cache.enabled = true) ∧
      (Installation.fresh.init s.telemetryConfig).1 = .ok ()) ∧
    ((∃ fault, s.validate = .error (.access fault)) ↔
      Text.trimmed s.access.root ≠ "" ∧ Text.trimmed s.access.administrator ≠ "" ∧
        Text.trimmed s.access.anonymous ≠ "" ∧
        (s.access.anonymous = s.access.administrator ∨ s.access.anonymous ∈ s.access.admins)) := by
  refine ⟨?_, ?_, exists_validate_eq_access_iff⟩
  · rw [validate_eq_ok_iff, checkCache_eq_ok_iff, checkLogging_eq_ok_iff, checkMetrics_eq_ok_iff]
    rfl
  · intro hvalid
    obtain ⟨hconfig, hcache, hlogging, hmetrics⟩ := validate_eq_ok_iff.1 hvalid
    refine ⟨?_, isSome_cache_service_iff hcache, init_fresh_telemetryConfig hlogging hmetrics⟩
    intro σ store write
    refine ⟨bootstrap_cases hconfig, ?_⟩
    intro reason hblames hanswer
    rcases @bootstrap_cases σ s store write hconfig with ⟨started, hok⟩ | ⟨fault, hfault, -, hroot⟩
    · rw [hanswer] at hok
      cases hok
    · rw [hanswer] at hfault
      obtain rfl : Fault.config reason = fault := by simpa using hfault
      exact hblames.not_rootFault hroot

/-- Settings with a log of its own level for the store, and with metrics. -/
def watchedSettings : Settings :=
  { default with
    telemetry := { TelemetrySettings.default with
      logging := { LogSettings.default with level := "info,store=debug" }
      metrics := ⟨true, "[::1]:9090"⟩ } }

/-- Settings in which the administrator is the anonymous agent. -/
def sharedSettings : Settings :=
  { default with
    access := { AccessSettings.default with anonymous := AccessSettings.default.administrator } }

/-- An empty store that cannot be written to. -/
def sealedStore : Overlay :=
  { Overlay.ofMemory ∅ with writeFaults := [("trellis:data/", "read-only")] }

/-- The settings are accepted and start over an empty memory, with a cache, a log and metrics. Over
a store that cannot be written to the start fails, though not for a fault of the configuration. -/
theorem watched_settings_start :
    watchedSettings.validate = .ok () ∧
      (∃ started, (watchedSettings.bootstrap (∅ : Memory).toStore
        (Memory.takeRules ∅)).answer = .ok started) ∧
      (∀ reason, (watchedSettings.bootstrap sealedStore.toStore sealedStore.writeAcl).answer ≠
        .error (.failed (.config reason))) ∧
      watchedSettings.service.cache.isSome = true ∧
      (Installation.fresh.init watchedSettings.telemetryConfig).1 = .ok () ∧
      ∃ fault, sharedSettings.validate = .error (.access fault) := by
  have hvalid : watchedSettings.validate = .ok () := by decide +kernel
  obtain ⟨-, hstart, -⟩ := accepted_iff_starts watchedSettings
  obtain ⟨hboot, hcache, htelemetry⟩ := hstart hvalid
  obtain ⟨-, -, hshared⟩ := accepted_iff_starts sharedSettings
  refine ⟨hvalid, ?_, ?_, hcache.2 rfl, htelemetry, ?_⟩
  · rcases (hboot Memory (∅ : Memory).toStore (Memory.takeRules ∅)).1 with
      hstarted | ⟨fault, -, -, hread | ⟨-, -, hwrite⟩⟩
    · exact hstarted
    · cases hread
    · cases hwrite
  · intro reason
    have hblames : Service.BlamesNoConfig sealedStore.toStore sealedStore.writeAcl
        watchedSettings.access.root reason :=
      { read := fun hread => by cases hread
        write := fun hwrite => by cases hwrite }
    exact (hboot Overlay sealedStore.toStore sealedStore.writeAcl).2 reason hblames
  · apply hshared.2
    decide +kernel

end Settings

end WebAccess
