import Mathlib.Data.List.Induction
import WebAccess.Telemetry.Installation

/-!
# What failed setups leave behind

A process sets up its log and its recorder any number of times, and each of the two can be installed
once. A setup that fails has installed no recorder. It may have installed its log, since that comes
first and stays when the recorder cannot be installed. What is installed after any number of setups
is told by the calls alone (`Installation.isSome_log_run_iff`,
`Installation.isSome_recorder_run_iff`): a log from the first call on that asks for one with a valid
filter, failed or not, and a recorder from the first successful call on that asks for one.

Main statement: `Installation.failed_init_leaves_log_at_most`.
-/

set_option autoImplicit false

namespace WebAccess.Telemetry

/-- The configuration wants a log, and this is its filter. -/
def LogConfig.Asks (config : LogConfig) (filter : Filter) : Prop :=
  config.enabled = true ∧ readFilter config.level = .ok filter

namespace Installation

variable {p q : Installation} {config : Config} {filter : Filter}

/-! ## One setup -/

/-- Logging is set up exactly if none is wanted, which changes nothing, or if the filter can be read
and there is no log yet, which installs one. -/
theorem initLogging_eq_ok_iff {config : LogConfig} :
    p.initLogging config = .ok q ↔
      config.enabled = false ∧ q = p ∨
        ∃ filter, config.Asks filter ∧ p.log = none ∧ q = { p with log := some filter } := by
  unfold initLogging LogConfig.Asks
  cases henabled : config.enabled with
  | false => simpa using @eq_comm _ p q
  | true =>
    cases hfilter : readFilter config.level with
    | error e => simp
    | ok filter =>
      cases hlog : p.log with
      | some _ => simp
      | none => simpa using @eq_comm _ { p with log := some filter } q

/-- Metrics are set up exactly if none are wanted, which changes nothing, or if the address is valid
and there is no recorder yet, which installs an empty one. -/
theorem initMetrics_eq_ok_iff {config : MetricsConfig} :
    p.initMetrics config = .ok q ↔
      config.enabled = false ∧ q = p ∨
        (config.enabled = true ∧ SocketAddress.isValid config.address = true) ∧
          p.recorder = none ∧ q = { p with recorder := some .empty } := by
  unfold initMetrics
  cases henabled : config.enabled with
  | false => simpa using @eq_comm _ p q
  | true =>
    cases hvalid : SocketAddress.isValid config.address with
    | false => simp
    | true =>
      cases hrecorder : p.recorder with
      | some _ => simp
      | none => simpa using @eq_comm _ { p with recorder := some .empty } q

/-- A setup fails before the log is installed, or behind it, or installs both. -/
theorem init_cases (p : Installation) (config : Config) :
    (∃ e, p.initLogging config.logging = .error e ∧ p.init config = (.error e, p)) ∨
      ∃ q, p.initLogging config.logging = .ok q ∧
        ((∃ e, q.initMetrics config.metrics = .error e ∧ p.init config = (.error e, q)) ∨
          ∃ r, q.initMetrics config.metrics = .ok r ∧ p.init config = (.ok (), r.reportStart)) := by
  unfold init
  cases hlog : p.initLogging config.logging with
  | error e => exact .inl ⟨e, rfl, rfl⟩
  | ok q =>
    refine .inr ⟨q, rfl, ?_⟩
    cases hrecorder : q.initMetrics config.metrics with
    | error e => exact .inl ⟨e, rfl, by simp [hrecorder]⟩
    | ok r => exact .inr ⟨r, rfl, by simp [hrecorder]⟩

/-- Reporting the start leaves the log that is installed. -/
theorem log_reportStart : p.reportStart.log = p.log := by
  unfold reportStart
  split <;> rfl

/-- Reporting the start leaves the recorder that is installed. -/
theorem recorder_reportStart : p.reportStart.recorder = p.recorder := by
  unfold reportStart
  split <;> rfl

/-- Setting up logging leaves the recorder. -/
theorem recorder_of_initLogging {config : LogConfig} (h : p.initLogging config = .ok q) :
    q.recorder = p.recorder := by
  rcases initLogging_eq_ok_iff.1 h with ⟨-, rfl⟩ | ⟨filter, -, -, rfl⟩ <;> rfl

/-- Setting up metrics leaves the log. -/
theorem log_of_initMetrics {config : MetricsConfig} (h : p.initMetrics config = .ok q) :
    q.log = p.log := by
  rcases initMetrics_eq_ok_iff.1 h with ⟨-, rfl⟩ | ⟨-, -, rfl⟩ <;> rfl

/-- The log can be installed, or none is wanted. -/
def TakesLog (p : Installation) (config : LogConfig) : Prop :=
  config.enabled = true → (∃ filter, readFilter config.level = .ok filter) ∧ p.log = none

/-- The recorder can be installed, or none is wanted. -/
def TakesRecorder (p : Installation) (config : MetricsConfig) : Prop :=
  config.enabled = true → SocketAddress.isValid config.address = true ∧ p.recorder = none

/-- Logging can be set up exactly if the process takes a log. -/
theorem exists_initLogging_iff {config : LogConfig} :
    (∃ q, p.initLogging config = .ok q) ↔ p.TakesLog config := by
  constructor
  · rintro ⟨q, hq⟩ henabled
    rcases initLogging_eq_ok_iff.1 hq with ⟨hdisabled, -⟩ | ⟨filter, hasks, hnone, -⟩
    · rw [henabled] at hdisabled
      cases hdisabled
    · exact ⟨⟨filter, hasks.2⟩, hnone⟩
  · intro htakes
    cases henabled : config.enabled with
    | false => exact ⟨p, initLogging_eq_ok_iff.2 (.inl ⟨henabled, rfl⟩)⟩
    | true =>
      obtain ⟨⟨filter, hfilter⟩, hnone⟩ := htakes henabled
      exact ⟨_, initLogging_eq_ok_iff.2 (.inr ⟨filter, ⟨henabled, hfilter⟩, hnone, rfl⟩)⟩

/-- Metrics can be set up exactly if the process takes a recorder. -/
theorem exists_initMetrics_iff {config : MetricsConfig} :
    (∃ q, p.initMetrics config = .ok q) ↔ p.TakesRecorder config := by
  simp only [initMetrics_eq_ok_iff, TakesRecorder]
  cases config.enabled <;> simp

/-- A setup succeeds exactly if the process takes both the log and the recorder. -/
theorem init_eq_ok_iff :
    (p.init config).1 = .ok () ↔ p.TakesLog config.logging ∧ p.TakesRecorder config.metrics := by
  rcases init_cases p config with ⟨e, hlog, hinit⟩ | ⟨q, hlog, hrest⟩
  · have hnot : ¬p.TakesLog config.logging := by
      rw [← exists_initLogging_iff, hlog]
      simp
    simp [hinit, hnot]
  · have htakes : p.TakesLog config.logging := exists_initLogging_iff.1 ⟨q, hlog⟩
    have hsame : p.TakesRecorder config.metrics ↔ q.TakesRecorder config.metrics := by
      rw [TakesRecorder, TakesRecorder, recorder_of_initLogging hlog]
    rw [hsame, ← exists_initMetrics_iff]
    rcases hrest with ⟨e, hrecorder, hinit⟩ | ⟨r, hrecorder, hinit⟩
    · simp [hinit, hrecorder]
    · simp [hinit, hrecorder, htakes]

/-! ## What a failed setup leaves -/

/-- The setup fails behind the log, which it has installed with this filter. -/
structure LeavesLog (p : Installation) (config : Config) (filter : Filter) : Prop where
  /-- A log with this filter is wanted. -/
  asks : config.logging.Asks filter
  /-- There was none before. -/
  first : p.log = none
  /-- The recorder is wanted and cannot be installed. -/
  refused : ¬p.TakesRecorder config.metrics

/-- A setup that leaves its log behind fails and changes nothing else. -/
theorem LeavesLog.init_eq (h : p.LeavesLog config filter) :
    ∃ e, p.init config = (.error e, { p with log := some filter }) := by
  have hlog : p.initLogging config.logging = .ok { p with log := some filter } :=
    initLogging_eq_ok_iff.2 (.inr ⟨filter, h.asks, h.first, rfl⟩)
  rcases init_cases p config with ⟨e, herror, -⟩ | ⟨q, hq, hrest⟩
  · rw [hlog] at herror
    cases herror
  · obtain rfl := Except.ok.inj (hlog.symm.trans hq)
    rcases hrest with ⟨e, -, hinit⟩ | ⟨r, hr, -⟩
    · exact ⟨e, hinit⟩
    · exact absurd (exists_initMetrics_iff.1 ⟨r, hr⟩) h.refused

/-- A setup that fails changes nothing, or leaves its log. -/
theorem init_of_error {e : Error} (h : (p.init config).1 = .error e) :
    (p.init config).2 = p ∨
      ∃ filter, p.LeavesLog config filter ∧ (p.init config).2 = { p with log := some filter } := by
  rcases init_cases p config with ⟨e', -, hinit⟩ | ⟨q, hlog, hrest⟩
  · left
    rw [hinit]
  · rcases hrest with ⟨e', hrecorder, hinit⟩ | ⟨r, -, hinit⟩
    · rcases initLogging_eq_ok_iff.1 hlog with ⟨-, rfl⟩ | ⟨filter, hasks, hnone, rfl⟩
      · left
        rw [hinit]
      · right
        refine ⟨filter, ⟨hasks, hnone, ?_⟩, by rw [hinit]⟩
        intro htakes
        obtain ⟨r, hr⟩ := exists_initMetrics_iff.2 (show TakesRecorder
          { p with log := some filter } config.metrics from htakes)
        rw [hrecorder] at hr
        cases hr
    · rw [hinit] at h
      cases h

/-- After a setup there is a log exactly if there was one or the configuration asks for one. -/
theorem isSome_log_init_iff :
    (p.init config).2.log.isSome = true ↔
      p.log.isSome = true ∨ ∃ filter, config.logging.Asks filter := by
  rcases init_cases p config with ⟨e, hlog, hinit⟩ | ⟨q, hlog, hrest⟩
  · -- A log that is asked for is refused where there is one.
    rw [hinit, or_iff_left_of_imp]
    rintro ⟨filter, hasks⟩
    rw [Option.isSome_iff_ne_none]
    intro hnone
    have hq := initLogging_eq_ok_iff.2 (.inr ⟨filter, hasks, hnone, rfl⟩)
    rw [hlog] at hq
    cases hq
  · have hafter : (p.init config).2.log = q.log := by
      rcases hrest with ⟨e, -, hinit⟩ | ⟨r, hrecorder, hinit⟩
      · rw [hinit]
      · rw [hinit, log_reportStart, log_of_initMetrics hrecorder]
    rw [hafter]
    rcases initLogging_eq_ok_iff.1 hlog with ⟨hdisabled, rfl⟩ | ⟨filter, hasks, -, rfl⟩
    · simp [LogConfig.Asks, hdisabled]
    · exact iff_of_true rfl (.inr ⟨filter, hasks⟩)

/-- After a setup there is a recorder exactly if there was one or the setup succeeded with metrics
enabled. -/
theorem isSome_recorder_init_iff :
    (p.init config).2.recorder.isSome = true ↔
      p.recorder.isSome = true ∨
        (p.init config).1 = .ok () ∧ config.metrics.enabled = true := by
  rcases init_cases p config with ⟨e, -, hinit⟩ | ⟨q, hlog, hrest⟩
  · simp [hinit]
  · rw [← recorder_of_initLogging hlog]
    rcases hrest with ⟨e, -, hinit⟩ | ⟨r, hrecorder, hinit⟩
    · simp [hinit]
    · rw [hinit, recorder_reportStart]
      rcases initMetrics_eq_ok_iff.1 hrecorder with ⟨hdisabled, rfl⟩ | ⟨hwanted, -, rfl⟩
      · simp [hdisabled]
      · exact iff_of_true rfl (.inr ⟨rfl, hwanted.1⟩)

/-! ## One setup after the other -/

/-- What a number of setups leave installed, whatever they answer. -/
def run (p : Installation) (configs : List Config) : Installation :=
  configs.foldl (fun p config => (p.init config).2) p

/-- The setup succeeds after those before it, in a process that began with nothing installed. -/
def Succeeds (before : List Config) (config : Config) : Prop :=
  ((fresh.run before).init config).1 = .ok ()

variable {configs before : List Config}

/-- A further setup starts from what the setups before have installed. -/
theorem run_concat (p : Installation) (configs : List Config) (config : Config) :
    p.run (configs ++ [config]) = ((p.run configs).init config).2 := by
  rw [run, List.foldl_append]
  rfl

/-- A log is installed from the first call on that asks for one with a valid filter. -/
theorem isSome_log_run_iff :
    (fresh.run configs).log.isSome = true ↔
      ∃ config ∈ configs, ∃ filter, config.logging.Asks filter := by
  induction configs using List.reverseRecOn with
  | nil => simp [run, fresh]
  | append_singleton configs config ih =>
    rw [run_concat, isSome_log_init_iff, ih]
    simp [or_and_right, exists_or]

/-- A recorder is installed from the first successful call on that asks for one. -/
theorem isSome_recorder_run_iff :
    (fresh.run configs).recorder.isSome = true ↔
      ∃ before config after, configs = before ++ config :: after ∧ Succeeds before config ∧
        config.metrics.enabled = true := by
  induction configs using List.reverseRecOn with
  | nil => simp [run, fresh]
  | append_singleton configs config ih =>
    rw [run_concat, isSome_recorder_init_iff, ih]
    constructor
    · rintro (⟨before, earlier, after, rfl, hearlier⟩ | hlast)
      · exact ⟨before, earlier, after ++ [config], by simp, hearlier⟩
      · exact ⟨configs, config, [], rfl, hlast⟩
    · rintro ⟨before, earlier, after, hconfigs, hearlier⟩
      -- The setup that is found is the last one, or one of those that the induction is about.
      rcases List.eq_nil_or_concat after with rfl | ⟨after, last, rfl⟩
      · obtain ⟨rfl, hlast⟩ := List.append_inj' hconfigs rfl
        obtain rfl := List.singleton_inj.1 hlast
        exact .inr hearlier
      · have hcut : configs ++ [config] = (before ++ earlier :: after) ++ [last] := by
          rw [hconfigs]
          simp
        obtain ⟨rfl, -⟩ := List.append_inj' hcut rfl
        exact .inl ⟨before, earlier, after, rfl, hearlier⟩

/-- A setup that fails leaves installed what was, with one addition: if it wants a log with a valid
filter, is the first to do so, and wants a recorder that cannot be installed, its log stays. A setup
succeeds exactly if no setup before it, failed or not, has asked for a log with a valid filter, no
successful one has asked for a recorder, each as far as it wants one itself, and its own filter and
address are valid. -/
theorem failed_init_leaves_log_at_most (before : List Config) (config : Config) :
    let p := fresh.run before
    (∀ e, (p.init config).1 = .error e →
      (p.init config).2 = p ∨
        ∃ filter, p.LeavesLog config filter ∧
          (p.init config).2 = { p with log := some filter }) ∧
      (∀ filter, p.LeavesLog config filter →
        ∃ e, p.init config = (.error e, { p with log := some filter })) ∧
      (Succeeds before config ↔
        (config.logging.enabled = true →
          (∃ filter, readFilter config.logging.level = .ok filter) ∧
            ∀ earlier ∈ before, ∀ filter, ¬earlier.logging.Asks filter) ∧
        (config.metrics.enabled = true →
          SocketAddress.isValid config.metrics.address = true ∧
            ∀ front earlier back, before = front ++ earlier :: back → Succeeds front earlier →
              earlier.metrics.enabled = false)) := by
  intro p
  refine ⟨fun e => init_of_error, fun filter => LeavesLog.init_eq, ?_⟩
  have hlog : p.log = none ↔ ∀ earlier ∈ before, ∀ filter, ¬earlier.logging.Asks filter := by
    rw [← Option.not_isSome_iff_eq_none, isSome_log_run_iff]
    simp
  have hrecorder : p.recorder = none ↔ ∀ front earlier back, before = front ++ earlier :: back →
      Succeeds front earlier → earlier.metrics.enabled = false := by
    rw [← Option.not_isSome_iff_eq_none, isSome_recorder_run_iff]
    simp
  rw [Succeeds, init_eq_ok_iff, TakesLog, TakesRecorder, hlog, hrecorder]

/-- Logging as by default, and metrics at an address that is none. -/
def badAddress : Config := Config.default.withMetricsAt "not-an-address"

/-- The same with an address. -/
def goodAddress : Config := Config.default.withMetricsAt "127.0.0.1:9090"

/-- A setup with a bad address leaves its log, and the setup that follows succeeds if it wants no
log. -/
theorem log_of_bad_address_stays :
    (∃ filter, fresh.LeavesLog badAddress filter ∧
        (fresh.init badAddress).2 = { fresh with log := some filter }) ∧
      Succeeds [badAddress] { goodAddress with logging.enabled := false } := by
  have hfails : (fresh.init badAddress).1 =
      .error (.address "not-an-address: invalid socket address syntax") := by decide +kernel
  have hnever : ¬Succeeds [] badAddress := by
    intro hsucceeds
    cases hfails.symm.trans hsucceeds
  constructor
  · rcases (failed_init_leaves_log_at_most [] badAddress).1 _ hfails with hsame | hleaves
    · exact absurd hsame (by decide +kernel)
    · exact hleaves
  · apply (failed_init_leaves_log_at_most [badAddress] _).2.2.2
    refine ⟨nofun, fun _ => ⟨by decide +kernel, ?_⟩⟩
    intro front earlier back hbefore hsucceeds
    have hone : front = [] ∧ earlier = badAddress := by
      cases front with
      | nil => exact ⟨rfl, (List.cons.inj hbefore).1.symm⟩
      | cons _ front => simp at hbefore
    obtain ⟨rfl, rfl⟩ := hone
    exact absurd hsucceeds hnever

/-- A setup with a bad address fails and installs its log, so the corrected setup fails as well,
which succeeds in a process where it comes first. -/
theorem bad_address_spoils_next_setup :
    (fresh.init badAddress).1 =
        .error (.address "not-an-address: invalid socket address syntax") ∧
      (fresh.init badAddress).2 ≠ fresh ∧
      ((fresh.run [badAddress]).init goodAddress).1 =
        .error (.logging "a global default trace dispatcher has already been set") ∧
      (fresh.init goodAddress).1 = .ok () := by
  decide +kernel

end Installation

end WebAccess.Telemetry
