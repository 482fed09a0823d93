import WebAccess.Telemetry.Config
import WebAccess.Telemetry.Filter
import WebAccess.Telemetry.Recorder
import WebAccess.Telemetry.SocketAddress

/-!
# Setting up logging and metrics

A process has at most one log and at most one recorder. Each is installed once and stays;
installing it again is an error, while a configuration that is switched off changes nothing. What
is counted before a recorder is installed is lost.
-/

set_option autoImplicit false

namespace WebAccess.Telemetry

/-- Why logging or metrics could not be set up. -/
inductive Error where
  /-- The recorder could not be installed. -/
  | metrics (reason : String)
  /-- The log could not be installed. -/
  | logging (reason : String)
  /-- The address is no socket address. -/
  | address (reason : String)
deriving DecidableEq, Repr

/-- The message of an error. -/
def Error.message : Error → String
  | .metrics reason => "Failed to initialize metrics: " ++ reason
  | .logging reason => "Failed to initialize logging: " ++ reason
  | .address reason => "Invalid address: " ++ reason

/-- Reads the filter of a log. -/
def readFilter (level : String) : Except Error Filter :=
  match Filter.read level with
  | .ok filter => .ok filter
  | .error e => .error (.logging ("Invalid log level: " ++ e.message))

/-- What is installed in a process, and what it has logged of its own start. -/
structure Installation where
  /-- The filter of the log, if there is one. -/
  log : Option Filter
  /-- The recorder, if there is one. -/
  recorder : Option Recorder
  /-- How many times the log has reported a complete start. -/
  starts : Nat
deriving DecidableEq, Repr

namespace Installation

/-- The process in which nothing is installed. -/
def fresh : Installation := ⟨none, none, 0⟩

/-- Installs the log. -/
def initLogging (p : Installation) (config : LogConfig) : Except Error Installation :=
  if !config.enabled then .ok p
  else
    match readFilter config.level with
    | .error e => .error e
    | .ok filter =>
      match p.log with
      | some _ => .error (.logging "a global default trace dispatcher has already been set")
      | none => .ok { p with log := some filter }

/-- Installs the recorder. -/
def initMetrics (p : Installation) (config : MetricsConfig) : Except Error Installation :=
  if !config.enabled then .ok p
  else if !SocketAddress.isValid config.address then
    .error (.address (config.address ++ ": invalid socket address syntax"))
  else
    match p.recorder with
    | some _ =>
      .error (.metrics ("failed to install exporter as global recorder: attempted to set " ++
        "a recorder after the metrics system was already initialized"))
    | none => .ok { p with recorder := some .empty }

/-- The target of the events of the start. -/
def startTarget : String := "trellis_telemetry"

/-- Reports a complete start to the log. -/
def reportStart (p : Installation) : Installation :=
  if p.log.any fun filter => filter.passes startTarget Event.telemetryReady.level then
    { p with starts := p.starts + 1 }
  else p

/-- Installs the log, then the recorder, then reports the start. The process is returned with the
answer, since a log that was installed stays when the recorder cannot be. -/
def init (p : Installation) (config : Config) : Except Error Unit × Installation :=
  match p.initLogging config.logging with
  | .error e => (.error e, p)
  | .ok p =>
    match p.initMetrics config.metrics with
    | .error e => (.error e, p)
    | .ok p => (.ok (), p.reportStart)

/-- Counts something if there is a recorder. -/
def record (p : Installation) (f : Recorder → Recorder) : Installation :=
  { p with recorder := p.recorder.map f }

end Installation

end WebAccess.Telemetry
