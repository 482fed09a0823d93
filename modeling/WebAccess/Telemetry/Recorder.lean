import WebAccess.Duration
import WebAccess.Observed

/-!
# Metrics

A recorder counts outcomes: resolutions by whether rules were found, with their total duration,
look-ups in the cache by result, and decisions by verdict. A counter exists from the first time it
is used, and what is shown of a recorder are the counters that exist, in sorted lines.
-/

set_option autoImplicit false

namespace WebAccess.Telemetry

/-- What has been counted. -/
structure Recorder where
  /-- Resolutions that found rules. -/
  found : Nat
  /-- Resolutions that found none. -/
  notFound : Nat
  /-- How long all resolutions took. -/
  duration : Duration
  /-- Look-ups that found an outcome. -/
  hits : Nat
  /-- Look-ups that found none. -/
  misses : Nat
  /-- Requests granted. -/
  granted : Nat
  /-- Requests denied to agents without identification. -/
  unauthenticated : Nat
  /-- Requests denied to identified agents. -/
  forbidden : Nat
deriving DecidableEq, Repr

namespace Recorder

/-- The recorder that has counted nothing. -/
def empty : Recorder := ⟨0, 0, 0, 0, 0, 0, 0, 0⟩

/-- Counts a resolution. -/
def resolution (r : Recorder) (found : Bool) (duration : Duration) : Recorder :=
  let r := { r with duration := r.duration + duration }
  if found then { r with found := r.found + 1 } else { r with notFound := r.notFound + 1 }

/-- Counts a look-up in the cache. -/
def cacheLookup (r : Recorder) (hit : Bool) : Recorder :=
  if hit then { r with hits := r.hits + 1 } else { r with misses := r.misses + 1 }

/-- Counts a decision. -/
def decision (r : Recorder) : Verdict → Recorder
  | .granted => { r with granted := r.granted + 1 }
  | .unauthenticated => { r with unauthenticated := r.unauthenticated + 1 }
  | .forbidden => { r with forbidden := r.forbidden + 1 }

/-- Counts what a note is about; its duration is not part of the note. -/
def note (r : Recorder) : Note → Recorder
  | .resolution found => r.resolution found 0
  | .cacheLookup hit => r.cacheLookup hit
  | .decision v => r.decision v
  | .read .. | .event _ => r

/-- Counts what a list of notes is about. -/
def notes (r : Recorder) (ns : List Note) : Recorder :=
  ns.foldl note r

/-- The number of resolutions. -/
def resolutions (r : Recorder) : Nat := r.found + r.notFound

end Recorder

/-- One metric: a name, what it is about, and its type. -/
structure Metric where
  /-- The name. -/
  name : String
  /-- What it is about. -/
  help : String
  /-- The type of metric. -/
  type : String

namespace Metric

/-- Resolutions by whether rules were found. -/
def resolutions : Metric :=
  ⟨"trellis_webac_resolutions_total", "ACL hierarchy resolutions by whether an ACL was found",
    "counter"⟩

/-- How long resolutions took. -/
def durations : Metric :=
  ⟨"trellis_webac_resolution_duration_seconds", "ACL hierarchy resolution duration in seconds",
    "summary"⟩

/-- Look-ups in the cache by result. -/
def cacheLookups : Metric :=
  ⟨"trellis_webac_cache_lookups_total", "Access mode cache lookups by result", "counter"⟩

/-- Decisions by verdict. -/
def decisions : Metric :=
  ⟨"trellis_webac_decisions_total", "Request access decisions by outcome", "counter"⟩

/-- A line with the value of the metric for one value of a label; none if nothing was counted. -/
def sample (m : Metric) (label value : String) (n : Nat) : List String :=
  if n = 0 then []
  else [m.name ++ "\x7b" ++ label ++ "=\"" ++ value ++ "\"\x7d " ++ toString n]

/-- The lines that describe the metric. -/
def description (m : Metric) : List String :=
  ["# HELP " ++ m.name ++ " " ++ m.help, "# TYPE " ++ m.name ++ " " ++ m.type]

end Metric

namespace Recorder

/-- The lines with the counted values of each metric. -/
def samples (r : Recorder) : List (Metric × List String) :=
  [(.cacheLookups,
      Metric.cacheLookups.sample "result" "hit" r.hits ++
        Metric.cacheLookups.sample "result" "miss" r.misses),
    (.decisions,
      Metric.decisions.sample "decision" "forbidden" r.forbidden ++
        Metric.decisions.sample "decision" "granted" r.granted ++
        Metric.decisions.sample "decision" "unauthenticated" r.unauthenticated),
    (.durations,
      if r.resolutions = 0 then []
      else [Metric.durations.name ++ "_count " ++ toString r.resolutions]),
    (.resolutions,
      Metric.resolutions.sample "found" "false" r.notFound ++
        Metric.resolutions.sample "found" "true" r.found)]

/-- Lines in sorted order. -/
def sortLines (lines : List String) : List String :=
  lines.mergeSort fun a b => decide (a ≤ b)

/-- The counted values, in sorted lines. -/
def summary (r : Recorder) : List String :=
  sortLines (r.samples.flatMap (·.2))

/-- The counted values with the descriptions of their metrics and the total duration, in sorted
lines. -/
def render (r : Recorder) : List String :=
  let total :=
    if r.resolutions = 0 then []
    else [Metric.durations.name ++ "_sum " ++ Duration.decimal 9 r.duration]
  sortLines <| total ++ r.samples.flatMap fun (metric, lines) =>
    if lines.isEmpty then [] else metric.description ++ lines

end Recorder

end WebAccess.Telemetry
