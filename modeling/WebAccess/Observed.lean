import WebAccess.Fault

/-!
# Observed computations

What a call does besides answering: it reads resources, reports events and counts outcomes. An
`Observed` computation carries its value together with the list of these notes, in the order in
which they were taken; log lines, numbers of look-ups and metrics are all read off that list.
Sequencing appends the notes (`notes_bind`), and the value never depends on them (`value_bind`).
-/

set_option autoImplicit false

namespace WebAccess

/-- How much an event matters. -/
inductive Level where
  /-- A failure. -/
  | error
  /-- Something that deserves attention. -/
  | warn
  /-- A milestone. -/
  | info
  /-- A step of interest to developers. -/
  | debug
  /-- The finest detail. -/
  | trace
deriving DecidableEq, Repr

/-- The word for a level in a log line. -/
def Level.word : Level → String
  | error => "ERROR"
  | warn => "WARN"
  | info => "INFO"
  | debug => "DEBUG"
  | trace => "TRACE"

/-- The place of a level in the rising order of detail. -/
def Level.rank : Level → Nat
  | error => 1
  | warn => 2
  | info => 3
  | debug => 4
  | trace => 5

/-- An event worth a log line. -/
inductive Event where
  /-- No resource up to the root has rules for the request. -/
  | noRules
  /-- A rule admits the agent. -/
  | ruleMatches
  /-- The modes of all matching rules are collected. -/
  | modesResolved
  /-- A resource has rules, but none of them governs the request. -/
  | rulesNotApplicable
  /-- A resource is its own container. -/
  | selfContained
  /-- The containers lead back to a resource that was walked. -/
  | containmentCycle
  /-- The document of a group does not exist. -/
  | groupMissing
  /-- The agent of the session is an administrator. -/
  | administratorSession
  /-- The modes were narrowed to those of the delegate. -/
  | narrowedByDelegate
  /-- The answer was taken from the cache. -/
  | cachedModes
  /-- A request could not be checked. -/
  | checkFailed
  /-- The root has rules already. -/
  | rootRulesPresent
  /-- Rules were written for the root. -/
  | rootRulesWritten
  /-- The service has started. -/
  | serviceReady
  /-- Logging and metrics have started. -/
  | telemetryReady
deriving DecidableEq, Repr

namespace Event

/-- The level of an event. -/
def level : Event → Level
  | ruleMatches => .trace
  | noRules | modesResolved | rulesNotApplicable | groupMissing | administratorSession
  | narrowedByDelegate | cachedModes | rootRulesPresent => .debug
  | rootRulesWritten | serviceReady | telemetryReady => .info
  | selfContained | containmentCycle | checkFailed => .warn

/-- The message of an event. -/
def message : Event → String
  | noRules => "no ACL found up to the root"
  | ruleMatches => "authorization matches agent"
  | modesResolved => "resolved access modes"
  | rulesNotApplicable => "ACL has no applicable authorizations"
  | selfContained => "resource is its own container, stopping walk"
  | containmentCycle => "containment cycle, stopping walk"
  | groupMissing => "group document not found"
  | administratorSession => "administrator session"
  | narrowedByDelegate => "narrowed by delegate"
  | cachedModes => "returning cached modes"
  | checkFailed => "access check failed"
  | rootRulesPresent => "root ACL already present"
  | rootRulesWritten => "initialized root ACL"
  | serviceReady => "webac service ready"
  | telemetryReady => "telemetry initialized"

/-- The log line of an event: its level and its message. -/
def line (e : Event) : String :=
  e.level.word ++ " " ++ e.message

end Event

/-- How a request was decided, without the modes it lacked. -/
inductive Verdict where
  /-- Every required mode is granted. -/
  | granted
  /-- Denied to an agent without identification. -/
  | unauthenticated
  /-- Denied to an identified agent. -/
  | forbidden
deriving DecidableEq, Repr

/-- The word for a verdict in metrics. -/
def Verdict.word : Verdict → String
  | granted => "granted"
  | unauthenticated => "unauthenticated"
  | forbidden => "forbidden"

/-- Something that a call did besides answering. -/
inductive Note where
  /-- The store was asked for a resource, and answered or failed. -/
  | read (identifier : Identifier) (answered : Bool)
  /-- An event was reported. -/
  | event (e : Event)
  /-- Modes were resolved, with rules found or not. -/
  | resolution (found : Bool)
  /-- The cache was asked, and had the answer or not. -/
  | cacheLookup (hit : Bool)
  /-- A request was decided. -/
  | decision (v : Verdict)
deriving DecidableEq, Repr

/-- A value and the notes taken on the way to it. -/
structure Observed (α : Type) where
  /-- The value. -/
  value : α
  /-- The notes, oldest first. -/
  notes : List Note

namespace Observed

variable {α β : Type}

instance : Monad Observed where
  pure a := ⟨a, []⟩
  bind x f := ⟨(f x.value).value, x.notes ++ (f x.value).notes⟩

/-- Takes one note. -/
def note (n : Note) : Observed Unit := ⟨(), [n]⟩

/-- The value of two computations in sequence is that of the second. -/
@[simp] theorem value_bind (x : Observed α) (f : α → Observed β) :
    (x >>= f).value = (f x.value).value := rfl

/-- The notes of two computations in sequence are those of the first, then those of the second. -/
@[simp] theorem notes_bind (x : Observed α) (f : α → Observed β) :
    (x >>= f).notes = x.notes ++ (f x.value).notes := rfl

/-- Observed values are equal if their values and their notes are. -/
theorem ext {x y : Observed α} (hv : x.value = y.value) (hn : x.notes = y.notes) : x = y := by
  cases x
  cases y
  cases hv
  cases hn
  rfl

instance : LawfulMonad Observed :=
  LawfulMonad.mk' Observed (fun x => ext rfl (List.append_nil x.notes)) (fun _ _ => ext rfl rfl)
    (fun _ _ _ => ext rfl (List.append_assoc ..))

end Observed

/-- Why a call gives no answer. -/
inductive Stop where
  /-- A fault, which the caller sees. -/
  | failed (fault : Fault)
  /-- The walk up the containers has not ended within the horizon of the store. -/
  | unfinished
deriving DecidableEq, Repr

/-- An observed computation that may stop without an answer. -/
abbrev Inquiry := ExceptT Stop Observed

namespace Inquiry

variable {α : Type}

/-- Takes one note. -/
def note (n : Note) : Inquiry Unit :=
  ExceptT.lift (Observed.note n)

/-- Reports an event. -/
def event (e : Event) : Inquiry Unit :=
  note (.event e)

/-- Stops with a fault. -/
def fail (f : Fault) : Inquiry α :=
  throw (.failed f)

end Inquiry

end WebAccess
