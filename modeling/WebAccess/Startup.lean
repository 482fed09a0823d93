import WebAccess.Service
import WebAccess.Settings.Validation

/-!
# Starting up

From settings to a running service: build the service they describe, give the root its rules if the
settings say so, and set up logging and metrics.
-/

set_option autoImplicit false

namespace WebAccess

/-- Why the start failed. -/
inductive StartupError where
  /-- The settings cannot be loaded or used. -/
  | settings (e : Settings.Error)
  /-- Logging or metrics could not be set up. -/
  | telemetry (e : Telemetry.Error)
  /-- The service cannot work, or its root could not be given rules. -/
  | access (fault : Fault)
deriving DecidableEq, Repr

/-- The message of the error behind a failed start. -/
def StartupError.message? : StartupError → Option String
  | .settings e => e.message?
  | .telemetry e => some e.message
  | .access fault => some fault.message

/-- The service that settings describe. -/
def Settings.service (s : Settings) : Service :=
  Service.ofConfig s.serviceConfig

/-- Builds the service that settings describe and gives the root its rules if they say so. The
answer is the service, with what writing the rules yielded if they were written. -/
def Settings.bootstrap {σ : Type} (s : Settings) (store : Store)
    (write : Identifier → Rdf.Graph → Except Fault σ) : Inquiry (Service × Option σ) :=
  match s.serviceConfig.validate with
  | .error fault => Inquiry.fail fault
  | .ok () => do
    let (answer, service) ← ExceptT.lift ((Service.ensureRootRules store write).run s.service)
    let written ← answer
    Inquiry.event .serviceReady
    return (service, written)

end WebAccess
