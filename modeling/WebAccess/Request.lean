import WebAccess.Mode
import WebAccess.Observed

/-!
# Requests and decisions

Which modes does an HTTP request need, and what does it mean if some are missing? Reading methods
need `read`, posting needs `append`, everything else needs `write`; a request that addresses the
rules of a resource always needs `control`. Where modes are missing, an agent without
identification is asked to identify itself, and an identified agent is refused.
-/

set_option autoImplicit false

namespace WebAccess

/-- An HTTP method, as far as access control tells methods apart. -/
inductive Method where
  /-- `GET`. -/
  | get
  /-- `HEAD`. -/
  | head
  /-- `OPTIONS`. -/
  | options
  /-- `POST`. -/
  | post
  /-- Any other method, by its name. -/
  | other (name : String)
deriving DecidableEq, Repr

/-- True if the character may stand in the name of a method. -/
def Method.isTokenChar (c : Char) : Bool :=
  c.isAlphanum ||
    c ∈ ['!', '#', '$', '%', '&', '\x27', '*', '+', '-', '.', '^', '_', '\x60', '|', '~']

/-- The method with the given name; names are case-sensitive. -/
def Method.ofName? (name : String) : Option Method :=
  if name = "" ∨ ¬name.toList.all isTokenChar then none
  else if name = "GET" then some .get
  else if name = "HEAD" then some .head
  else if name = "OPTIONS" then some .options
  else if name = "POST" then some .post
  else some (.other name)

/-- What a request addresses. -/
inductive RequestTarget where
  /-- The resource itself. -/
  | resource
  /-- The rules of the resource. -/
  | acl
deriving DecidableEq, Repr

/-- The mode that a request needs. -/
def requiredMode (method : Method) : RequestTarget → Mode
  | .acl => .control
  | .resource =>
    match method with
    | .get | .head | .options => .read
    | .post => .append
    | .other _ => .write

/-- The modes that a request needs. -/
def requiredModes (method : Method) (target : RequestTarget) : ModeSet :=
  ModeSet.ofList [requiredMode method target]

/-- True if the granted modes cover a mode: writing covers appending. -/
def permits (granted : ModeSet) (mode : Mode) : Bool :=
  mode ∈ granted || (mode == .append && Mode.write ∈ granted)

/-- What becomes of a request. -/
inductive Decision where
  /-- Every required mode is granted. -/
  | granted
  /-- Modes are missing, and the agent has not identified itself. -/
  | unauthenticated (missing : ModeSet)
  /-- Modes are missing for an identified agent. -/
  | forbidden (missing : ModeSet)
deriving DecidableEq, Repr

namespace Decision

/-- Decides a request from the modes it needs and the modes granted. -/
def evaluate (required granted : ModeSet) (anonymous : Bool) : Decision :=
  let missing := ModeSet.ofPred fun m => required.contains m && !permits granted m
  if missing.isEmpty then .granted
  else if anonymous then .unauthenticated missing
  else .forbidden missing

/-- The modes that were required and not granted. -/
def missing : Decision → ModeSet
  | granted => ∅
  | unauthenticated missing => missing
  | forbidden missing => missing

/-- The decision without the missing modes. -/
def verdict : Decision → Verdict
  | granted => .granted
  | unauthenticated _ => .unauthenticated
  | forbidden _ => .forbidden

/-- True if the request is granted. -/
def isGranted (d : Decision) : Bool := d.verdict == .granted

/-- The name of a decision. -/
def name : Decision → String
  | granted => "Granted"
  | unauthenticated _ => "Unauthenticated"
  | forbidden _ => "Forbidden"

/-- The HTTP status of a decision. -/
def status : Decision → Nat
  | granted => 200
  | unauthenticated _ => 401
  | forbidden _ => 403

end Decision

end WebAccess
