import WebAccess.Identifier
import WebAccess.Mode

/-!
# Sessions and outcomes

Who asks for access, and what resolving it yields. A session may be delegated: its agent then acts
on behalf of another agent, and holds only the modes that both hold.
-/

set_option autoImplicit false

namespace WebAccess

/-- The agent of a request, and the agent on whose behalf it acts. -/
structure Session where
  /-- The agent that makes the request. -/
  agent : String
  /-- The agent that delegated the request. -/
  delegate : Option String
deriving DecidableEq, Repr

namespace Session

/-- The session of an agent that acts for itself. -/
def new (agent : String) : Session := ⟨agent, none⟩

/-- The session of a request without identification. -/
def anonymous : Session := new Vocab.anonymousAgent.iri

/-- The session of the built-in administrator. -/
def administrator : Session := new Vocab.administratorAgent.iri

/-- The session in which the agent acts on behalf of `delegate`. -/
def delegatedBy (s : Session) (delegate : String) : Session := { s with delegate := some delegate }

end Session

/-- What resolving access yields: the modes, and the resource whose rules gave them. -/
structure Outcome where
  /-- The resource whose rules were applied; none if no rules were found. -/
  effectiveAcl : Option Identifier
  /-- The modes granted. -/
  modes : ModeSet
deriving DecidableEq, Repr

namespace Outcome

/-- No rules were found, so nothing is granted. -/
def denied : Outcome := ⟨none, ∅⟩

/-- Every mode is granted without looking at rules. -/
def unrestricted : Outcome := ⟨none, ModeSet.all⟩

/-- The outcome narrowed to the modes in `other`. -/
def restrict (o : Outcome) (other : ModeSet) : Outcome := { o with modes := o.modes ∩ other }

end Outcome

end WebAccess
