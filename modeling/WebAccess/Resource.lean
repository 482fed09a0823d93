import WebAccess.Identifier
import WebAccess.Rdf.Graph

/-!
# Resources

What access control sees of a stored resource: its own identifier, the content that its users
manage, and its access-control graph. A resource without such a graph inherits its rules, while an
empty graph is a graph.
-/

set_option autoImplicit false

namespace WebAccess

/-- A stored resource. -/
structure Resource where
  /-- The identifier that the resource gives itself. -/
  identifier : Identifier
  /-- The content that its users manage. -/
  content : Rdf.Graph
  /-- The access-control graph, if there is one. -/
  acl : Option Rdf.Graph
deriving DecidableEq, Repr

namespace Resource

/-- A resource without content and without an access-control graph. -/
def new (id : Identifier) : Resource := ⟨id, ∅, none⟩

/-- True if the resource has an access-control graph of its own. -/
def hasAcl (r : Resource) : Bool := r.acl.isSome

/-- The triples of the access-control graph; none if there is no graph. -/
def aclGraph (r : Resource) : Rdf.Graph := r.acl.getD ∅

end Resource

/-- The graphs that a resource carries. -/
inductive GraphName where
  /-- The content that users manage. -/
  | userManaged
  /-- The access-control graph. -/
  | accessControl
deriving DecidableEq, Repr

/-- The word for a graph name in documents. -/
def GraphName.word : GraphName → String
  | userManaged => "user_managed"
  | accessControl => "access_control"

end WebAccess
