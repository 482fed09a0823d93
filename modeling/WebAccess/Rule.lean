import WebAccess.Identifier
import WebAccess.Mode
import WebAccess.NameSet
import WebAccess.Rdf.Graph

/-!
# Rules

An access-control graph holds one rule per subject: whom it admits, what it covers and which modes
it grants. Statements about the subject that say none of this are passed over. Which rules of a
resource's graph govern a request depends on whether that resource is the one requested or a
container above it (`Rule.applicable`).
-/

set_option autoImplicit false

namespace WebAccess

/-- One rule of an access-control graph. -/
structure Rule where
  /-- The node the rule was read from. -/
  subject : Option Rdf.Term
  /-- The agents it admits by name. -/
  agents : NameSet
  /-- The groups whose members it admits. -/
  agentGroups : NameSet
  /-- The classes of agents it admits. -/
  agentClasses : NameSet
  /-- The resources it covers. -/
  accessTo : NameSet
  /-- The containers whose descendants inherit it. -/
  defaultScope : NameSet
  /-- The modes it grants. -/
  modes : ModeSet
deriving DecidableEq

namespace Rule

/-- The IRIs that the triples give as objects under the predicate `p`. -/
def objectIris (p : Vocab) (ts : List Rdf.Triple) : List String :=
  ts.filterMap fun t => if t.predicate = p.iri then t.object.iri? else none

/-- The rule that the triples about one subject state. -/
def ofTriples (subject : Rdf.Term) (ts : List Rdf.Triple) : Rule where
  subject := some subject
  agents := NameSet.ofList (objectIris .agent ts)
  agentGroups := NameSet.ofList (objectIris .agentGroup ts)
  agentClasses := NameSet.ofList (objectIris .agentClass ts)
  accessTo := NameSet.ofList (objectIris .accessTo ts)
  defaultScope := NameSet.ofList (objectIris .default ts)
  modes := ModeSet.ofList ((objectIris .mode ts).filterMap Mode.ofIri?)

/-- The rules of a graph, one per subject, in first-seen order of the subjects. -/
def extract (g : Rdf.Graph) : List Rule :=
  g.bySubject.map fun p => ofTriples p.1 p.2

/-- True if the rule grants nothing. -/
def isEmpty (r : Rule) : Bool :=
  r.modes.isEmpty

/-- True if the rule covers the resource. -/
def appliesTo (r : Rule) (id : Identifier) : Bool :=
  id ∈ r.accessTo

/-- True if descendants of the resource inherit the rule. -/
def isDefaultFor (r : Rule) (id : Identifier) : Bool :=
  id ∈ r.defaultScope

/-- True if the rule admits the class of agents. -/
def hasClass (r : Rule) (c : Vocab) : Bool :=
  c.iri ∈ r.agentClasses

/-- The rules that govern a request, among those stored on the resource `id`. If it is the requested
resource itself (`top`), they are the rules that cover it. If it is a container above, they are the
rules that its descendants inherit, or, where there are none, the rules that cover it. -/
def applicable (rules : List Rule) (id : Identifier) (top : Bool) : List Rule :=
  let covering := rules.filter (·.appliesTo id)
  let inherited := rules.filter (·.isDefaultFor id)
  if top || inherited.isEmpty then covering else inherited

/-- The IRIs that triples state for a term of the vocabulary are the objects of the triples with
this predicate. -/
theorem mem_objectIris {p : Vocab} {ts : List Rdf.Triple} {o : String} :
    o ∈ objectIris p ts ↔ ∃ t ∈ ts, t.predicate = p.iri ∧ t.object = .iri o := by
  simp only [objectIris, List.mem_filterMap]
  refine exists_congr fun t => and_congr_right fun _ => ?_
  by_cases h : t.predicate = p.iri
  · simp [h, Rdf.Term.iri?_eq_some_iff]
  · simp [h]

end Rule

end WebAccess
