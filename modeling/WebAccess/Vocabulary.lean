/-!
# Vocabulary

Every IRI that access control reads or writes, under a symbolic name. The names stand in one
table, so that a predicate found in a graph can be looked up again (`Vocab.ofIri?`); no two names
share an IRI (`Vocab.iri_injective`), hence the look-up inverts the naming (`Vocab.ofIri?_iri`).
-/

set_option autoImplicit false

namespace WebAccess

/-- The terms known to access control. -/
inductive Vocab where
  /-- The class of rules. -/
  | authorization
  /-- Names an agent that the rule admits. -/
  | agent
  /-- Names a group whose members the rule admits. -/
  | agentGroup
  /-- Names a class of agents that the rule admits. -/
  | agentClass
  /-- Names a resource that the rule covers. -/
  | accessTo
  /-- Names a container whose descendants inherit the rule. -/
  | default
  /-- Names a mode that the rule grants. -/
  | mode
  /-- The mode of reading. -/
  | read
  /-- The mode of replacing or deleting. -/
  | write
  /-- The mode of adding. -/
  | append
  /-- The mode of reading and changing the rules themselves. -/
  | control
  /-- The class of all agents that are not anonymous. -/
  | authenticatedAgent
  /-- The class of all agents. -/
  | foafAgent
  /-- Names a member of a group. -/
  | hasMember
  /-- Names the class of a subject. -/
  | type
  /-- The built-in administrator. -/
  | administratorAgent
  /-- The built-in agent of requests without identification. -/
  | anonymousAgent
deriving DecidableEq, Repr

namespace Vocab

/-- All terms, in the order of the table. -/
def all : List Vocab :=
  [authorization, agent, agentGroup, agentClass, accessTo, default, mode, read, write, append,
    control, authenticatedAgent, foafAgent, hasMember, type, administratorAgent, anonymousAgent]

/-- The IRI of a term. -/
def iri : Vocab → String
  | authorization => "http://www.w3.org/ns/auth/acl#Authorization"
  | agent => "http://www.w3.org/ns/auth/acl#agent"
  | agentGroup => "http://www.w3.org/ns/auth/acl#agentGroup"
  | agentClass => "http://www.w3.org/ns/auth/acl#agentClass"
  | accessTo => "http://www.w3.org/ns/auth/acl#accessTo"
  | default => "http://www.w3.org/ns/auth/acl#default"
  | mode => "http://www.w3.org/ns/auth/acl#mode"
  | read => "http://www.w3.org/ns/auth/acl#Read"
  | write => "http://www.w3.org/ns/auth/acl#Write"
  | append => "http://www.w3.org/ns/auth/acl#Append"
  | control => "http://www.w3.org/ns/auth/acl#Control"
  | authenticatedAgent => "http://www.w3.org/ns/auth/acl#AuthenticatedAgent"
  | foafAgent => "http://xmlns.com/foaf/0.1/Agent"
  | hasMember => "http://www.w3.org/2006/vcard/ns#hasMember"
  | type => "http://www.w3.org/1999/02/22-rdf-syntax-ns#type"
  | administratorAgent => "http://www.trellisldp.org/ns/trellis#AdministratorAgent"
  | anonymousAgent => "http://www.trellisldp.org/ns/trellis#AnonymousAgent"

/-- The symbolic name of a term. -/
def name : Vocab → String
  | authorization => "Authorization"
  | agent => "Agent"
  | agentGroup => "AgentGroup"
  | agentClass => "AgentClass"
  | accessTo => "AccessTo"
  | default => "Default"
  | mode => "Mode"
  | read => "Read"
  | write => "Write"
  | append => "Append"
  | control => "Control"
  | authenticatedAgent => "AuthenticatedAgent"
  | foafAgent => "FoafAgent"
  | hasMember => "HasMember"
  | type => "Type"
  | administratorAgent => "AdministratorAgent"
  | anonymousAgent => "AnonymousAgent"

/-- The namespaces the terms are taken from. -/
def namespaces : List String :=
  ["http://www.w3.org/ns/auth/acl#", "http://xmlns.com/foaf/0.1/",
    "http://www.w3.org/2006/vcard/ns#", "http://www.trellisldp.org/ns/trellis#",
    "http://www.w3.org/1999/02/22-rdf-syntax-ns#"]

/-- The term with the given IRI. -/
def ofIri? (s : String) : Option Vocab :=
  all.find? fun t => t.iri == s

/-- Looking up the IRI of a term gives the term back. -/
@[simp] theorem ofIri?_iri (t : Vocab) : ofIri? t.iri = some t := by
  cases t <;> decide

/-- No two terms share an IRI. -/
theorem iri_injective {t u : Vocab} (h : t.iri = u.iri) : t = u := by
  have hlook : ofIri? t.iri = ofIri? u.iri := congrArg ofIri? h
  simpa using hlook

/-- A term is found exactly under its own IRI. -/
theorem ofIri?_eq_some_iff {s : String} {t : Vocab} : ofIri? s = some t ↔ t.iri = s := by
  constructor
  · intro h
    simpa using List.find?_some h
  · rintro rfl
    exact ofIri?_iri t

end Vocab

end WebAccess
