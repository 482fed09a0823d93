import WebAccess.Rule
import WebAccess.Session
import WebAccess.Store

/-!
# Resolution

Which modes does an agent hold on a resource? The walk goes up the containers to the nearest
resource whose own rules govern the request, keeps the rules that admit the agent and unites their
modes. Where no resource up to the root has such rules, nothing is granted. The requested resource
itself need not exist.

A resource that is its own container ends the walk like a root. Any longer way back to a resource
already walked is a fault, named for the first identifier reached twice.
-/

set_option autoImplicit false

namespace WebAccess

namespace Store

/-- The rules stored under `id` that govern the request; none if there is no resource, no graph or
no rule that governs it. -/
def rulesAt (s : Store) (top : Bool) (id : Identifier) : Inquiry (List Rule) := do
  match ← s.fetch id with
  | none => return []
  | some resource =>
    match resource.acl with
    | none => return []
    | some acl =>
      match Rule.applicable (Rule.extract acl) resource.identifier top with
      | [] =>
        Inquiry.event .rulesNotApplicable
        return []
      | rules => return rules

/-- Where the walk goes from an identifier. -/
inductive Ascent where
  /-- Nowhere: the identifier has no container. -/
  | root
  /-- Nowhere: the identifier is its own container. -/
  | selfContained
  /-- Back to an identifier that was walked before. -/
  | cycle (parent : Identifier)
  /-- Up to a container that is new. -/
  | up (parent : Identifier)
deriving DecidableEq, Repr

/-- Where the walk goes from `id`, with the identifiers walked before it. -/
def ascent (s : Store) (visited : List Identifier) (id : Identifier) : Ascent :=
  match s.container id with
  | none => .root
  | some parent =>
    if parent = id then .selfContained
    else if parent ∈ id :: visited then .cycle parent
    else .up parent

/-- The nearest rules that govern the request, with the identifier they were found under. The walk
starts at `id`, has walked `visited`, and may climb `steps` containers. -/
def search (s : Store) (top : Bool) (visited : List Identifier) (id : Identifier) (steps : Nat) :
    Inquiry (Option (Identifier × List Rule)) := do
  match ← s.rulesAt top id with
  | rule :: rules => return some (id, rule :: rules)
  | [] =>
    match s.ascent visited id with
    | .root => return none
    | .selfContained =>
      Inquiry.event .selfContained
      return none
    | .cycle parent =>
      Inquiry.event .containmentCycle
      Inquiry.fail (.cycle parent)
    | .up parent =>
      match steps with
      | 0 => throw .unfinished
      | steps + 1 => s.search false (id :: visited) parent steps

/-- True if the document of the group lists the agent as a member, of the group or of the
document. A document that does not exist has no members. -/
def isMember (s : Store) (group agent : String) : Inquiry Bool := do
  let document := Identifier.groupDocument group
  match s.read document with
  | .error fault =>
    Inquiry.note (.read document false)
    Inquiry.fail (.group group fault.message)
  | .ok none =>
    Inquiry.note (.read document true)
    Inquiry.event .groupMissing
    return false
  | .ok (some resource) =>
    Inquiry.note (.read document true)
    let lists (subject : String) : Bool :=
      resource.content.contains ⟨.iri subject, Vocab.hasMember.iri, .iri agent⟩
    return lists group || lists document

/-- True if one of the groups lists the agent; the groups after it are not read. -/
def anyMember (s : Store) (agent : String) : List String → Inquiry Bool
  | [] => return false
  | group :: groups => do
    if ← s.isMember group agent then return true
    else s.anyMember agent groups

/-- True if the rule admits the agent: by a class, by name, or as a member of a group. The class of
identified agents holds every agent but the anonymous one. -/
def admits (s : Store) (anonymous : String) (rule : Rule) (agent : String) : Inquiry Bool :=
  if rule.hasClass .foafAgent ∨ (rule.hasClass .authenticatedAgent ∧ agent ≠ anonymous) ∨
      agent ∈ rule.agents then
    return true
  else s.anyMember agent rule.agentGroups.toList

/-- The modes of all rules that admit the agent. -/
def grantedModes (s : Store) (anonymous agent : String) : List Rule → Inquiry ModeSet
  | [] => return ∅
  | rule :: rules => do
    if ← s.admits anonymous rule agent then
      Inquiry.event .ruleMatches
      return rule.modes ∪ (← s.grantedModes anonymous agent rules)
    else s.grantedModes anonymous agent rules

/-- The modes that the agent holds on the resource `id`, where `anonymous` is the agent without
identification. -/
def resolve (s : Store) (anonymous : String) (id : Identifier) (agent : String) :
    Inquiry Outcome := do
  match ← s.search true [] id (s.horizon id) with
  | none =>
    Inquiry.event .noRules
    Inquiry.note (.resolution false)
    return Outcome.denied
  | some (acl, rules) =>
    let modes ← s.grantedModes anonymous agent rules
    Inquiry.event .modesResolved
    Inquiry.note (.resolution true)
    return ⟨some acl, modes⟩

end Store

end WebAccess
