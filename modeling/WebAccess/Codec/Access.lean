import WebAccess.Codec.Rdf
import WebAccess.Resource
import WebAccess.Rule
import WebAccess.Session

/-!
# Modes, sessions, outcomes and rules in documents

Modes and graph names are words; sets are sequences, written in the order of the set and read with
repetitions; sessions, outcomes and rules are records. What may be absent is written as `null`,
and may be left out.
-/

set_option autoImplicit false

namespace WebAccess

open WebAccess.Document

/-- Takes a tree as a mode. -/
def Mode.decode (origin : Origin) (t : Tree) : Decoded Mode :=
  asWord origin (Mode.all.map fun m => (m.word, m)) t

/-- A mode as a tree. -/
def Mode.toTree (m : Mode) : Tree := .text m.word

/-- Takes a tree as a set of modes. -/
def ModeSet.decode (origin : Origin) (t : Tree) : Decoded ModeSet :=
  (asList (Mode.decode origin) t).map ModeSet.ofList

/-- A set of modes as a tree. -/
def ModeSet.toTree (s : ModeSet) : Tree := .list (s.toList.map Mode.toTree)

/-- Takes a tree as the name of a graph. -/
def GraphName.decode (origin : Origin) (t : Tree) : Decoded GraphName :=
  asWord origin ([GraphName.userManaged, .accessControl].map fun n => (n.word, n)) t

/-- The name of a graph as a tree. -/
def GraphName.toTree (n : GraphName) : Tree := .text n.word

/-- Takes a tree as a set of names. -/
def NameSet.decode (t : Tree) : Decoded NameSet :=
  (asList asText t).map NameSet.ofList

/-- A set of names as a tree. -/
def NameSet.toTree (s : NameSet) : Tree := .list (s.toList.map .text)

/-- A text that may be absent as a tree. -/
def optionalText (s : Option String) : Tree := (s.map Tree.text).getD .null

/-- What is given of a session. -/
structure Session.Draft where
  /-- The agent. -/
  agent : Option String
  /-- The delegating agent. -/
  delegate : Option (Option String)

/-- Sessions as records. -/
def Session.record : Record Session.Draft Session where
  title := "struct Session"
  strict := false
  fields := [
    .of "agent" false (·.agent) (fun d s => { d with agent := some s }) asText,
    .of "delegated_by" false (·.delegate) (fun d s => { d with delegate := some s })
      (asOption asText)]
  start := ⟨none, none⟩
  complete d := do
    let agent ← require "agent" d.agent
    return ⟨agent, d.delegate.join⟩

/-- Takes a tree as a session. -/
def Session.decode (origin : Origin) (t : Tree) : Decoded Session :=
  Session.record.decode origin t

/-- A session as a tree. -/
def Session.toTree (s : Session) : Tree :=
  .record [("agent", .text s.agent), ("delegated_by", optionalText s.delegate)]

/-- What is given of an outcome. -/
structure Outcome.Draft where
  /-- The resource whose rules were applied. -/
  effectiveAcl : Option (Option Identifier)
  /-- The modes. -/
  modes : Option ModeSet

/-- Outcomes as records. -/
def Outcome.record (origin : Origin) : Record Outcome.Draft Outcome where
  title := "struct AuthorizedModes"
  strict := false
  fields := [
    .of "effective_acl" false (·.effectiveAcl) (fun d s => { d with effectiveAcl := some s })
      (asOption asText),
    .of "modes" false (·.modes) (fun d m => { d with modes := some m }) (ModeSet.decode origin)]
  start := ⟨none, none⟩
  complete d := do
    let modes ← require "modes" d.modes
    return ⟨d.effectiveAcl.join, modes⟩

/-- Takes a tree as an outcome. -/
def Outcome.decode (origin : Origin) (t : Tree) : Decoded Outcome :=
  (Outcome.record origin).decode origin t

/-- An outcome as a tree. -/
def Outcome.toTree (o : Outcome) : Tree :=
  .record [("effective_acl", optionalText o.effectiveAcl), ("modes", o.modes.toTree)]

/-- What is given of a rule. -/
structure Rule.Draft where
  /-- The node the rule was read from. -/
  subject : Option (Option Rdf.Term)
  /-- The agents. -/
  agents : Option NameSet
  /-- The groups. -/
  agentGroups : Option NameSet
  /-- The classes. -/
  agentClasses : Option NameSet
  /-- The resources covered. -/
  accessTo : Option NameSet
  /-- The containers whose descendants inherit the rule. -/
  defaultScope : Option NameSet
  /-- The modes. -/
  modes : Option ModeSet

/-- Rules as records. -/
def Rule.record (origin : Origin) : Record Rule.Draft Rule where
  title := "struct Authorization"
  strict := false
  fields := [
    .of "subject" false (·.subject) (fun d s => { d with subject := some s })
      (asOption (Rdf.Term.decode origin)),
    .of "agents" false (·.agents) (fun d s => { d with agents := some s }) NameSet.decode,
    .of "agent_groups" false (·.agentGroups) (fun d s => { d with agentGroups := some s })
      NameSet.decode,
    .of "agent_classes" false (·.agentClasses) (fun d s => { d with agentClasses := some s })
      NameSet.decode,
    .of "access_to" false (·.accessTo) (fun d s => { d with accessTo := some s }) NameSet.decode,
    .of "default_scope" false (·.defaultScope) (fun d s => { d with defaultScope := some s })
      NameSet.decode,
    .of "modes" false (·.modes) (fun d s => { d with modes := some s }) (ModeSet.decode origin)]
  start := ⟨none, none, none, none, none, none, none⟩
  complete d := do
    let agents ← require "agents" d.agents
    let agentGroups ← require "agent_groups" d.agentGroups
    let agentClasses ← require "agent_classes" d.agentClasses
    let accessTo ← require "access_to" d.accessTo
    let defaultScope ← require "default_scope" d.defaultScope
    let modes ← require "modes" d.modes
    return ⟨d.subject.join, agents, agentGroups, agentClasses, accessTo, defaultScope, modes⟩

/-- Takes a tree as a rule. -/
def Rule.decode (origin : Origin) (t : Tree) : Decoded Rule :=
  (Rule.record origin).decode origin t

/-- A rule as a tree. -/
def Rule.toTree (r : Rule) : Tree :=
  .record [("subject", (r.subject.map Rdf.Term.toTree).getD .null), ("agents", r.agents.toTree),
    ("agent_groups", r.agentGroups.toTree), ("agent_classes", r.agentClasses.toTree),
    ("access_to", r.accessTo.toTree), ("default_scope", r.defaultScope.toTree),
    ("modes", r.modes.toTree)]

end WebAccess
