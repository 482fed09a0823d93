import WebAccess.Cache
import WebAccess.Fault
import WebAccess.NameSet
import WebAccess.Text.Blank

/-!
# The configuration of the service

Who administers, who is anonymous, where the root is, and whether the root gets rules at the start.
Administrators hold every mode without a look at any rule, so the anonymous agent must not be one.
-/

set_option autoImplicit false

namespace WebAccess

/-- The configuration of an access service. -/
structure ServiceConfig where
  /-- The identifier of the root container. -/
  root : Identifier
  /-- The agent that holds every mode. -/
  administrator : String
  /-- Further agents that hold every mode. -/
  admins : NameSet
  /-- The agent of requests without identification. -/
  anonymous : String
  /-- Whether the root gets permissive rules at the start if it has none. -/
  initializeRoot : Bool
  /-- The limits of the cache. -/
  cache : CacheLimits
deriving DecidableEq

namespace ServiceConfig

/-- The configuration where nothing is said. -/
def default : ServiceConfig where
  root := "trellis:data/"
  administrator := Vocab.administratorAgent.iri
  admins := ∅
  anonymous := Vocab.anonymousAgent.iri
  initializeRoot := true
  cache := .default

/-- The configuration in production. -/
def production : ServiceConfig :=
  { default with initializeRoot := false, cache := .production }

/-- The configuration in development. -/
def development : ServiceConfig :=
  { default with initializeRoot := true, cache := .development }

/-- True if the agent holds every mode. -/
def isAdministrator (c : ServiceConfig) (agent : String) : Bool :=
  agent == c.administrator || agent ∈ c.admins

/-- True if the agent is the one of requests without identification. -/
def isAnonymous (c : ServiceConfig) (agent : String) : Bool :=
  agent == c.anonymous

/-- Checks that root and agents are given and that the anonymous agent is no administrator. -/
def validate (c : ServiceConfig) : Except Fault Unit :=
  if Text.allBlank c.root then .error (.config "root must not be empty")
  else if Text.allBlank c.administrator then
    .error (.config "administrator agent must not be empty")
  else if Text.allBlank c.anonymous then .error (.config "anonymous agent must not be empty")
  else if c.isAdministrator c.anonymous then
    .error (.config ("anonymous agent " ++ c.anonymous ++ " must not be an administrator"))
  else .ok ()

end ServiceConfig

end WebAccess
