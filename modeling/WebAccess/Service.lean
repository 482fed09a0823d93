import WebAccess.Request
import WebAccess.Resolution
import WebAccess.ServiceConfig

/-!
# The access service

The service answers from its configuration, its cache and a store: administrators hold every mode,
other agents hold what resolution yields, remembered if there is a cache, and a delegated session
holds what both its agents hold. Only outcomes are remembered, never faults, and only those of one
agent, never the narrowed ones of a delegated session.

The store and the time are given with each call, so the service itself is its configuration and
the state of its cache.
-/

set_option autoImplicit false

namespace WebAccess

/-- An access service. -/
structure Service where
  /-- Its configuration. -/
  config : ServiceConfig
  /-- Its cache, if it has one. -/
  cache : Option Cache
deriving DecidableEq

/-- A call on a service: it may change the service, takes notes, and may stop without an answer. -/
abbrev Call := ExceptT Stop (StateT Service Observed)

namespace Call

variable {α : Type}

/-- A call that leaves the service as it is. -/
def ofInquiry (x : Inquiry α) : Call α :=
  ExceptT.mk fun service => do
    let answer ← x.run
    return (answer, service)

/-- Takes one note. -/
def note (n : Note) : Call Unit :=
  ofInquiry (Inquiry.note n)

/-- Reports an event. -/
def event (e : Event) : Call Unit :=
  note (.event e)

/-- Reports an event if the call stops with a fault. -/
def onFault (e : Event) (x : Call α) : Call α :=
  tryCatch x fun
    | .failed fault => do
      event e
      throw (.failed fault)
    | .unfinished => throw .unfinished

end Call

namespace Service

/-- A service with the given cache. -/
def new (config : ServiceConfig) (cache : Option Cache) : Service := ⟨config, cache⟩

/-- A service with the cache that its configuration describes. -/
def ofConfig (config : ServiceConfig) : Service :=
  ⟨config, if config.cache.isDisabled then none else some (.empty config.cache)⟩

/-- Changes the cache of a service that has one. -/
def mapCache (service : Service) (f : Cache → Cache) : Service :=
  { service with cache := service.cache.map f }

/-- Drops the remembered outcomes of one resource. -/
def invalidate (service : Service) (id : Identifier) : Service :=
  service.mapCache (·.invalidate id)

/-- Drops all remembered outcomes. -/
def clearCache (service : Service) : Service :=
  service.mapCache (·.clear)

/-- The outcome for one agent: unrestricted for an administrator, otherwise remembered or
resolved. -/
def outcomeFor (store : Store) (now : Nat) (id : Identifier) (agent : String) : Call Outcome := do
  let service ← get
  let resolved := Call.ofInquiry (store.resolve service.config.anonymous id agent)
  if service.config.isAdministrator agent then return .unrestricted
  else
    match service.cache with
    | none => resolved
    | some cache =>
      let (remembered, cache) := cache.get now ⟨id, agent⟩
      set { service with cache := some cache }
      match remembered with
      | some outcome =>
        Call.note (.cacheLookup true)
        Call.event .cachedModes
        return outcome
      | none =>
        Call.note (.cacheLookup false)
        let outcome ← resolved
        set { service with cache := some (cache.insert now ⟨id, agent⟩ outcome) }
        return outcome

/-- The outcome for a session: that of its agent, narrowed to the modes of its delegate. -/
def authorizedModes (store : Store) (now : Nat) (id : Identifier) (session : Session) :
    Call Outcome := do
  if (← get).config.isAdministrator session.agent then
    Call.event .administratorSession
    return .unrestricted
  else
    let outcome ← outcomeFor store now id session.agent
    match session.delegate with
    | none => return outcome
    | some delegate =>
      let delegated ← outcomeFor store now id delegate
      Call.event .narrowedByDelegate
      return outcome.restrict delegated.modes

/-- The modes that a session holds on a resource. -/
def accessModes (store : Store) (now : Nat) (id : Identifier) (session : Session) :
    Call ModeSet := do
  return (← authorizedModes store now id session).modes

/-- Decides a request of a session on a resource. -/
def check (store : Store) (now : Nat) (id : Identifier) (session : Session) (method : Method)
    (target : RequestTarget) : Call Decision := do
  let granted ← Call.onFault .checkFailed (accessModes store now id session)
  let anonymous := (← get).config.isAnonymous session.agent
  let decision := Decision.evaluate (requiredModes method target) granted anonymous
  Call.note (.decision decision.verdict)
  return decision

/-- The rules that a root gets at the start: every agent holds every mode on the root and on what
inherits from it. -/
def rootRules (root : Identifier) : Rdf.Graph :=
  let rule := Rdf.Term.iri (root ++ "#auth")
  Rdf.Graph.ofList <|
    [⟨rule, Vocab.type.iri, .iri Vocab.authorization.iri⟩,
      ⟨rule, Vocab.agentClass.iri, .iri Vocab.foafAgent.iri⟩,
      ⟨rule, Vocab.accessTo.iri, .iri root⟩,
      ⟨rule, Vocab.default.iri, .iri root⟩] ++
    Mode.all.map fun m => ⟨rule, Vocab.mode.iri, .iri m.iri⟩

/-- Writes rules for the root if it has none and the configuration says so. The answer is what
writing yielded, or `none` if nothing was written; the remembered outcomes of the root are dropped
after writing. -/
def ensureRootRules {σ : Type} (store : Store) (write : Identifier → Rdf.Graph → Except Fault σ) :
    Call (Option σ) := do
  let config := (← get).config
  if !config.initializeRoot then return none
  else
    let existing ← Call.ofInquiry (store.fetch config.root)
    if existing.any (·.hasAcl) then
      Call.event .rootRulesPresent
      return none
    else
      match write config.root (rootRules config.root) with
      | .error fault => throw (.failed fault)
      | .ok written =>
        modify (·.invalidate config.root)
        Call.event .rootRulesWritten
        return some written

end Service

end WebAccess
