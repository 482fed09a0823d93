import WebAccess.Proofs.Answers
import WebAccess.Proofs.CacheEntries

/-!
# Calls on the service

What each call answers, as an equation over the call below it, and what it does to the service. The
outcome for one agent is the resolver's or that of an entry in the cache
(`Service.answer_outcomeFor`). Every call that looks up outcomes keeps configuration and limits and
adds to the cache nothing but what resolution yields at that moment (`Service.Grown`).
-/

set_option autoImplicit false

namespace WebAccess

open Call

namespace Service

variable {store : Store} {now : Nat} {id : Identifier} {agent : String} {service : Service}

/-- A new service has the configuration that it is given. -/
@[simp] theorem config_new (config : ServiceConfig) (cache : Option Cache) :
    (new config cache).config = config := rfl

/-- The service has the entry in its cache. -/
def Holds (service : Service) (e : CacheEntry) : Prop :=
  ∃ c, service.cache = some c ∧ e ∈ c.entries

/-- What a service with a cache remembers are the entries of the cache. -/
theorem holds_iff {c : Cache} {e : CacheEntry} (hc : service.cache = some c) :
    service.Holds e ↔ e ∈ c.entries := by
  simp [Holds, hc]

/-- The limits of the cache, if there is one. -/
def limits? (service : Service) : Option CacheLimits :=
  service.cache.map (·.limits)

/-- Dropping the outcomes of a resource leaves the limits. -/
theorem limits?_invalidate (service : Service) (id : Identifier) :
    (service.invalidate id).limits? = service.limits? := by
  cases h : service.cache <;> simp [limits?, invalidate, mapCache, h]

/-- Dropping all outcomes leaves the limits. -/
theorem limits?_clearCache (service : Service) : service.clearCache.limits? = service.limits? := by
  cases h : service.cache <;> simp [limits?, clearCache, mapCache, h]

/-- Once the outcomes of a resource are dropped, those of all other resources are remembered. -/
theorem holds_invalidate {e : CacheEntry} :
    (service.invalidate id).Holds e ↔ service.Holds e ∧ e.key.identifier ≠ id := by
  cases h : service.cache <;> simp [Holds, invalidate, mapCache, h, Cache.mem_invalidate]

/-- Once all outcomes are dropped nothing is remembered. -/
theorem not_holds_clearCache (e : CacheEntry) : ¬service.clearCache.Holds e := by
  cases h : service.cache <;> simp [Holds, clearCache, mapCache, h]

/-- At the time `now` the entry was made, for an agent that is no administrator, from what
resolution yields on the store. -/
structure Fresh (store : Store) (now : Nat) (config : ServiceConfig) (e : CacheEntry) : Prop where
  /-- Administrators are not remembered. -/
  ordinary : config.isAdministrator e.key.agent = false
  /-- The age counts from `now`. -/
  created : e.created = now
  /-- The outcome is the one resolved for the key. -/
  resolved : (store.resolve config.anonymous e.key.identifier e.key.agent).answer = .ok e.outcome

/-- From one service to the other nothing changes but the entries of the cache, and each new entry
is fresh. -/
structure Grown (store : Store) (now : Nat) (service service' : Service) : Prop where
  config : service'.config = service.config
  limits : service'.limits? = service.limits?
  /-- An entry was there or is fresh. -/
  entries : ∀ e, service'.Holds e → service.Holds e ∨ Fresh store now service.config e

/-- A service that stays as it is has grown by nothing. -/
theorem Grown.refl (store : Store) (now : Nat) (service : Service) :
    Grown store now service service :=
  ⟨rfl, rfl, fun _ he => .inl he⟩

/-- What grows twice in sequence has grown from the first state to the last. -/
theorem Grown.trans {service₁ service₂ service₃ : Service} (h : Grown store now service₁ service₂)
    (h' : Grown store now service₂ service₃) : Grown store now service₁ service₃ where
  config := h'.config.trans h.config
  limits := h'.limits.trans h.limits
  entries e he := by
    rcases h'.entries e he with hold | hfresh
    · exact h.entries e hold
    · exact .inr (h.config ▸ hfresh)

/-- A service without a cache does not grow. -/
theorem Grown.eq_of_uncached {service' : Service} (h : Grown store now service service')
    (hc : service.cache = none) : service' = service := by
  have hlimits := h.limits
  rcases service with ⟨config, cache⟩
  rcases service' with ⟨config', cache'⟩
  obtain rfl : config' = config := h.config
  obtain rfl : cache = none := hc
  rcases cache' with _ | c
  · rfl
  · simp [limits?] at hlimits

/-! ## The outcome for one agent -/

/-- The look-up for an administrator answers every mode and asks neither cache nor store. -/
theorem outcomeFor_of_administrator (h : service.config.isAdministrator agent = true) :
    (outcomeFor store now id agent).answer service = .ok .unrestricted ∧
      (outcomeFor store now id agent).after service = service := by
  simp [outcomeFor, h]

/-- Without a cache the look-up for an ordinary agent resolves and leaves the service as it is. -/
theorem outcomeFor_of_uncached (h : service.config.isAdministrator agent = false)
    (hc : service.cache = none) :
    (outcomeFor store now id agent).answer service =
        (store.resolve service.config.anonymous id agent).answer ∧
      (outcomeFor store now id agent).after service = service := by
  simp [outcomeFor, h, hc]

/-- An outcome that the cache has is answered, and the cache is left touched. -/
theorem outcomeFor_of_hit {c : Cache} {outcome : Outcome}
    (h : service.config.isAdministrator agent = false) (hc : service.cache = some c)
    (hg : (c.get now ⟨id, agent⟩).1 = some outcome) :
    (outcomeFor store now id agent).answer service = .ok outcome ∧
      (outcomeFor store now id agent).after service =
        { service with cache := some (c.get now ⟨id, agent⟩).2 } := by
  simp [outcomeFor, h, hc, hg]

/-- What the cache does not have is resolved, and remembered if resolution answers. -/
theorem outcomeFor_of_miss {c : Cache} (h : service.config.isAdministrator agent = false)
    (hc : service.cache = some c) (hg : (c.get now ⟨id, agent⟩).1 = none) :
    (outcomeFor store now id agent).answer service =
        (store.resolve service.config.anonymous id agent).answer ∧
      (outcomeFor store now id agent).after service =
        { service with cache := some <|
            match (store.resolve service.config.anonymous id agent).answer with
            | .ok outcome => (c.get now ⟨id, agent⟩).2.insert now ⟨id, agent⟩ outcome
            | .error _ => (c.get now ⟨id, agent⟩).2 } := by
  cases hr : (store.resolve service.config.anonymous id agent).answer <;>
    simp [outcomeFor, h, hc, hg, hr]

/-- An outcome that is not the resolver's is that of an entry that is not too old. -/
theorem answer_outcomeFor (h : service.config.isAdministrator agent = false) :
    (outcomeFor store now id agent).answer service =
        (store.resolve service.config.anonymous id agent).answer ∨
      ∃ e limits, service.Holds e ∧ e.key = ⟨id, agent⟩ ∧ service.limits? = some limits ∧
        now ≤ e.created + limits.timeToLive ∧
        (outcomeFor store now id agent).answer service = .ok e.outcome := by
  rcases hc : service.cache with _ | c
  · exact .inl (outcomeFor_of_uncached h hc).1
  · rcases hg : (c.get now ⟨id, agent⟩).1 with _ | outcome
    · exact .inl (outcomeFor_of_miss h hc hg).1
    · obtain ⟨e, hmem, hkey, rfl, hage⟩ := Cache.get_eq_some hg
      exact .inr ⟨e, c.limits, ⟨c, hc, hmem⟩, hkey, by simp [limits?, hc], hage,
        (outcomeFor_of_hit h hc hg).1⟩

/-- A look-up leaves the service alone, or asks the cache and after a miss may insert what it
resolved. -/
theorem after_outcomeFor_cases (store : Store) (now : Nat) (id : Identifier) (agent : String)
    (service : Service) :
    (outcomeFor store now id agent).after service = service ∨
      service.config.isAdministrator agent = false ∧ ∃ c, service.cache = some c ∧
        ((outcomeFor store now id agent).after service =
            { service with cache := some (c.get now ⟨id, agent⟩).2 } ∨
          ∃ outcome, (store.resolve service.config.anonymous id agent).answer = .ok outcome ∧
            (outcomeFor store now id agent).after service =
              { service with
                cache := some ((c.get now ⟨id, agent⟩).2.insert now ⟨id, agent⟩ outcome) }) := by
  rcases h : service.config.isAdministrator agent with _ | _
  · rcases hc : service.cache with _ | c
    · exact .inl (outcomeFor_of_uncached h hc).2
    · refine .inr ⟨rfl, c, rfl, ?_⟩
      rcases hg : (c.get now ⟨id, agent⟩).1 with _ | found
      · rw [(outcomeFor_of_miss h hc hg).2]
        rcases (store.resolve service.config.anonymous id agent).answer with stop | outcome
        · exact .inl rfl
        · exact .inr ⟨outcome, rfl, rfl⟩
      · exact .inl (outcomeFor_of_hit h hc hg).2
  · exact .inl (outcomeFor_of_administrator h).2

/-- A look-up makes a service grow. -/
theorem grown_outcomeFor (store : Store) (now : Nat) (id : Identifier) (agent : String)
    (service : Service) :
    Grown store now service ((outcomeFor store now id agent).after service) := by
  rcases after_outcomeFor_cases store now id agent service with
    hafter | ⟨h, c, hc, hafter | ⟨outcome, hresolved, hafter⟩⟩
  · rw [hafter]
    exact .refl store now service
  · rw [hafter]
    refine ⟨rfl, by simp [limits?, hc], ?_⟩
    intro e he
    exact .inl ((holds_iff hc).2 (Cache.mem_of_mem_get ((holds_iff rfl).1 he)))
  · -- Only the insertion after a miss adds an entry.
    rw [hafter]
    refine ⟨rfl, by simp [limits?, hc], ?_⟩
    intro e he
    rcases Cache.mem_of_mem_insert ((holds_iff rfl).1 he) with hkept | rfl
    · exact .inl ((holds_iff hc).2 (Cache.mem_of_mem_get hkept))
    · exact .inr ⟨h, rfl, hresolved⟩

/-! ## The outcome for a session -/

/-- The look-ups for a session, each agent with the answer it got: first the agent of the session,
then, if that look-up succeeds, the delegate. For an administrator nothing is looked up. -/
def lookups (store : Store) (now : Nat) (id : Identifier) (session : Session) (service : Service) :
    List (String × Except Stop Outcome) :=
  if service.config.isAdministrator session.agent then []
  else
    let own := outcomeFor store now id session.agent
    (session.agent, own.answer service) ::
      match session.delegate, own.answer service with
      | some delegate, .ok _ =>
        [(delegate, (outcomeFor store now id delegate).answer (own.after service))]
      | _, _ => []

/-- What look-ups amount to: every mode where there was none, otherwise the first outcome, narrowed
to the modes of the second if there was one. -/
def narrowed : List (String × Except Stop Outcome) → Except Stop Outcome
  | [] => .ok .unrestricted
  | [(_, own)] => own
  | (_, own) :: (_, delegated) :: _ =>
    own >>= fun outcome => delegated >>= fun other => .ok (outcome.restrict other.modes)

/-- Asking for the modes of a session answers what its look-ups amount to. -/
theorem answer_authorizedModes (store : Store) (now : Nat) (id : Identifier) (session : Session)
    (service : Service) :
    (authorizedModes store now id session).answer service =
      narrowed (lookups store now id session service) := by
  rcases session with ⟨agent, delegate⟩
  rcases h : service.config.isAdministrator agent with _ | _
  · rcases hown : (outcomeFor store now id agent).answer service with stop | outcome
    · cases delegate <;> simp [authorizedModes, lookups, narrowed, h, hown]
    · cases delegate <;> simp [authorizedModes, lookups, narrowed, h, hown]
  · simp [authorizedModes, lookups, narrowed, h]

/-- The service after the look-ups for a session. -/
theorem after_authorizedModes (store : Store) (now : Nat) (id : Identifier) (session : Session)
    (service : Service) :
    (authorizedModes store now id session).after service =
      if service.config.isAdministrator session.agent then service
      else
        match session.delegate, (outcomeFor store now id session.agent).answer service with
        | some delegate, .ok _ =>
          (outcomeFor store now id delegate).after
            ((outcomeFor store now id session.agent).after service)
        | _, _ => (outcomeFor store now id session.agent).after service := by
  rcases session with ⟨agent, delegate⟩
  rcases h : service.config.isAdministrator agent with _ | _
  · rcases ha : (outcomeFor store now id agent).answer service with stop | outcome
    · cases delegate <;> simp [authorizedModes, h, ha]
    · rcases delegate with _ | delegate
      · simp [authorizedModes, h]
      · rcases hd : (outcomeFor store now id delegate).answer
            ((outcomeFor store now id agent).after service) with stop | delegated <;>
          simp [authorizedModes, h, ha, hd]
  · simp [authorizedModes, h]

/-- Asking for the modes of a session makes a service grow. -/
theorem grown_authorizedModes (store : Store) (now : Nat) (id : Identifier) (session : Session)
    (service : Service) :
    Grown store now service ((authorizedModes store now id session).after service) := by
  have hown := grown_outcomeFor store now id session.agent service
  rw [after_authorizedModes]
  split
  · exact .refl store now service
  · split
    · exact hown.trans (grown_outcomeFor store now id _ _)
    · exact hown

/-- Asking for the modes alone answers those of the outcome. -/
@[simp] theorem answer_accessModes (store : Store) (now : Nat) (id : Identifier)
    (session : Session) (service : Service) :
    (accessModes store now id session).answer service =
      (authorizedModes store now id session).answer service >>= fun outcome =>
        .ok outcome.modes := by
  simp [accessModes]

/-- Asking for the modes alone leaves the service that asking for the outcome leaves. -/
@[simp] theorem after_accessModes (store : Store) (now : Nat) (id : Identifier)
    (session : Session) (service : Service) :
    (accessModes store now id session).after service =
      (authorizedModes store now id session).after service := by
  simp [accessModes]

/-- A request is decided by the modes that the session has on the resource. -/
theorem answer_check (store : Store) (now : Nat) (id : Identifier) (session : Session)
    (method : Method) (target : RequestTarget) (service : Service) :
    (check store now id session method target).answer service =
      (authorizedModes store now id session).answer service >>= fun outcome =>
        .ok <| Decision.evaluate (requiredModes method target) outcome.modes
          (service.config.isAnonymous session.agent) := by
  have hconfig := (grown_authorizedModes store now id session service).config
  rcases h : (authorizedModes store now id session).answer service with stop | outcome
  · simp [check, h]
  · simp [check, h, hconfig]

/-- A request leaves the service that asking for the modes leaves. -/
@[simp] theorem after_check (store : Store) (now : Nat) (id : Identifier) (session : Session)
    (method : Method) (target : RequestTarget) (service : Service) :
    (check store now id session method target).after service =
      (authorizedModes store now id session).after service := by
  rcases h : (authorizedModes store now id session).answer service with stop | outcome <;>
    simp [check, h]

/-! ## Services that remember nothing outdated -/

/-- Every entry in the cache is what resolution yields on the store. -/
def Faithful (store : Store) (service : Service) : Prop :=
  ∀ e, service.Holds e →
    (store.resolve service.config.anonymous e.key.identifier e.key.agent).answer = .ok e.outcome

/-- A service without a cache remembers nothing that is outdated. -/
theorem faithful_of_uncached (h : service.cache = none) : Faithful store service := by
  rintro e ⟨c, hc, -⟩
  simp [h] at hc

/-- A service that remembers nothing outdated still does so once it has grown. -/
theorem Faithful.grown {service' : Service} (h : Faithful store service)
    (hg : Grown store now service service') : Faithful store service' := by
  intro e he
  rw [hg.config]
  rcases hg.entries e he with hold | hfresh
  · exact h e hold
  · exact hfresh.resolved

/-- If nothing outdated is remembered, the look-up for an ordinary agent answers what resolution
yields. -/
theorem Faithful.answer_outcomeFor (hf : Faithful store service)
    (h : service.config.isAdministrator agent = false) :
    (outcomeFor store now id agent).answer service =
      (store.resolve service.config.anonymous id agent).answer := by
  rcases Service.answer_outcomeFor h with hresolved | ⟨e, -, he, hkey, -, -, hanswer⟩
  · exact hresolved
  · rw [hanswer, ← hf e he, hkey]

/-- Services with one configuration that remember nothing outdated answer a look-up alike. -/
theorem Faithful.outcomeFor_eq {service₁ service₂ : Service} (h₁ : Faithful store service₁)
    (h₂ : Faithful store service₂) (hc : service₁.config = service₂.config) (agent : String) :
    (outcomeFor store now id agent).answer service₁ =
      (outcomeFor store now id agent).answer service₂ := by
  rcases h : service₁.config.isAdministrator agent with _ | _
  · rw [h₁.answer_outcomeFor h, h₂.answer_outcomeFor (hc ▸ h), hc]
  · rw [(outcomeFor_of_administrator h).1, (outcomeFor_of_administrator (hc ▸ h)).1]

/-- Two services with the same configuration that remember nothing outdated look up the same. -/
theorem Faithful.lookups_eq {service₁ service₂ : Service} (h₁ : Faithful store service₁)
    (h₂ : Faithful store service₂) (hc : service₁.config = service₂.config) (session : Session) :
    lookups store now id session service₁ = lookups store now id session service₂ := by
  have hg₁ := grown_outcomeFor store now id session.agent service₁
  have hg₂ := grown_outcomeFor store now id session.agent service₂
  have hafter := hg₁.config.trans (hc.trans hg₂.config.symm)
  simp only [lookups, hc, h₁.outcomeFor_eq h₂ hc,
    (h₁.grown hg₁).outcomeFor_eq (h₂.grown hg₂) hafter]

/-! ## Rules for the root -/

variable {σ : Type}

/-- What writing rules for the root yields under a configuration: nothing where it says no or the
root has rules, otherwise what the writer answers. -/
def rootRulesWritten (store : Store) (write : Identifier → Rdf.Graph → Except Fault σ)
    (config : ServiceConfig) : Except Stop (Option σ) :=
  if config.initializeRoot then
    (store.fetch config.root).answer >>= fun existing =>
      if existing.any (·.hasAcl) then .ok none
      else
        match write config.root (rootRules config.root) with
        | .error fault => .error (.failed fault)
        | .ok written => .ok (some written)
  else .ok none

/-- Remembered outcomes are dropped only if rules were written. -/
theorem ensureRootRules_eq (store : Store) (write : Identifier → Rdf.Graph → Except Fault σ)
    (service : Service) :
    (ensureRootRules store write).answer service =
        rootRulesWritten store write service.config ∧
      (ensureRootRules store write).after service =
        match rootRulesWritten store write service.config with
        | .ok (some _) => service.invalidate service.config.root
        | _ => service := by
  unfold rootRulesWritten
  rcases hinit : service.config.initializeRoot with _ | _
  · simp [ensureRootRules, hinit]
  · rcases hread : (store.fetch service.config.root).answer with stop | existing
    · simp [ensureRootRules, hinit, hread]
    · rcases hacl : existing.any (·.hasAcl) with _ | _
      · rcases hw : write service.config.root (rootRules service.config.root) with fault | written
        <;> simp [ensureRootRules, hinit, hread, hacl, hw]
      · simp [ensureRootRules, hinit, hread, hacl]

end Service

end WebAccess
