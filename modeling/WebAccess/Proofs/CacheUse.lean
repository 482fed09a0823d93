import WebAccess.Proofs.ServiceRun
import WebAccess.Proofs.TouchOrder

/-!
# The cache inside a service

A service does to its cache what a run of a cache does, and nothing else: it looks outcomes up,
inserts them after a miss, drops those of a resource, or clears it. So at every moment of a run of
the service its cache is as some run of a cache has left it (`Service.Moment.reached_run`), and what
holds of every such cache holds of the one inside the service. In particular a look-up loses none
but an expired entry (`Cache.Reached.losesOnlyExpired_get`), and after a miss there is no entry
under the key (`Cache.Reached.key_ne_of_miss`).
-/

set_option autoImplicit false

namespace WebAccess

namespace Cache

variable {c c' c'' : Cache} {m : Moment} {now : Nat} {key : CacheKey} {e : CacheEntry}

/-- Some run that starts with an empty cache ends with the cache, at the time `now`. -/
def Reached (now : Nat) (c : Cache) : Prop :=
  ∃ start steps, Moment.run ⟨.empty c.limits, start⟩ steps = ⟨c, now⟩

/-- A run without steps leads to an empty cache. -/
theorem reached_empty (limits : CacheLimits) (now : Nat) : (empty limits).Reached now :=
  ⟨now, [], rfl⟩

/-- A run to a cache can be continued by a step. -/
theorem Reached.next (h : m.cache.Reached m.now) (step : Step) :
    (m.next step).cache.Reached (m.next step).now := by
  obtain ⟨start, steps, hrun⟩ := h
  refine ⟨start, steps ++ [step], ?_⟩
  rw [Moment.limits_next, Moment.run_append, hrun]
  rfl

/-- A run to a cache can be continued by waiting. -/
theorem Reached.wait (h : c.Reached now) (span : Duration) : c.Reached (now + span) :=
  Reached.next (m := ⟨c, now⟩) h (.wait span)

/-- A run to a cache can be continued by a look-up. -/
theorem Reached.get (h : c.Reached now) (key : CacheKey) : (c.get now key).2.Reached now :=
  Reached.next (m := ⟨c, now⟩) h (.get key)

/-- A run to a cache can be continued by an insertion. -/
theorem Reached.insert (h : c.Reached now) (key : CacheKey) (outcome : Outcome) :
    (c.insert now key outcome).Reached now :=
  Reached.next (m := ⟨c, now⟩) h (.insert key outcome)

/-- A run to a cache can be continued by dropping a resource. -/
theorem Reached.invalidate (h : c.Reached now) (id : Identifier) :
    (c.invalidate id).Reached now :=
  Reached.next (m := ⟨c, now⟩) h (.invalidate id)

/-- A run to a cache can be continued by dropping everything. -/
theorem Reached.clear (h : c.Reached now) : c.clear.Reached now :=
  Reached.next (m := ⟨c, now⟩) h .clear

/-- A step leaves a cache that can keep nothing as empty as it was. -/
theorem Moment.entries_next_of_disabled (hdisabled : m.cache.limits.isDisabled = true)
    (h : m.cache.entries = []) (step : Step) : (m.next step).cache.entries = [] := by
  cases step with
  | wait span => exact h
  | get key => exact (entries_get_of_disabled hdisabled).trans h
  | insert key outcome => exact (congrArg entries (insert_of_disabled hdisabled outcome)).trans h
  | invalidate id => simp [Moment.next, Cache.invalidate, h]
  | clear => rfl

/-- A run leaves a cache that can keep nothing as empty as it was. -/
theorem Moment.entries_run_of_disabled (hdisabled : m.cache.limits.isDisabled = true)
    (h : m.cache.entries = []) (steps : List Step) : (m.run steps).cache.entries = [] := by
  induction steps generalizing m with
  | nil => exact h
  | cons step steps ih =>
    exact ih (by rwa [limits_next]) (entries_next_of_disabled hdisabled h step)

/-- A cache that can keep nothing and that a run leads to has no entries. -/
theorem Reached.entries_of_disabled (h : c.Reached now)
    (hdisabled : c.limits.isDisabled = true) : c.entries = [] := by
  obtain ⟨start, steps, hrun⟩ := h
  have hentries : (Moment.run ⟨.empty c.limits, start⟩ steps).cache.entries = [] :=
    Moment.entries_run_of_disabled hdisabled rfl steps
  rwa [hrun] at hentries

/-- A cache that a run leads to has one entry at most under each key. -/
theorem Reached.distinct (h : c.Reached now) : (c.entries.map (·.key)).Nodup := by
  cases hdisabled : c.limits.isDisabled with
  | true => simp [h.entries_of_disabled hdisabled]
  | false =>
    obtain ⟨start, steps, hrun⟩ := h
    have horder := Moment.inOrder_run_empty hdisabled start steps
    rw [hrun] at horder
    exact horder.distinct

/-! ## What a look-up loses -/

/-- From one cache to the other no entry is gained, and only entries are lost that are expired at
the time `now`. -/
structure LosesOnlyExpired (now : Nat) (c c' : Cache) : Prop where
  limits : c'.limits = c.limits
  old : ∀ e ∈ c'.entries, e ∈ c.entries
  kept : ∀ e ∈ c.entries, e.isExpired c.limits now = false → e ∈ c'.entries

/-- Between caches with the same entries nothing is lost. -/
theorem losesOnlyExpired_of_entries_eq (hlimits : c'.limits = c.limits)
    (hentries : c'.entries = c.entries) : LosesOnlyExpired now c c' :=
  ⟨hlimits, fun _ he => hentries ▸ he, fun _ he _ => hentries.symm ▸ he⟩

/-- What loses only expired entries twice in sequence loses only expired ones. -/
theorem LosesOnlyExpired.trans (h : LosesOnlyExpired now c c')
    (h' : LosesOnlyExpired now c' c'') : LosesOnlyExpired now c c'' where
  limits := h'.limits.trans h.limits
  old e he := h.old e (h'.old e he)
  kept e he hfresh := h'.kept e (h.kept e he hfresh) (by rwa [h.limits])

/-- A look-up loses no entry that has not expired. -/
theorem Reached.losesOnlyExpired_get (h : c.Reached now) (key : CacheKey) :
    LosesOnlyExpired now c (c.get now key).2 where
  limits := limits_get
  old _ he := mem_of_mem_get he
  kept _ he hfresh := mem_get_of_mem h.distinct he hfresh key

/-- Where a look-up misses, what there was under the key is expired. -/
theorem Reached.isExpired_of_miss (h : c.Reached now) (hmiss : (c.get now key).1 = none)
    (he : e ∈ c.entries) (hkey : e.key = key) : e.isExpired c.limits now = true := by
  cases hdisabled : c.limits.isDisabled with
  | true => simp [h.entries_of_disabled hdisabled] at he
  | false =>
    by_contra hfresh
    have hhit := get_of_mem h.distinct hdisabled he (Bool.eq_false_iff.2 hfresh)
    rw [hkey, hmiss] at hhit
    cases hhit

/-- After a look-up that misses there is nothing under the key. -/
theorem Reached.key_ne_of_miss (h : c.Reached now) (hmiss : (c.get now key).1 = none)
    (he : e ∈ (c.get now key).2.entries) : e.key ≠ key := by
  cases hdisabled : c.limits.isDisabled with
  | true =>
    have hnone := (h.get key).entries_of_disabled (by rwa [limits_get])
    simp [hnone] at he
  | false =>
    rw [entries_get_of_miss hdisabled hmiss] at he
    exact (mem_others.1 he).2

/-- An insertion after a look-up that misses leaves the entries that it leaves without the
look-up. -/
theorem entries_insert_of_miss (hmiss : (c.get now key).1 = none) (outcome : Outcome) :
    ((c.get now key).2.insert now key outcome).entries = (c.insert now key outcome).entries := by
  cases hdisabled : c.limits.isDisabled with
  | true =>
    rw [insert_of_disabled (by rwa [limits_get]), insert_of_disabled hdisabled,
      entries_get_of_disabled hdisabled]
  | false =>
    have hothers : (c.get now key).2.others key = c.others key := by
      simp [others, entries_get_of_miss hdisabled hmiss]
    rw [entries_insert (by rwa [limits_get]), entries_insert hdisabled, limits_get, hothers]

end Cache

/-! ## Services -/

namespace Service

variable {service : Service} {now : Nat}

/-- If the service has a cache, a run of a cache leads to it. -/
def Orderly (now : Nat) (service : Service) : Prop :=
  ∀ c, service.cache = some c → c.Reached now

/-- A service stays orderly if its cache is changed in a way that continues runs. -/
theorem Orderly.mapCache {later : Nat} {f : Cache → Cache} (h : service.Orderly now)
    (hf : ∀ c : Cache, c.Reached now → (f c).Reached later) :
    (service.mapCache f).Orderly later := by
  intro c hc
  obtain ⟨old, hold, rfl⟩ := Option.map_eq_some_iff.1 hc
  exact hf old (h old hold)

/-- Looking up an outcome keeps a service orderly. -/
theorem Orderly.outcomeFor (h : service.Orderly now) (store : Store) (id : Identifier)
    (agent : String) : ((outcomeFor store now id agent).after service).Orderly now := by
  rcases after_outcomeFor_cases store now id agent service with
    hafter | ⟨-, c, hc, hafter | ⟨outcome, -, hafter⟩⟩
  · rwa [hafter]
  · rw [hafter]
    rintro c' hc'
    obtain rfl := Option.some.inj hc'
    exact (h c hc).get ⟨id, agent⟩
  · rw [hafter]
    rintro c' hc'
    obtain rfl := Option.some.inj hc'
    exact ((h c hc).get ⟨id, agent⟩).insert ⟨id, agent⟩ outcome

/-- Asking for the modes of a session keeps a service orderly. -/
theorem Orderly.authorizedModes (h : service.Orderly now) (store : Store) (id : Identifier)
    (session : Session) : ((authorizedModes store now id session).after service).Orderly now := by
  have hown := h.outcomeFor store id session.agent
  rw [after_authorizedModes]
  split
  · exact h
  · split
    · exact hown.outcomeFor store id _
    · exact hown

namespace Moment

variable {σ : Type} {view : σ → Store}

/-- Each step keeps a service orderly. -/
theorem orderly_next {m : Moment σ} (h : m.service.Orderly m.now) (step : Step σ) :
    (m.next view step).service.Orderly (m.next view step).now := by
  cases step with
  | wait span => exact fun c hc => (h c hc).wait span
  | change world => exact h
  | authorized id session => exact h.authorizedModes _ id session
  | access id session =>
    simpa only [next, after_accessModes] using h.authorizedModes _ id session
  | check id session method target =>
    simpa only [next, after_check] using h.authorizedModes _ id session
  | invalidate id => exact h.mapCache fun _ hc => hc.invalidate id
  | clear => exact h.mapCache fun _ hc => hc.clear
  | giveRules write =>
    simp only [next, after_ensureRootRules]
    split
    · exact h.mapCache fun _ hc => hc.invalidate _
    · exact h

/-- Each run keeps a service orderly. -/
theorem orderly_run {m : Moment σ} (h : m.service.Orderly m.now) (steps : List (Step σ)) :
    (m.run view steps).service.Orderly (m.run view steps).now := by
  induction steps generalizing m with
  | nil => exact h
  | cons step steps ih => exact ih (orderly_next h step)

/-- A service that starts with an empty cache has one as a run of a cache leaves it. -/
theorem reached_run (view : σ → Store) (config : ServiceConfig) (limits : CacheLimits) (world : σ)
    (now : Nat) (steps : List (Step σ)) :
    let last := run view ⟨.new config (some (.empty limits)), world, now⟩ steps
    ∃ c, last.service.cache = some c ∧ c.limits = limits ∧ c.Reached last.now := by
  intro last
  have hstart : (new config (some (.empty limits))).Orderly now := by
    intro c hc
    obtain rfl := Option.some.inj hc
    exact Cache.reached_empty limits now
  have hlimits : last.service.limits? = some limits := limits?_run _ steps
  obtain ⟨c, hc, rfl⟩ := Option.map_eq_some_iff.1 hlimits
  exact ⟨c, hc, rfl, orderly_run hstart steps c hc⟩

end Moment

end Service

end WebAccess
