import WebAccess.Proofs.NearestRules
import WebAccess.Proofs.ServiceRun

/-!
# How far a cache may lag behind the store

A service with a cache may answer from a store that is gone. How long ago the store was there is
bounded by the time to live, and dropping the outcomes of a resource forgets what was resolved for
it before: `Service.lag_at_most_time_to_live`. Faults are never remembered, so a fault is that of
the store as it is. On a store that does not change nobody can tell whether there is a cache.
-/

set_option autoImplicit false

namespace WebAccess.Service

variable {σ : Type} {view : σ → Store}

/-- The outcome is what resolution yielded for the resource and the agent at a moment of the run
that is at most `age` older than its end; since then the resource was not dropped. -/
def ResolvedWithin (view : σ → Store) (start : Moment σ) (steps : List (Step σ)) (age : Duration)
    (id : Identifier) (agent : String) (outcome : Outcome) : Prop :=
  ∃ before after, steps = before ++ after ∧
    (start.run view before).now ≤ (start.run view steps).now ∧
    (start.run view steps).now ≤ (start.run view before).now + age ∧
    (start.run view before).Keeps view id after ∧
    (((start.run view before).store view).resolve start.service.config.anonymous id agent).answer =
      .ok outcome

/-- The calls for a session answer what the look-ups amount to. -/
structure AnswersFrom (m : Moment σ) (store : Store) (id : Identifier) (session : Session)
    (looked : List (String × Except Stop Outcome)) : Prop where
  authorized : (authorizedModes store m.now id session).answer m.service = narrowed looked
  /-- The modes are those of the outcome. -/
  access : (accessModes store m.now id session).answer m.service =
    narrowed looked >>= fun outcome => .ok outcome.modes
  /-- A request is decided by the modes of the outcome. -/
  check : ∀ method target, (check store m.now id session method target).answer m.service =
    narrowed looked >>= fun outcome =>
      .ok <| Decision.evaluate (requiredModes method target) outcome.modes
        (m.service.config.isAnonymous session.agent)

/-- The calls for a session answer what its look-ups amount to. -/
theorem answersFrom_lookups (m : Moment σ) (store : Store) (id : Identifier) (session : Session) :
    AnswersFrom m store id session (lookups store m.now id session m.service) where
  authorized := answer_authorizedModes store m.now id session m.service
  access := by rw [answer_accessModes, answer_authorizedModes]
  check method target := by rw [answer_check, answer_authorizedModes]

/-- Look-ups go to the service as it is, or as the look-up before has left it. -/
theorem exists_of_mem_lookups {store : Store} {now : Nat} {id : Identifier} {session : Session}
    {service : Service} {agent : String} {answer : Except Stop Outcome}
    (h : (agent, answer) ∈ lookups store now id session service) :
    ∃ service', Grown store now service service' ∧
      answer = (outcomeFor store now id agent).answer service' := by
  unfold lookups at h
  split at h
  · simp at h
  · rcases List.mem_cons.1 h with hown | hdelegate
    · obtain ⟨rfl, rfl⟩ := Prod.mk.inj hown
      exact ⟨service, .refl store now service, rfl⟩
    · split at hdelegate
      · obtain ⟨rfl, rfl⟩ := Prod.mk.inj (List.mem_singleton.1 hdelegate)
        exact ⟨_, grown_outcomeFor store now id session.agent service, rfl⟩
      · simp at hdelegate

section Run

variable {start : Moment σ} {steps : List (Step σ)}

/-- What resolution yields at the end of a run was resolved within it. -/
theorem resolvedWithin_now {age : Duration} {id : Identifier} {agent : String} {outcome : Outcome}
    (h : (((start.run view steps).store view).resolve start.service.config.anonymous id
      agent).answer = .ok outcome) :
    ResolvedWithin view start steps age id agent outcome :=
  ⟨steps, [], (List.append_nil steps).symm, Nat.le_refl _, Nat.le_add_right _ _, trivial, h⟩

/-- Where a run starts with an empty cache, what is remembered after it, or while its last moment
is being answered, was resolved in it. -/
theorem resolvedWithin_of_holds {service' : Service} {e : CacheEntry} {age : Duration}
    (hempty : ∀ e, ¬start.service.Holds e)
    (hg : Grown ((start.run view steps).store view) (start.run view steps).now
      (start.run view steps).service service')
    (he : service'.Holds e) (hage : (start.run view steps).now ≤ e.created + age) :
    start.service.config.isAdministrator e.key.agent = false ∧
      ResolvedWithin view start steps age e.key.identifier e.key.agent e.outcome := by
  have hconfig : (start.run view steps).service.config = start.service.config :=
    Moment.config_run start steps
  rcases hg.entries e he with hlast | ⟨hordinary, -, hresolved⟩
  · rcases Moment.holds_run hlast with ⟨hold, -⟩ | ⟨before, after, rfl, hfresh, hkeeps⟩
    · exact absurd hold (hempty e)
    · have hnow := hfresh.created
      refine ⟨hfresh.ordinary, before, after, rfl, ?_, by omega, hkeeps, hfresh.resolved⟩
      rw [Moment.run_append]
      exact Moment.now_le_run _ after
  · rw [hconfig] at hordinary hresolved
    exact ⟨hordinary, resolvedWithin_now hresolved⟩

/-- An outcome that is looked up after a run was resolved in it, and not longer ago than the time
to live; a fault is that of the store as it is. -/
theorem answer_after_run {limits : CacheLimits} {service' : Service} {id : Identifier}
    {agent : String} (hempty : ∀ e, ¬start.service.Holds e)
    (hlimits : start.service.limits? = some limits)
    (hg : Grown ((start.run view steps).store view) (start.run view steps).now
      (start.run view steps).service service')
    (h : start.service.config.isAdministrator agent = false) :
    let answer := (outcomeFor ((start.run view steps).store view) (start.run view steps).now id
      agent).answer service'
    (∀ outcome, answer = .ok outcome →
        ResolvedWithin view start steps limits.timeToLive id agent outcome) ∧
      (∀ stop, answer = .error stop →
        (((start.run view steps).store view).resolve start.service.config.anonymous id
          agent).answer = .error stop) := by
  have hconfig : service'.config = start.service.config :=
    hg.config.trans (Moment.config_run start steps)
  have hsame : service'.limits? = some limits :=
    hg.limits.trans ((Moment.limits?_run start steps).trans hlimits)
  rcases answer_outcomeFor (hconfig ▸ h) with hresolved | ⟨e, l, he, hkey, hl, hage, hhit⟩
  · refine ⟨fun outcome ho => ?_, fun stop hs => ?_⟩
    · refine resolvedWithin_now ?_
      rw [← hconfig, ← hresolved, ho]
    · rw [← hconfig, ← hresolved, hs]
  · refine ⟨fun outcome ho => ?_, fun stop hs => ?_⟩
    · obtain rfl := Except.ok.inj (hhit.symm.trans ho)
      obtain rfl := Option.some.inj (hl.symm.trans hsame)
      have hwithin := (resolvedWithin_of_holds hempty hg he hage).2
      rwa [hkey] at hwithin
    · exact absurd (hhit.symm.trans hs) (by simp)

end Run

/-- After any run that starts with an empty cache: the look-ups from which the calls for a session
answer yield outcomes that were resolved no longer ago than the time to live, and faults that the
store has now; what is remembered was resolved, unnarrowed, for an agent that is no administrator;
and if the store stayed what it is, every step is answered as by the service without a cache that
has gone through the same run. -/
theorem lag_at_most_time_to_live (view : σ → Store) (config : ServiceConfig) (limits : CacheLimits)
    (world : σ) (now : Nat) (steps : List (Step σ)) :
    let start : Moment σ := ⟨.new config (some (.empty limits)), world, now⟩
    let last := start.run view steps
    (∀ id session,
      let looked := lookups (last.store view) last.now id session last.service
      AnswersFrom last (last.store view) id session looked ∧
        ∀ agent answer, (agent, answer) ∈ looked → config.isAdministrator agent = false →
          (∀ outcome, answer = .ok outcome →
            ResolvedWithin view start steps limits.timeToLive id agent outcome) ∧
          (∀ stop, answer = .error stop →
            ((last.store view).resolve config.anonymous id agent).answer = .error stop)) ∧
      (∀ e, last.service.Holds e → config.isAdministrator e.key.agent = false ∧
        ResolvedWithin view start steps (last.now - e.created) e.key.identifier e.key.agent
          e.outcome) ∧
      (start.Steady view steps → ∀ step,
        last.reply view step = (start.uncached.run view steps).reply view step) := by
  intro start last
  have hempty : ∀ e, ¬start.service.Holds e := by
    intro e he
    simpa using (holds_iff rfl).1 he
  refine ⟨fun id session => ⟨answersFrom_lookups last _ id session, ?_⟩, fun e he => ?_,
    fun hsteady step => ?_⟩
  · intro agent answer hmem hordinary
    obtain ⟨service', hg, rfl⟩ := exists_of_mem_lookups hmem
    exact answer_after_run hempty rfl hg hordinary
  · have hage : last.now ≤ e.created + (last.now - e.created) := by omega
    exact resolvedWithin_of_holds hempty (.refl _ _ _) he hage
  · rw [Moment.uncached_run]
    refine Moment.reply_eq_uncached (Moment.faithful_run ?_ hsteady) step
    exact fun e he => absurd he (hempty e)

/-- A world in which the store with the group is there or has been emptied. -/
def emptiedWorld : Bool → Store
  | true => Store.staffStore.toStore
  | false => (Overlay.ofMemory ∅).toStore

/-- What `alice` may do is asked, and five seconds pass. -/
def questionAndWait : List (Step Bool) :=
  [.authorized "/a/b/c" (.new "alice"), .wait (.ofSeconds 5)]

/-- The answer for `alice` outlives the store by no more than the time to live; up to the change
nothing tells the service from one without a cache. -/
theorem alice_remembered_after_emptying :
    let start : Moment Bool := ⟨.new plainConfig (some (.empty .default)), true, 0⟩
    let steps := questionAndWait ++ [.change false]
    let last := start.run emptiedWorld steps
    let outcome : Outcome := ⟨some "/a", .ofList [.read]⟩
    lookups (last.store emptiedWorld) last.now "/a/b/c" (.new "alice") last.service =
        [("alice", .ok outcome)] ∧
      ((last.store emptiedWorld).resolve "nobody" "/a/b/c" "alice").answer = .ok .denied ∧
      ResolvedWithin emptiedWorld start steps CacheLimits.default.timeToLive "/a/b/c" "alice"
        outcome ∧
      ∀ step, (start.run emptiedWorld questionAndWait).reply emptiedWorld step =
        (start.uncached.run emptiedWorld questionAndWait).reply emptiedWorld step := by
  intro start steps last outcome
  have hlookups : lookups (last.store emptiedWorld) last.now "/a/b/c" (.new "alice") last.service =
      [("alice", .ok outcome)] := by cbv
  have hdenied : ((last.store emptiedWorld).resolve "nobody" "/a/b/c" "alice").answer =
      .ok .denied := by cbv
  have hsteady : start.Steady emptiedWorld questionAndWait := by
    intro before hbefore
    simp only [questionAndWait, List.prefix_cons_iff, List.prefix_nil] at hbefore
    rcases hbefore with rfl | ⟨_, rfl, rfl | ⟨_, rfl, rfl⟩⟩ <;> rfl
  obtain ⟨hcalls, -, -⟩ := lag_at_most_time_to_live emptiedWorld plainConfig .default true 0 steps
  obtain ⟨-, -, hreplies⟩ :=
    lag_at_most_time_to_live emptiedWorld plainConfig .default true 0 questionAndWait
  obtain ⟨-, hlooked⟩ := hcalls "/a/b/c" (.new "alice")
  have hmem : ("alice", .ok outcome) ∈
      lookups (last.store emptiedWorld) last.now "/a/b/c" (.new "alice") last.service := by
    rw [hlookups]
    exact List.mem_singleton_self _
  exact ⟨hlookups, hdenied, (hlooked "alice" _ hmem (by cbv)).1 outcome rfl, hreplies hsteady⟩

end WebAccess.Service
