import WebAccess.Proofs.CacheUse
import WebAccess.Proofs.Staleness

/-!
# Calls that fail

A call for a session stops at the first of its agents for whom resolution fails, and that is never
one whose outcome is remembered: it was looked up and missed (`Service.outcomeFor_eq_error`). The
look-up leaves nothing under its key, and nothing is inserted for it. Where the delegate is the one,
the outcome of the agent of the session is in hand; if it had to be resolved it has been inserted,
so the call stops half done (`Service.exists_stopsAt`).

Main statement: after any run, such a call changes neither the world nor, apart from that one
insertion, what is remembered, and repeating it on whatever the store has become resolves the
outcome that was missing (`Service.failed_call_is_forgotten`).
-/

set_option autoImplicit false

namespace WebAccess

open Call

namespace Service

variable {store : Store} {now : Nat} {id : Identifier} {agent : String} {session : Session}
  {service : Service} {c c' : Cache} {stop : Stop} {outcome : Outcome}

/-! ## Where a call stops -/

/-- A look-up that stops has missed, and resolution fails; nothing is inserted. -/
theorem outcomeFor_eq_error (hc : service.cache = some c) (hreached : c.Reached now)
    (h : (outcomeFor store now id agent).answer service = .error stop) :
    service.config.isAdministrator agent = false ∧
      (store.resolve service.config.anonymous id agent).answer = .error stop ∧
      ∃ c', (outcomeFor store now id agent).after service = { service with cache := some c' } ∧
        (∀ e ∈ c'.entries, e.key ≠ ⟨id, agent⟩) ∧ c.LosesOnlyExpired now c' := by
  rcases hordinary : service.config.isAdministrator agent with _ | _
  · rcases hg : (c.get now ⟨id, agent⟩).1 with _ | outcome
    · have hfailed := (outcomeFor_of_miss hordinary hc hg).1.symm.trans h
      refine ⟨rfl, hfailed, (c.get now ⟨id, agent⟩).2, ?_, ?_, hreached.losesOnlyExpired_get _⟩
      · rw [(outcomeFor_of_miss hordinary hc hg).2, hfailed]
      · exact fun _ he => hreached.key_ne_of_miss hg he
    · cases (outcomeFor_of_hit hordinary hc hg).1.symm.trans h
  · cases (outcomeFor_of_administrator hordinary).1.symm.trans h

/-- The outcome was not remembered any more and has been resolved, and `c'` is what its insertion
makes of `c`, up to expired entries. -/
def Inserted (store : Store) (now : Nat) (config : ServiceConfig) (id : Identifier)
    (agent : String) (outcome : Outcome) (c c' : Cache) : Prop :=
  (∀ e ∈ c.entries, e.key = ⟨id, agent⟩ → e.isExpired c.limits now = true) ∧
    (store.resolve config.anonymous id agent).answer = .ok outcome ∧
    (c.insert now ⟨id, agent⟩ outcome).LosesOnlyExpired now c'

/-- A look-up that succeeds has found its outcome or inserted it. -/
theorem outcomeFor_eq_ok (hordinary : service.config.isAdministrator agent = false)
    (hc : service.cache = some c) (hreached : c.Reached now)
    (h : (outcomeFor store now id agent).answer service = .ok outcome) :
    ∃ c', (outcomeFor store now id agent).after service = { service with cache := some c' } ∧
      c'.Reached now ∧
      (c.LosesOnlyExpired now c' ∨ Inserted store now service.config id agent outcome c c') := by
  have hget := hreached.get ⟨id, agent⟩
  rcases hg : (c.get now ⟨id, agent⟩).1 with _ | found
  · have hresolved := (outcomeFor_of_miss hordinary hc hg).1.symm.trans h
    refine ⟨_, ?_, hget.insert ⟨id, agent⟩ outcome, .inr ⟨?_, hresolved, ?_⟩⟩
    · rw [(outcomeFor_of_miss hordinary hc hg).2, hresolved]
    · exact fun _ he hkey => hreached.isExpired_of_miss hg he hkey
    · exact Cache.losesOnlyExpired_of_entries_eq (by simp) (Cache.entries_insert_of_miss hg outcome)
  · exact ⟨_, (outcomeFor_of_hit hordinary hc hg).2, hget, .inl (hreached.losesOnlyExpired_get _)⟩

/-- A call stops where the look-up for the agent of the session does, or that for the delegate. -/
theorem authorizedModes_eq_error
    (h : (authorizedModes store now id session).answer service = .error stop) :
    service.config.isAdministrator session.agent = false ∧
      (((outcomeFor store now id session.agent).answer service = .error stop ∧
          (authorizedModes store now id session).after service =
            (outcomeFor store now id session.agent).after service) ∨
        ∃ delegate outcome, session.delegate = some delegate ∧
          (outcomeFor store now id session.agent).answer service = .ok outcome ∧
          (outcomeFor store now id delegate).answer
            ((outcomeFor store now id session.agent).after service) = .error stop ∧
          (authorizedModes store now id session).after service =
            (outcomeFor store now id delegate).after
              ((outcomeFor store now id session.agent).after service)) := by
  rw [answer_authorizedModes] at h
  rw [after_authorizedModes]
  rcases hordinary : service.config.isAdministrator session.agent with _ | _
  · refine ⟨rfl, ?_⟩
    rcases hown : (outcomeFor store now id session.agent).answer service with stop' | outcome
    · left
      rcases hd : session.delegate with _ | delegate <;>
        simpa [lookups, narrowed, hordinary, hown, hd] using h
    · right
      rcases hd : session.delegate with _ | delegate
      · simp [lookups, narrowed, hordinary, hown, hd] at h
      · refine ⟨delegate, outcome, rfl, rfl, ?_, by simp⟩
        rcases hother : (outcomeFor store now id delegate).answer
            ((outcomeFor store now id session.agent).after service) with stop' | other
        · simpa [lookups, narrowed, hordinary, hown, hd, hother] using h
        · simp [lookups, narrowed, hordinary, hown, hd, hother] at h
  · simp [lookups, narrowed, hordinary] at h

/-- A call for a session, on a service with the cache `c`, stops at the agent and leaves the cache
`c'`. -/
structure StopsAt (store : Store) (now : Nat) (config : ServiceConfig) (id : Identifier)
    (session : Session) (stop : Stop) (agent : String) (c c' : Cache) : Prop where
  asked : agent = session.agent ∨ session.delegate = some agent
  /-- Neither is an administrator. -/
  ordinary : config.isAdministrator session.agent = false ∧ config.isAdministrator agent = false
  failed : (store.resolve config.anonymous id agent).answer = .error stop
  /-- Nothing is remembered under the key of what failed. -/
  forgotten : ∀ e ∈ c'.entries, e.key ≠ ⟨id, agent⟩
  /-- All that may be gained is the outcome of the agent of the session, if it is for the delegate
  that resolution fails. -/
  entries : c.LosesOnlyExpired now c' ∨
    session.delegate = some agent ∧
      ∃ outcome, Inserted store now config id session.agent outcome c c'

/-- A call that stops does so for one of the agents of the session. -/
theorem exists_stopsAt (hc : service.cache = some c) (hreached : c.Reached now)
    (h : (authorizedModes store now id session).answer service = .error stop) :
    ∃ agent c', (authorizedModes store now id session).after service =
        { service with cache := some c' } ∧
      StopsAt store now service.config id session stop agent c c' := by
  obtain ⟨hordinary, ⟨hstop, hafter⟩ | ⟨delegate, outcome, hdelegate, hown, hstop, hafter⟩⟩ :=
    authorizedModes_eq_error h
  · obtain ⟨-, hfailed, c', hc', hforgotten, hkept⟩ := outcomeFor_eq_error hc hreached hstop
    exact ⟨session.agent, c', hafter.trans hc', .inl rfl, ⟨hordinary, hordinary⟩, hfailed,
      hforgotten, .inl hkept⟩
  · -- The delegate is looked up in the cache that the first look-up has left.
    obtain ⟨c₁, hc₁, hreached₁, hentries⟩ := outcomeFor_eq_ok hordinary hc hreached hown
    rw [hafter]
    rw [hc₁] at hstop ⊢
    obtain ⟨hother, hfailed, c', hc', hforgotten, hkept⟩ := outcomeFor_eq_error rfl hreached₁ hstop
    refine ⟨delegate, c', hc', .inr hdelegate, ⟨hordinary, hother⟩, hfailed, hforgotten, ?_⟩
    rcases hentries with hfound | ⟨hexpired, hresolved, hinserted⟩
    · exact .inl (hfound.trans hkept)
    · exact .inr ⟨hdelegate, outcome, hexpired, hresolved, hinserted.trans hkept⟩

/-! ## Repeating the call -/

/-- If the look-up for the agent of a session succeeds, each agent of the session is looked up. -/
theorem exists_mem_lookups (service : Service)
    (hordinary : service.config.isAdministrator session.agent = false)
    (hown : (outcomeFor store now id session.agent).answer service = .ok outcome)
    (hasked : agent = session.agent ∨ session.delegate = some agent) :
    ∃ answer, (agent, answer) ∈ lookups store now id session service := by
  rw [lookups, hordinary, if_neg Bool.false_ne_true]
  rcases hasked with rfl | hdelegate
  · exact ⟨_, List.mem_cons_self⟩
  · simp only [hdelegate, hown]
    exact ⟨_, List.mem_cons_of_mem _ (List.mem_singleton_self _)⟩

/-- A session that is not delegated has only its own agent looked up. -/
theorem lookups_of_no_delegate (service : Service)
    (hordinary : service.config.isAdministrator session.agent = false)
    (hdelegate : session.delegate = none) :
    lookups store now id session service =
      [(session.agent, (outcomeFor store now id session.agent).answer service)] := by
  simp [lookups, hordinary, hdelegate]

/-- Where resolution gives an outcome for an agent, so does the look-up for it. -/
theorem exists_answer_of_resolve (service : Service)
    (hordinary : service.config.isAdministrator agent = false)
    (h : (store.resolve service.config.anonymous id agent).answer = .ok outcome) :
    ∃ outcome, (outcomeFor store now id agent).answer service = .ok outcome := by
  rcases answer_outcomeFor hordinary with hresolved | ⟨e, -, -, -, -, -, hhit⟩
  · exact ⟨outcome, hresolved.trans h⟩
  · exact ⟨e.outcome, hhit⟩

/-- What is not remembered is looked up by resolving it. -/
theorem answer_of_mem_lookups (service : Service) {answer : Except Stop Outcome}
    (hordinary : service.config.isAdministrator agent = false)
    (hforgotten : ∀ e, service.Holds e → e.key ≠ ⟨id, agent⟩)
    (h : (agent, answer) ∈ lookups store now id session service) :
    answer = (store.resolve service.config.anonymous id agent).answer := by
  obtain ⟨service', hg, rfl⟩ := exists_of_mem_lookups h
  rw [← hg.config] at hordinary ⊢
  rcases answer_outcomeFor hordinary with hresolved | ⟨e, -, he, hkey, -, -, hhit⟩
  · exact hresolved
  · -- A hit can only be an entry that the look-up before has made.
    rcases hg.entries e he with hold | hfresh
    · exact absurd hkey (hforgotten e hold)
    · have hresolved := hfresh.resolved
      rw [hkey, ← hg.config] at hresolved
      exact hhit.trans hresolved.symm

/-- After a call has stopped at an agent, that agent is looked up on the store as it is then. -/
theorem StopsAt.lookups_again {config : ServiceConfig}
    (h : StopsAt store now config id session stop agent c c') (store' : Store) (later : Nat) :
    let looked := lookups store' later id session ⟨config, some c'⟩
    let answer := (store'.resolve config.anonymous id agent).answer
    (∀ other, (agent, other) ∈ looked → other = answer) ∧
      (session.delegate = none → looked = [(agent, answer)]) ∧
      ∀ outcome, (store'.resolve config.anonymous id session.agent).answer = .ok outcome →
        (agent, answer) ∈ looked := by
  intro looked answer
  have hforgotten : ∀ e, (⟨config, some c'⟩ : Service).Holds e → e.key ≠ ⟨id, agent⟩ := by
    intro e he
    exact h.forgotten e ((holds_iff rfl).1 he)
  have hanswer : ∀ other, (agent, other) ∈ looked → other = answer := by
    intro other hmem
    exact answer_of_mem_lookups ⟨config, some c'⟩ h.ordinary.2 hforgotten hmem
  refine ⟨hanswer, fun hdelegate => ?_, fun outcome hresolved => ?_⟩
  · obtain rfl : agent = session.agent := h.asked.resolve_right (by simp [hdelegate])
    have hlooked : looked = _ := lookups_of_no_delegate ⟨config, some c'⟩ h.ordinary.1 hdelegate
    have hown := hanswer _ (by rw [hlooked]; exact List.mem_singleton_self _)
    rw [hlooked, hown]
  · obtain ⟨found, hfound⟩ := exists_answer_of_resolve ⟨config, some c'⟩ h.ordinary.1 hresolved
    obtain ⟨other, hmem⟩ := exists_mem_lookups ⟨config, some c'⟩ h.ordinary.1 hfound h.asked
    rwa [hanswer other hmem] at hmem

/-! ## Runs -/

/-- Why the call of a step stopped, if it did. -/
def Reply.stop? : Reply → Option Stop
  | .outcome (.error stop) | .modes (.error stop) | .decision (.error stop)
  | .written (.error stop) => some stop
  | _ => .none

namespace Moment

variable {σ : Type} {view : σ → Store} {step : Step σ}

/-- A step that asks about a session changes the service as asking for the modes does, and nothing
else. -/
theorem next_of_question (m : Moment σ) (h : step.question? = some (id, session)) :
    m.next view step =
      { m with service := (authorizedModes (m.store view) m.now id session).after m.service } := by
  cases step <;> cases h <;> simp [next]

/-- A step that asks about a session and stops has stopped, for the same reason, where it asks for
the modes. -/
theorem answer_of_stop {m : Moment σ} (h : step.question? = some (id, session))
    (hstop : (m.reply view step).stop? = some stop) :
    (authorizedModes (m.store view) m.now id session).answer m.service = .error stop := by
  rcases hanswer : (authorizedModes (m.store view) m.now id session).answer m.service with
    stop' | outcome
  · cases step <;> cases h <;> simpa [reply, answer_check, hanswer, Reply.stop?] using hstop
  · cases step <;> cases h <;> simp [reply, answer_check, hanswer, Reply.stop?] at hstop

end Moment

/-- After any run that starts with an empty cache, a call for a session that stops changes neither
the world nor the configuration. It stops at one of the agents of the session, for whom resolution
fails, and leaves nothing under the key of that; all other entries stay as they are, up to expired
ones and to the insertion of what was resolved before. Whatever the world has become and however
much later, the calls for the session answer from look-ups in which that agent gets what resolution
yields then. It is the only one looked up where there is no delegate, and is among those looked up
where resolution succeeds for the agent of the session. -/
theorem failed_call_is_forgotten {σ : Type} (view : σ → Store) (config : ServiceConfig)
    (limits : CacheLimits) (world : σ) (now : Nat) (steps : List (Step σ)) {step : Step σ}
    (hasks : step.question? = some (id, session))
    (hstops : ((Moment.run view ⟨.new config (some (.empty limits)), world, now⟩ steps).reply view
      step).stop? = some stop) :
    let start : Moment σ := ⟨.new config (some (.empty limits)), world, now⟩
    let last := start.run view steps
    let failed := last.next view step
    failed.world = last.world ∧ ∃ agent c c',
      last.service = ⟨config, some c⟩ ∧ failed.service = ⟨config, some c'⟩ ∧
      StopsAt (last.store view) last.now config id session stop agent c c' ∧
      ∀ world' later,
        let again : Moment σ := ⟨failed.service, world', later⟩
        let looked := lookups (again.store view) later id session failed.service
        let answer := ((again.store view).resolve config.anonymous id agent).answer
        AnswersFrom again (again.store view) id session looked ∧
        (∀ other, (agent, other) ∈ looked → other = answer) ∧
        (session.delegate = none → looked = [(agent, answer)]) ∧
        ∀ outcome,
          ((again.store view).resolve config.anonymous id session.agent).answer = .ok outcome →
          (agent, answer) ∈ looked := by
  intro start last failed
  obtain ⟨c, hc, -, hreached⟩ := Moment.reached_run view config limits world now steps
  have hconfig : last.service.config = config := Moment.config_run start steps
  have hnext : failed = _ := last.next_of_question hasks
  obtain ⟨agent, c', hafter, hstop⟩ :=
    exists_stopsAt hc hreached (Moment.answer_of_stop hasks hstops)
  rw [hconfig] at hafter hstop
  have hlast : last.service = ⟨config, some c⟩ := by rw [← hconfig, ← hc]
  have hfailed : failed.service = ⟨config, some c'⟩ := by
    rw [hnext]
    exact hafter
  refine ⟨by rw [hnext], agent, c, c', hlast, hfailed, hstop, ?_⟩
  intro world' later again looked answer
  refine ⟨answersFrom_lookups again (again.store view) id session, ?_⟩
  simp only [looked, hfailed]
  exact hstop.lookups_again (again.store view) later

/-- `alice` may read what is below `/`, and so may the members of a team. -/
def aliceAndTeam : Rdf.Graph :=
  Rdf.Graph.ofList
    [⟨.blank "rule", Vocab.default.iri, .iri "/"⟩,
      ⟨.blank "rule", Vocab.agent.iri, .iri "alice"⟩,
      ⟨.blank "rule", Vocab.agentGroup.iri, .iri "/team#x"⟩,
      ⟨.blank "rule", Vocab.mode.iri, .iri Mode.read.iri⟩]

/-- A world in which the team, whose member is `bob`, can be read or not. -/
def teamWorld (readable : Bool) : Store :=
  Overlay.toStore
    { Overlay.ofMemory <|
        (Memory.empty.put ⟨"/", ∅, some aliceAndTeam⟩).put
          ⟨"/team", Rdf.Graph.ofList [⟨.iri "/team#x", Vocab.hasMember.iri, .iri "bob"⟩], none⟩
      with readFaults := if readable then [] else [("/team", "offline")] }

/-- While the team cannot be read, what `alice` may do for `bob` is unknown. Her own outcome is
remembered, in place of the one that filled the cache; his is not, and is there when the team is
back. -/
theorem failed_for_bob_until_team_is_back :
    let start : Moment Bool := ⟨.new plainConfig (some (.empty ⟨1, .ofSeconds 10⟩)), false, 0⟩
    let session := (Session.new "alice").delegatedBy "bob"
    let last := start.run teamWorld [.authorized "/a" (.new "alice"), .wait (.ofSeconds 5)]
    let failed := last.next teamWorld (.access "/b" session)
    let readable : Outcome := ⟨some "/", .ofList [.read]⟩
    (last.reply teamWorld (.access "/b" session)).stop? =
        some (.failed (.group "/team#x" "failed to load resource /team: offline")) ∧
      last.service.cache.map (·.entries) = some [⟨⟨"/a", "alice"⟩, readable, 0⟩] ∧
      failed.service.cache.map (·.entries) =
        some [⟨⟨"/b", "alice"⟩, readable, Duration.ofSeconds 5⟩] ∧
      (∀ e, failed.service.Holds e → e.key ≠ ⟨"/b", "bob"⟩) ∧
      ("bob", .ok readable) ∈ lookups (teamWorld true) failed.now "/b" session failed.service := by
  intro start session last failed readable
  have hstops : (last.reply teamWorld (.access "/b" session)).stop? =
      some (.failed (.group "/team#x" "failed to load resource /team: offline")) := by
    decide +kernel
  have halice : ((teamWorld false).resolve "nobody" "/b" "alice").answer = .ok readable := by
    decide +kernel
  have hback : ∀ agent ∈ ["alice", "bob"],
      ((teamWorld true).resolve "nobody" "/b" agent).answer = .ok readable := by decide +kernel
  refine ⟨hstops, by decide +kernel, by decide +kernel, ?_⟩
  have hasks : (Step.access "/b" session : Step Bool).question? = some ("/b", session) := rfl
  obtain ⟨-, agent, c, c', -, hfailed, hstop, hagain⟩ := failed_call_is_forgotten teamWorld
    plainConfig ⟨1, .ofSeconds 10⟩ false 0 [.authorized "/a" (.new "alice"), .wait (.ofSeconds 5)]
    hasks hstops
  obtain rfl : agent = "bob" := by
    rcases hstop.asked with rfl | hdelegate
    · cases halice.symm.trans hstop.failed
    · exact (Option.some.inj hdelegate).symm
  constructor
  · intro e he
    exact hstop.forgotten e ((holds_iff (congrArg Service.cache hfailed)).1 he)
  · obtain ⟨-, -, -, hlooked⟩ := hagain true failed.now
    have hbob := hlooked readable (hback "alice" (by decide))
    exact hback "bob" (by decide) ▸ hbob

end Service

end WebAccess
