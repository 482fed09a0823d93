import WebAccess.Proofs.RootRules
import WebAccess.Proofs.Staleness

/-!
# Outcomes older than the rules of the root

A service over a memory that only the service writes to: the one change that a run can make is to
give the root its rules, once. The outcomes of the root are dropped then; those of other resources
are kept, though they may inherit from the root. So the cache lags behind the memory in one way
(`Service.lag_behind_root_rules`). An outcome may be older than the rules of the root, for another
resource, and as long as outcomes live. Where it is, the rules of the root grant everything by now,
so what the cache still answers is never more than the memory grants.
-/

set_option autoImplicit false

namespace WebAccess

/-- The memory as a writer of access-control graphs: writing to it never fails. -/
def Memory.takeRules (m : Memory) (id : Identifier) (acl : Rdf.Graph) : Except Fault Memory :=
  .ok (m.writeAcl id acl)

namespace Service

section Calls

variable {store : Store} {now : Nat} {id : Identifier} {agent : String} {session : Session}
variable {config : ServiceConfig} {service : Service}

/-- The answer of a look-up where nothing is remembered. -/
def currentAnswer (store : Store) (config : ServiceConfig) (id : Identifier) (agent : String) :
    Except Stop Outcome :=
  if config.isAdministrator agent then .ok .unrestricted
  else (store.resolve config.anonymous id agent).answer

/-- A look-up without a cache yields the current answer. -/
theorem answer_outcomeFor_uncached :
    (outcomeFor store now id agent).answer (.new config none) =
      currentAnswer store config id agent := by
  unfold currentAnswer
  rcases hadmin : config.isAdministrator agent with _ | _
  · exact (outcomeFor_of_uncached hadmin rfl).1
  · exact (outcomeFor_of_administrator hadmin).1

/-- A look-up without a cache leaves the service as it is. -/
theorem after_outcomeFor_uncached :
    (outcomeFor store now id agent).after (.new config none) = .new config none :=
  (grown_outcomeFor store now id agent _).eq_of_uncached rfl

/-- Look-ups that all have the current answers are those of a service without a cache. -/
theorem lookups_eq_uncached (h : ∀ agent answer,
      (agent, answer) ∈ lookups store now id session service →
        answer = currentAnswer store service.config id agent) :
    lookups store now id session service =
      lookups store now id session (.new service.config none) := by
  rcases hadmin : service.config.isAdministrator session.agent with _ | _
  · have hown : (outcomeFor store now id session.agent).answer service =
        currentAnswer store service.config id session.agent := by
      apply h session.agent
      simp [lookups, hadmin]
    rcases hdelegate : session.delegate with _ | delegate
    · simp [lookups, hadmin, hdelegate, hown, answer_outcomeFor_uncached]
    · rcases hcurrent : currentAnswer store service.config id session.agent with stop | outcome
      · simp [lookups, hadmin, hdelegate, hown, hcurrent, answer_outcomeFor_uncached]
      · have hother : (outcomeFor store now id delegate).answer
            ((outcomeFor store now id session.agent).after service) =
              currentAnswer store service.config id delegate := by
          apply h delegate
          simp [lookups, hadmin, hdelegate, hown, hcurrent]
        simp [lookups, hadmin, hdelegate, hown, hcurrent, hother, answer_outcomeFor_uncached,
          after_outcomeFor_uncached]
  · simp [lookups, hadmin]

/-- Where no look-up yields more modes than the current answer, no call does. -/
theorem accessModes_within_uncached {modes : ModeSet} (hwithin : ∀ agent outcome,
      (agent, .ok outcome) ∈ lookups store now id session service →
        ∃ current, currentAnswer store service.config id agent = .ok current ∧
          ∀ m, m ∈ outcome.modes → m ∈ current.modes)
    (h : (accessModes store now id session).answer service = .ok modes) :
    ∃ all, (accessModes store now id session).answer (.new service.config none) = .ok all ∧
      ∀ m, m ∈ modes → m ∈ all := by
  rw [answer_accessModes, answer_authorizedModes] at h ⊢
  rcases hadmin : service.config.isAdministrator session.agent with _ | _
  · rcases hown : (outcomeFor store now id session.agent).answer service with stop | own
    · rcases hdelegate : session.delegate with _ | delegate <;>
        simp [lookups, narrowed, hadmin, hown, hdelegate] at h
    · obtain ⟨current, hcurrent, hmodes⟩ := hwithin session.agent own (by
        simp [lookups, hadmin, hown])
      rcases hdelegate : session.delegate with _ | delegate
      · obtain rfl : own.modes = modes := by
          simpa [lookups, narrowed, hadmin, hown, hdelegate] using h
        refine ⟨current.modes, ?_, hmodes⟩
        simp [lookups, narrowed, hadmin, hdelegate, hcurrent, answer_outcomeFor_uncached]
      · rcases hother : (outcomeFor store now id delegate).answer
            ((outcomeFor store now id session.agent).after service) with stop | other
        · simp [lookups, narrowed, hadmin, hown, hdelegate, hother] at h
        · obtain rfl : own.modes ∩ other.modes = modes := by
            simpa [lookups, narrowed, hadmin, hown, hdelegate, hother, Outcome.restrict] using h
          obtain ⟨currentOther, hcurrentOther, hmodesOther⟩ := hwithin delegate other (by
            simp [lookups, hadmin, hown, hdelegate, hother])
          refine ⟨current.modes ∩ currentOther.modes, ?_, ?_⟩
          · simp [lookups, narrowed, hadmin, hdelegate, hcurrent, hcurrentOther,
              answer_outcomeFor_uncached, after_outcomeFor_uncached, Outcome.restrict]
          · intro m hm
            obtain ⟨hmown, hmother⟩ := ModeSet.mem_inter.1 hm
            exact ModeSet.mem_inter.2 ⟨hmodes m hmown, hmodesOther m hmother⟩
  · refine ⟨modes, ?_, fun _ hm => hm⟩
    rw [← h]
    simp [lookups, hadmin]

end Calls

/-! ## What comes of writing the rules -/

section Written

variable {σ : Type} {store : Store} {write : Identifier → Rdf.Graph → Except Fault σ}
  {config : ServiceConfig} {found : Option Resource} {fault : Fault}

/-- Nothing is written for a root that is not to be given rules. -/
theorem rootRulesWritten_of_off (h : config.initializeRoot = false) :
    rootRulesWritten store write config = .ok none := by
  simp [rootRulesWritten, h]

/-- A root that cannot be read is a fault, and nothing is written. -/
theorem rootRulesWritten_of_unread (hinit : config.initializeRoot = true)
    (hread : store.read config.root = .error fault) :
    rootRulesWritten store write config = .error (.failed fault) := by
  have hfetch := @Store.answer_fetch store config.root
  rw [hread] at hfetch
  rw [rootRulesWritten, if_pos hinit, hfetch, error_bind]

/-- Rules are written for a root that has no graph, and for no other. -/
theorem rootRulesWritten_of_read (hinit : config.initializeRoot = true)
    (hread : store.read config.root = .ok found) :
    rootRulesWritten store write config =
      if found.any (·.hasAcl) then .ok none
      else ((write config.root (rootRules config.root)).mapError .failed).map some := by
  have hfetch := @Store.answer_fetch store config.root
  rw [hread] at hfetch
  unfold rootRulesWritten
  rw [if_pos hinit, hfetch, ok_bind]
  cases write config.root (rootRules config.root) <;> rfl

/-- A memory takes the rules if the service is to write them and the root has none. -/
theorem rootRulesWritten_takeRules (m : Memory) (config : ServiceConfig) :
    rootRulesWritten m.toStore m.takeRules config =
      .ok (if config.initializeRoot = true ∧ m.Unruled config.root
        then some (m.writeRootRules config.root) else none) := by
  cases hinit : config.initializeRoot with
  | false =>
    rw [rootRulesWritten_of_off hinit, if_neg]
    simp
  | true =>
    have hread : m.toStore.read config.root = .ok (m.find? config.root) := rfl
    rw [rootRulesWritten_of_read hinit hread]
    by_cases hunruled : m.Unruled config.root
    · rw [Memory.any_hasAcl_eq_false_iff.2 hunruled, if_neg Bool.false_ne_true,
        if_pos ⟨rfl, hunruled⟩]
      rfl
    · have hruled : (m.find? config.root).any (·.hasAcl) = true := by
        rw [← Memory.any_hasAcl_eq_false_iff] at hunruled
        exact Bool.eq_true_of_not_eq_false hunruled
      rw [if_pos hruled, if_neg fun h => hunruled h.2]

end Written

/-! ## A memory that only the service writes to -/

/-- The step changes nothing by itself, and rules for the root are written to the memory. -/
def Step.LeavesMemory : Step Memory → Prop
  | .change _ => False
  | .giveRules write => write = Memory.takeRules
  | _ => True

variable {start m : Moment Memory} {step : Step Memory} {steps : List (Step Memory)}

/-- A step that gives the root its rules in a memory finds it without any and writes them. -/
theorem unruled_of_rewritten {written : Memory}
    (h : m.rewritten Memory.toStore Memory.takeRules = some written) :
    m.world.Unruled m.service.config.root ∧
      written = m.world.writeRootRules m.service.config.root := by
  rw [Moment.rewritten, Moment.store, rootRulesWritten_takeRules] at h
  obtain ⟨⟨-, hunruled⟩, hwritten⟩ := Option.ite_none_right_eq_some.1 h
  exact ⟨hunruled, (Option.some.inj hwritten).symm⟩

/-- A step leaves the memory as it is, or gives the root rules that it did not have, and drops the
outcomes of the root. -/
theorem world_next (m : Moment Memory) (h : step.LeavesMemory) :
    (m.next Memory.toStore step).world = m.world ∨
      m.world.Unruled m.service.config.root ∧
        (m.next Memory.toStore step).world = m.world.writeRootRules m.service.config.root ∧
        m.Drops Memory.toStore m.service.config.root step := by
  cases step with
  | change world => exact absurd h id
  | giveRules write =>
    obtain rfl : write = Memory.takeRules := h
    rcases hrewritten : m.rewritten Memory.toStore Memory.takeRules with _ | written
    · left
      simp [Moment.next, hrewritten]
    · right
      have hdrops : (m.rewritten Memory.toStore Memory.takeRules).isSome := by
        simp [hrewritten]
      obtain ⟨hunruled, rfl⟩ := unruled_of_rewritten hrewritten
      exact ⟨hunruled, by simp [Moment.next, hrewritten], hdrops, rfl⟩
  | _ => exact .inl rfl

/-- A run leaves the memory as it is, or gives the root its rules. -/
theorem world_run (m : Moment Memory) (h : ∀ step ∈ steps, step.LeavesMemory) :
    (m.run Memory.toStore steps).world = m.world ∨
      m.world.Unruled m.service.config.root ∧
        (m.run Memory.toStore steps).world = m.world.writeRootRules m.service.config.root ∧
        ¬m.Keeps Memory.toStore m.service.config.root steps := by
  induction steps generalizing m with
  | nil => exact .inl rfl
  | cons step steps ih =>
    have hrest := ih (m.next Memory.toStore step) fun s hs => h s (List.mem_cons_of_mem _ hs)
    rw [Moment.config_next] at hrest
    rcases world_next m (h step List.mem_cons_self) with hsame | ⟨hunruled, hwritten, hdrops⟩
    · rw [hsame] at hrest
      rcases hrest with hrest | ⟨hunruled, hwritten, hkeeps⟩
      · exact .inl hrest
      · exact .inr ⟨hunruled, hwritten, fun hk => hkeeps hk.2⟩
    · rcases hrest with hrest | ⟨hagain, -, -⟩
      · exact .inr ⟨hunruled, hrest.trans hwritten, fun hk => hk.1 hdrops⟩
      · -- The root has rules by now, so it is not given any again.
        rw [hwritten] at hagain
        exact absurd hagain (Memory.not_unruled_writeAcl _ _ _)

/-- The outcome was resolved for the resource and the agent at a moment of the run at which the root
had no rules yet. Since then the root got them and the resource, which is not the root, was not
dropped; it is not longer ago than `age`. By now the rules of the root grant everything. -/
structure Outdated (start : Moment Memory) (steps : List (Step Memory)) (age : Duration)
    (id : Identifier) (agent : String) (outcome : Outcome) : Prop where
  /-- The outcomes of the root itself were dropped. -/
  below : id ≠ start.service.config.root
  /-- The moment at which the outcome was resolved. -/
  resolved : ∃ before after, steps = before ++ after ∧
    (start.run Memory.toStore before).world.Unruled start.service.config.root ∧
    (start.run Memory.toStore steps).world =
      (start.run Memory.toStore before).world.writeRootRules start.service.config.root ∧
    (start.run Memory.toStore steps).now ≤ (start.run Memory.toStore before).now + age ∧
    (start.run Memory.toStore before).Keeps Memory.toStore id after ∧
    ((start.run Memory.toStore before).world.toStore.resolve start.service.config.anonymous id
      agent).answer = .ok outcome
  /-- What is resolved at the end of the run. -/
  granted : ((start.run Memory.toStore steps).world.toStore.resolve start.service.config.anonymous
    id agent).answer = .ok ⟨some start.service.config.root, .all⟩

/-- What was resolved in the run is what resolution still yields, or outdated. -/
theorem current_or_outdated {age : Duration} {id : Identifier} {agent : String} {outcome : Outcome}
    (hsteps : ∀ step ∈ steps, step.LeavesMemory)
    (h : ResolvedWithin Memory.toStore start steps age id agent outcome) :
    ((start.run Memory.toStore steps).world.toStore.resolve start.service.config.anonymous id
        agent).answer = .ok outcome ∨
      Outdated start steps age id agent outcome := by
  obtain ⟨before, after, rfl, -, hage, hkeeps, hresolved⟩ := h
  have hafter : ∀ step ∈ after, step.LeavesMemory :=
    fun step hstep => hsteps step (List.mem_append_right before hstep)
  have hworld := world_run (start.run Memory.toStore before) hafter
  rw [← Moment.run_append, Moment.config_run] at hworld
  rcases hworld with hsame | ⟨hunruled, hwritten, hroot⟩
  · left
    rwa [hsame]
  · rcases Memory.resolve_writeRootRules (start.run Memory.toStore before).world
        start.service.config.root id start.service.config.anonymous agent with hsame | hall
    · left
      rw [hwritten, hsame]
      exact hresolved
    · right
      refine ⟨?_, ⟨before, after, rfl, hunruled, hwritten, hage, hkeeps, hresolved⟩, ?_⟩
      · rintro rfl
        exact hroot hkeeps
      · rw [hwritten, hall]

/-- A look-up after the run yields what a service without a cache would look up, or an outdated
outcome. -/
theorem lookup_current_or_outdated {limits : CacheLimits} {id : Identifier} {session : Session}
    {agent : String} {answer : Except Stop Outcome} (hempty : ∀ e, ¬start.service.Holds e)
    (hlimits : start.service.limits? = some limits) (hsteps : ∀ step ∈ steps, step.LeavesMemory)
    (hmem : (agent, answer) ∈ lookups (start.run Memory.toStore steps).world.toStore
      (start.run Memory.toStore steps).now id session (start.run Memory.toStore steps).service) :
    answer = currentAnswer (start.run Memory.toStore steps).world.toStore start.service.config id
        agent ∨
      ∃ outcome, answer = .ok outcome ∧
        Outdated start steps limits.timeToLive id agent outcome := by
  obtain ⟨service', hgrown, rfl⟩ := exists_of_mem_lookups hmem
  unfold currentAnswer
  rcases hadmin : start.service.config.isAdministrator agent with _ | _
  · obtain ⟨hok, herror⟩ := @answer_after_run _ Memory.toStore start steps limits service' id agent
      hempty hlimits hgrown hadmin
    rcases hanswer : (outcomeFor (start.run Memory.toStore steps).world.toStore
        (start.run Memory.toStore steps).now id agent).answer service' with stop | outcome
    · exact .inl (herror stop hanswer).symm
    · rcases current_or_outdated hsteps (hok outcome hanswer) with hcurrent | houtdated
      · exact .inl hcurrent.symm
      · exact .inr ⟨outcome, rfl, houtdated⟩
  · left
    have hconfig : service'.config = start.service.config :=
      hgrown.config.trans (Moment.config_run start steps)
    rw [← hconfig] at hadmin
    exact (outcomeFor_of_administrator hadmin).1

/-- After any run in which a memory is left to a service that starts with an empty cache: each
look-up answers what the service without its cache would look up, or an outcome that is older than
the rules of the root; every step is answered as without the cache, unless it looks up such an
outcome; and the modes of a session are never more than without the cache. -/
theorem lag_behind_root_rules (config : ServiceConfig) (limits : CacheLimits) (memory : Memory)
    (now : Nat) {steps : List (Step Memory)} (hsteps : ∀ step ∈ steps, step.LeavesMemory) :
    let start : Moment Memory := ⟨.new config (some (.empty limits)), memory, now⟩
    let last := start.run Memory.toStore steps
    let plain := last.uncached
    (∀ id session agent answer,
      (agent, answer) ∈ lookups last.world.toStore last.now id session last.service →
        answer = currentAnswer last.world.toStore config id agent ∨
          ∃ outcome, answer = .ok outcome ∧
            Outdated start steps limits.timeToLive id agent outcome) ∧
      (∀ step, last.reply Memory.toStore step = plain.reply Memory.toStore step ∨
        ∃ id session agent outcome, step.question? = some (id, session) ∧
          (agent, .ok outcome) ∈ lookups last.world.toStore last.now id session last.service ∧
          Outdated start steps limits.timeToLive id agent outcome) ∧
      ∀ id session modes,
        (accessModes last.world.toStore last.now id session).answer last.service = .ok modes →
        ∃ all, (accessModes plain.world.toStore plain.now id session).answer plain.service =
            .ok all ∧ ∀ m, m ∈ modes → m ∈ all := by
  intro start last plain
  have hconfig : last.service.config = config := Moment.config_run start steps
  have hempty : ∀ e, ¬start.service.Holds e := by
    intro e he
    simpa using (holds_iff rfl).1 he
  have hlookups : ∀ id session agent answer,
      (agent, answer) ∈ lookups last.world.toStore last.now id session last.service →
        answer = currentAnswer last.world.toStore config id agent ∨
          ∃ outcome, answer = .ok outcome ∧
            Outdated start steps limits.timeToLive id agent outcome :=
    fun id session agent answer hmem => lookup_current_or_outdated hempty rfl hsteps hmem
  refine ⟨hlookups, ?_, ?_⟩
  · intro step
    by_contra hnot
    obtain ⟨hreply, hcurrent⟩ := not_or.1 hnot
    apply hreply
    apply Moment.reply_eq_of_lookups
    intro id session hasks
    apply lookups_eq_uncached
    intro agent answer hmem
    rw [hconfig]
    rcases hlookups id session agent answer hmem with h | ⟨outcome, rfl, houtdated⟩
    · exact h
    · exact absurd ⟨id, session, agent, outcome, hasks, hmem, houtdated⟩ hcurrent
  · intro id session modes haccess
    apply accessModes_within_uncached _ haccess
    intro agent outcome hmem
    rw [hconfig]
    rcases hlookups id session agent _ hmem with h | ⟨_, -, houtdated⟩
    · exact ⟨outcome, h.symm, fun _ hm => hm⟩
    · unfold currentAnswer
      rcases hadmin : config.isAdministrator agent with _ | _
      · exact ⟨_, houtdated.granted, fun m _ => ModeSet.mem_all⟩
      · exact ⟨.unrestricted, rfl, fun m _ => ModeSet.mem_all⟩

/-! ## A denial that outlives the rules of the root -/

/-- The configuration in which the root gets its rules. -/
def openingConfig : ServiceConfig := { plainConfig with initializeRoot := true }

/-- What `alice` may do is asked before the root gets its rules. -/
def questionThenRules : List (Step Memory) :=
  [.access "/x" (.new "alice"), .giveRules Memory.takeRules]

/-- A service with an empty cache over an empty memory. -/
def openingStart : Moment Memory := ⟨.new openingConfig (some (.empty .default)), ∅, 0⟩

/-- The run with a question before the rules writes nothing but the rules. -/
theorem questionThenRules_leave_memory : ∀ step ∈ questionThenRules, step.LeavesMemory := by
  intro step hstep
  simp only [questionThenRules, List.mem_cons, List.not_mem_nil, or_false] at hstep
  rcases hstep with rfl | rfl
  · trivial
  · rfl

/-- `alice` is still denied below the root, which is outdated; on the root itself the service
answers as one without a cache. -/
theorem alice_denied_below_open_root :
    let last := openingStart.run Memory.toStore questionThenRules
    let plain := last.uncached
    (∀ step ∈ questionThenRules, step.LeavesMemory) ∧
      lookups last.world.toStore last.now "/x" (.new "alice") last.service =
        [("alice", .ok .denied)] ∧
      Outdated openingStart questionThenRules CacheLimits.default.timeToLive "/x" "alice"
        .denied ∧
      last.reply Memory.toStore (.access "/" (.new "alice")) =
        plain.reply Memory.toStore (.access "/" (.new "alice")) := by
  intro last plain
  have hlookups : lookups last.world.toStore last.now "/x" (.new "alice") last.service =
      [("alice", .ok .denied)] := by decide +kernel
  have hcurrent : currentAnswer last.world.toStore openingConfig "/x" "alice" =
      .ok ⟨some "/", .all⟩ := by decide +kernel
  obtain ⟨hlooked, hreplies, -⟩ := lag_behind_root_rules openingConfig .default ∅ 0
    questionThenRules_leave_memory
  refine ⟨questionThenRules_leave_memory, hlookups, ?_, ?_⟩
  · have hmem : ("alice", .ok .denied) ∈
        lookups last.world.toStore last.now "/x" (.new "alice") last.service := by
      rw [hlookups]
      exact List.mem_singleton_self _
    rcases hlooked "/x" (.new "alice") "alice" _ hmem with h | ⟨outcome, h, houtdated⟩
    · exact absurd (h.trans hcurrent) (by decide)
    · obtain rfl := Except.ok.inj h
      exact houtdated
  · rcases hreplies (.access "/" (.new "alice")) with h | ⟨id, session, _, _, hasks, -, houtdated⟩
    · exact h
    · obtain ⟨rfl, rfl⟩ := Prod.mk.inj (Option.some.inj hasks)
      exact absurd rfl houtdated.below

/-- The rules of the root are written while a denial is remembered for `/x`, and the denial is
answered afterwards, where a service without a cache answers with every mode. -/
theorem denial_remembered_while_root_opens :
    let asked := openingStart.run Memory.toStore [.access "/x" (.new "alice")]
    let last := openingStart.run Memory.toStore questionThenRules
    let plain := last.uncached
    (∀ step ∈ questionThenRules, step.LeavesMemory) ∧
      asked.reply Memory.toStore (.giveRules Memory.takeRules) = .written (.ok true) ∧
      last.reply Memory.toStore (.access "/x" (.new "alice")) = .modes (.ok ∅) ∧
      plain.reply Memory.toStore (.access "/x" (.new "alice")) = .modes (.ok .all) := by
  intro asked last plain
  have hlast : (accessModes last.world.toStore last.now "/x" (.new "alice")).answer last.service =
      .ok ∅ := by decide +kernel
  have hplain : (accessModes plain.world.toStore plain.now "/x" (.new "alice")).answer
      plain.service = .ok .all := by decide +kernel
  have hwritten : ((ensureRootRules asked.world.toStore (Memory.takeRules asked.world)).answer
      asked.service >>= fun written => .ok written.isSome) = .ok true := by decide +kernel
  refine ⟨questionThenRules_leave_memory, ?_, ?_, ?_⟩
  · exact congrArg Reply.written hwritten
  · exact congrArg Reply.modes hlast
  · exact congrArg Reply.modes hplain

end Service

end WebAccess
