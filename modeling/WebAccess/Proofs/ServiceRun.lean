import WebAccess.Proofs.ServiceCalls

/-!
# Runs of a service

A service lives beside a world that holds the resources and beside a clock. A run is a sequence of
steps: calls on the service, time that passes, and changes of the world that the service takes no
part in. What is remembered at the end of a run was resolved at some moment of it and not dropped
since (`Service.Moment.holds_run`); nothing else about the cache is needed to say how far its
answers may lag behind the world.
-/

set_option autoImplicit false

namespace WebAccess.Service

variable {σ : Type}

/-- One step of a run, where `σ` are the states of the world: time passes, the world changes by
itself, or the service is called. -/
inductive Step (σ : Type) where
  | wait (span : Duration)
  | change (world : σ)
  | authorized (id : Identifier) (session : Session)
  | access (id : Identifier) (session : Session)
  | check (id : Identifier) (session : Session) (method : Method) (target : RequestTarget)
  | invalidate (id : Identifier)
  | clear
  /-- The root gets rules, by a writer that changes the world. -/
  | giveRules (write : σ → Identifier → Rdf.Graph → Except Fault σ)

/-- The resource and the session that a step asks about. -/
def Step.question? : Step σ → Option (Identifier × Session)
  | .authorized id session | .access id session | .check id session _ _ => some (id, session)
  | .wait _ | .change _ | .invalidate _ | .clear | .giveRules _ => none

/-- What a step is answered. -/
inductive Reply where
  | none
  | outcome (answer : Except Stop Outcome)
  | modes (answer : Except Stop ModeSet)
  | decision (answer : Except Stop Decision)
  /-- Whether rules for the root were written. -/
  | written (answer : Except Stop Bool)

/-- A moment of a run: the service, the state of the world and the time. -/
structure Moment (σ : Type) where
  service : Service
  world : σ
  now : Nat

namespace Moment

variable (view : σ → Store)

/-- The store that the service reads at a moment, where `view` says what a state of the world
stores. -/
def store (m : Moment σ) : Store := view m.world

/-- The state of the world after rules for the root were written; none if none were written. -/
def rewritten (m : Moment σ) (write : σ → Identifier → Rdf.Graph → Except Fault σ) : Option σ :=
  match rootRulesWritten (m.store view) (write m.world) m.service.config with
  | .ok written => written
  | .error _ => none

/-- The moment after a step. -/
def next (m : Moment σ) : Step σ → Moment σ
  | .wait span => { m with now := m.now + span }
  | .change world => { m with world }
  | .authorized id session =>
    { m with service := (authorizedModes (m.store view) m.now id session).after m.service }
  | .access id session =>
    { m with service := (accessModes (m.store view) m.now id session).after m.service }
  | .check id session method target =>
    { m with service := (check (m.store view) m.now id session method target).after m.service }
  | .invalidate id => { m with service := m.service.invalidate id }
  | .clear => { m with service := m.service.clearCache }
  | .giveRules write =>
    { m with
      service := (ensureRootRules (m.store view) (write m.world)).after m.service
      world := (m.rewritten view write).getD m.world }

/-- What a step is answered at a moment. -/
def reply (m : Moment σ) : Step σ → Reply
  | .authorized id session =>
    .outcome ((authorizedModes (m.store view) m.now id session).answer m.service)
  | .access id session =>
    .modes ((accessModes (m.store view) m.now id session).answer m.service)
  | .check id session method target =>
    .decision ((check (m.store view) m.now id session method target).answer m.service)
  | .giveRules write =>
    .written <| (ensureRootRules (m.store view) (write m.world)).answer m.service >>= fun written =>
      .ok written.isSome
  | .wait _ | .change _ | .invalidate _ | .clear => .none

/-- The moment after a sequence of steps. -/
def run (m : Moment σ) (steps : List (Step σ)) : Moment σ :=
  steps.foldl (next view) m

/-- The step drops the remembered outcomes of a resource. -/
def Drops (m : Moment σ) (id : Identifier) : Step σ → Prop
  | .clear => True
  | .invalidate other => other = id
  | .giveRules write => (m.rewritten view write).isSome ∧ m.service.config.root = id
  | .wait _ | .change _ | .authorized .. | .access .. | .check .. => False

/-- No step of the sequence drops the remembered outcomes of a resource. -/
def Keeps (m : Moment σ) (id : Identifier) : List (Step σ) → Prop
  | [] => True
  | step :: steps => ¬m.Drops view id step ∧ (m.next view step).Keeps id steps

/-- The store stays what it is throughout the sequence. -/
def Steady (m : Moment σ) (steps : List (Step σ)) : Prop :=
  ∀ before, before <+: steps → (m.run view before).store view = m.store view

/-- The moment with a service of the same configuration that has no cache. -/
def uncached (m : Moment σ) : Moment σ := { m with service := .new m.service.config none }

variable {view} {start m : Moment σ} {step : Step σ} {steps : List (Step σ)}

/-- A run takes its first step and then runs the others from there. -/
@[simp] theorem run_cons (m : Moment σ) (step : Step σ) (steps : List (Step σ)) :
    m.run view (step :: steps) = (m.next view step).run view steps := rfl

/-- Two sequences of steps are run one after the other. -/
theorem run_append (m : Moment σ) (before after : List (Step σ)) :
    m.run view (before ++ after) = (m.run view before).run view after :=
  List.foldl_append

/-! ## One step -/

/-- Giving the root its rules drops the outcomes of the root if they were written, and changes
nothing else. -/
theorem after_ensureRootRules (m : Moment σ)
    (write : σ → Identifier → Rdf.Graph → Except Fault σ) :
    (ensureRootRules (m.store view) (write m.world)).after m.service =
      if (m.rewritten view write).isSome then m.service.invalidate m.service.config.root
      else m.service := by
  rw [(ensureRootRules_eq _ _ _).2, rewritten]
  rcases rootRulesWritten (m.store view) (write m.world) m.service.config with _ | _ | _ <;> rfl

/-- A step looks outcomes up, or drops those of one resource, or drops all. -/
theorem service_next (m : Moment σ) (step : Step σ) :
    (Grown (m.store view) m.now m.service (m.next view step).service ∧
        ∀ id, ¬m.Drops view id step) ∨
      (∃ id, (m.next view step).service = m.service.invalidate id ∧
        ∀ other, m.Drops view other step → other = id) ∨
      (m.next view step).service = m.service.clearCache := by
  cases step with
  | wait span => exact .inl ⟨.refl _ _ _, fun _ => id⟩
  | change world => exact .inl ⟨.refl _ _ _, fun _ => id⟩
  | authorized _ session => exact .inl ⟨grown_authorizedModes _ _ _ _ _, fun _ => id⟩
  | access _ session =>
    refine .inl ⟨?_, fun _ => id⟩
    simpa only [next, after_accessModes] using grown_authorizedModes _ _ _ _ _
  | check _ session method target =>
    refine .inl ⟨?_, fun _ => id⟩
    simpa only [next, after_check] using grown_authorizedModes _ _ _ _ _
  | invalidate id => exact .inr (.inl ⟨id, rfl, fun _ h => h.symm⟩)
  | clear => exact .inr (.inr rfl)
  | giveRules write =>
    rcases h : (m.rewritten view write).isSome with _ | _
    · refine .inl ⟨?_, fun _ hdrops => ?_⟩
      · simpa [next, after_ensureRootRules, h] using Grown.refl _ _ _
      · simp [Drops, h] at hdrops
    · refine .inr (.inl ⟨m.service.config.root, ?_, fun _ hdrops => hdrops.2.symm⟩)
      simp only [next, after_ensureRootRules, h, if_true]

/-- A step leaves the configuration of the service. -/
@[simp] theorem config_next (m : Moment σ) (step : Step σ) :
    (m.next view step).service.config = m.service.config := by
  rcases service_next m step with ⟨h, -⟩ | ⟨id, h, -⟩ | h
  · exact h.config
  · rw [h]; rfl
  · rw [h]; rfl

/-- A step leaves the limits of the cache. -/
@[simp] theorem limits?_next (m : Moment σ) (step : Step σ) :
    (m.next view step).service.limits? = m.service.limits? := by
  rcases service_next m step with ⟨h, -⟩ | ⟨id, h, -⟩ | h
  · exact h.limits
  · rw [h, limits?_invalidate]
  · rw [h, limits?_clearCache]

/-- An entry that is there after a step was there before or was made in it, and the step did not
drop its resource. -/
theorem holds_next {e : CacheEntry} (he : (m.next view step).service.Holds e) :
    (m.service.Holds e ∨ Fresh (m.store view) m.now m.service.config e) ∧
      ¬m.Drops view e.key.identifier step := by
  rcases service_next m step with ⟨h, hdrops⟩ | ⟨id, h, hdrops⟩ | h
  · exact ⟨h.entries e he, hdrops _⟩
  · rw [h, holds_invalidate] at he
    exact ⟨.inl he.1, fun hd => he.2 (hdrops _ hd)⟩
  · rw [h] at he
    exact absurd he (not_holds_clearCache e)

/-- No step goes back in time. -/
theorem now_le_next (m : Moment σ) (step : Step σ) : m.now ≤ (m.next view step).now := by
  cases step with
  | wait span => exact Nat.le_add_right _ _
  | _ => exact Nat.le_refl _

/-! ## Runs -/

/-- A run leaves the configuration of the service. -/
@[simp] theorem config_run (m : Moment σ) (steps : List (Step σ)) :
    (m.run view steps).service.config = m.service.config := by
  induction steps generalizing m with
  | nil => rfl
  | cons step steps ih => rw [run_cons, ih, config_next]

/-- A run leaves the limits of the cache. -/
@[simp] theorem limits?_run (m : Moment σ) (steps : List (Step σ)) :
    (m.run view steps).service.limits? = m.service.limits? := by
  induction steps generalizing m with
  | nil => rfl
  | cons step steps ih => rw [run_cons, ih, limits?_next]

/-- No run goes back in time. -/
theorem now_le_run (m : Moment σ) (steps : List (Step σ)) : m.now ≤ (m.run view steps).now := by
  induction steps generalizing m with
  | nil => exact Nat.le_refl _
  | cons step steps ih => exact Nat.le_trans (now_le_next m step) (ih _)

/-- An entry that is there at the end of a run was there at its start, or was made at some moment
of the run; its resource was not dropped since. -/
theorem holds_run {e : CacheEntry} (he : (start.run view steps).service.Holds e) :
    (start.service.Holds e ∧ start.Keeps view e.key.identifier steps) ∨
      ∃ before after, steps = before ++ after ∧
        Fresh ((start.run view before).store view) (start.run view before).now
          start.service.config e ∧
        (start.run view before).Keeps view e.key.identifier after := by
  -- The entry is traced back to the first moment at which it is there.
  induction steps generalizing start with
  | nil => exact .inl ⟨he, trivial⟩
  | cons step steps ih =>
    rcases ih he with ⟨hnext, hkeeps⟩ | ⟨before, after, rfl, hfresh, hkeeps⟩
    · obtain ⟨hold | hfresh, hdrops⟩ := holds_next hnext
      · exact .inl ⟨hold, hdrops, hkeeps⟩
      · exact .inr ⟨[], step :: steps, rfl, hfresh, hdrops, hkeeps⟩
    · rw [config_next] at hfresh
      exact .inr ⟨step :: before, after, rfl, hfresh, hkeeps⟩

/-- On a store that stays what it is, a service that remembers nothing outdated never does. -/
theorem faithful_run (h : Faithful (start.store view) start.service)
    (hsteady : start.Steady view steps) :
    Faithful ((start.run view steps).store view) (start.run view steps).service := by
  intro e he
  rw [hsteady steps List.prefix_rfl, config_run]
  rcases holds_run he with ⟨hold, -⟩ | ⟨before, after, rfl, hfresh, -⟩
  · exact h e hold
  · rw [← hsteady before (List.prefix_append before after)]
    exact hfresh.resolved

/-! ## The service without a cache -/

/-- A service without a cache goes through the same steps in the same world, and stays as it is. -/
theorem uncached_next (m : Moment σ) (step : Step σ) :
    m.uncached.next view step = (m.next view step).uncached := by
  have hservice : (m.uncached.next view step).service = m.uncached.service := by
    rcases service_next m.uncached step with ⟨h, -⟩ | ⟨id, h, -⟩ | h
    · exact h.eq_of_uncached rfl
    · exact h
    · exact h
  have hconfig : (m.next view step).service.config = m.service.config := config_next m step
  cases step <;> simp_all [next, uncached, store, rewritten, new]

/-- The run of a service without a cache passes through the same worlds and times. -/
theorem uncached_run (m : Moment σ) (steps : List (Step σ)) :
    m.uncached.run view steps = (m.run view steps).uncached := by
  induction steps generalizing m with
  | nil => rfl
  | cons step steps ih => rw [run_cons, run_cons, uncached_next, ih]

/-- A service answers a step as one without a cache if it looks up the same outcomes. -/
theorem reply_eq_of_lookups (step : Step σ)
    (h : ∀ id session, step.question? = some (id, session) →
      lookups (m.store view) m.now id session m.service =
        lookups (m.store view) m.now id session m.uncached.service) :
    m.reply view step = m.uncached.reply view step := by
  have hmodes : ∀ id session, step.question? = some (id, session) →
      (authorizedModes (m.store view) m.now id session).answer m.service =
        (authorizedModes (m.store view) m.now id session).answer m.uncached.service := by
    intro id session hasks
    rw [answer_authorizedModes, answer_authorizedModes, h id session hasks]
  cases step with
  | authorized id session => exact congrArg Reply.outcome (hmodes id session rfl)
  | access id session =>
    simp only [reply, answer_accessModes, hmodes id session rfl]
    rfl
  | check id session method target =>
    simp only [reply, answer_check, hmodes id session rfl]
    rfl
  | giveRules write =>
    simp only [reply, (ensureRootRules_eq _ _ _).1]
    rfl
  | _ => rfl

/-- A service that remembers nothing outdated answers every step as one without a cache. -/
theorem reply_eq_uncached (h : Faithful (m.store view) m.service) (step : Step σ) :
    m.reply view step = m.uncached.reply view step := by
  apply reply_eq_of_lookups
  intro id session _
  have hplain : Faithful (m.store view) m.uncached.service := faithful_of_uncached rfl
  exact h.lookups_eq hplain rfl session

end Moment

/-! ## A configuration for small cases -/

/-- A configuration in which `root` administers and `nobody` is anonymous. -/
def plainConfig : ServiceConfig := ⟨"/", "root", ∅, "nobody", false, .default⟩

end WebAccess.Service
