import WebAccess.Proofs.CacheAccounts
import WebAccess.Proofs.CountedNotes
import WebAccess.Proofs.FailedCalls

/-!
# Metrics and the calls behind them

Metrics count notes, the cache counts its look-ups, and a caller counts answers. What goes on while
a service is used is described by the notes it takes, the resolutions it makes and the answers to
requests (`Service.Proceedings`), and the three counts agree on such proceedings if each look-up in
the cache, each resolution that answers and each decision has its one note (`Service.Booked`). That
is so for a single look-up (`Service.booked_outcomeFor`), hence for a call and for a run, because it
is kept when proceedings follow each other (`Service.Booked.trans`).

Main statement: `Service.Moment.metrics_after_run`.
-/

set_option autoImplicit false

namespace WebAccess

/-! ## Look-ups in a cache -/

/-- How many look-ups were hits, or how many were misses. -/
def Cache.looked (c : Cache) (hit : Bool) : Nat := if hit then c.hits else c.misses

/-- A look-up is counted by the cache as a hit if it finds an outcome and as a miss if not. -/
theorem Cache.looked_get (c : Cache) (now : Nat) (key : CacheKey) (hit : Bool) :
    (c.get now key).2.looked hit =
      c.looked hit + if (c.get now key).1.isSome = hit then 1 else 0 := by
  have hhits : (c.get now key).2.hits = c.hits + (c.get now key).1.toList.length := hits_get
  have hboth : (c.get now key).2.hits + (c.get now key).2.misses = c.hits + c.misses + 1 :=
    hits_add_misses_get
  cases hit with
  | true =>
    refine hhits.trans (congrArg (c.hits + ·) ?_)
    cases (c.get now key).1 <;> rfl
  | false =>
    have hmisses : (c.get now key).2.misses + (c.get now key).1.toList.length = c.misses + 1 := by
      omega
    show (c.get now key).2.misses = c.misses + _
    cases hg : (c.get now key).1 with
    | none => simpa [hg] using hmisses
    | some outcome => simpa [hg] using hmisses

/-- An insertion is not counted as a look-up. -/
theorem Cache.looked_insert (c : Cache) (now : Nat) (key : CacheKey) (outcome : Outcome)
    (hit : Bool) : (c.insert now key outcome).looked hit = c.looked hit := by
  simp [looked, hits_insert, misses_insert]

namespace Service

open Call

variable {store : Store} {now : Nat} {id : Identifier} {agent : String}
  {service service' service'' : Service}

/-- How many look-ups in the cache were hits, or misses; none without a cache. -/
def looked (service : Service) (hit : Bool) : Nat :=
  match service.cache with
  | none => 0
  | some c => c.looked hit

/-! ## Notes and resolutions of a call -/

/-- The notes on the cache that a look-up takes. -/
def cacheNotes (now : Nat) (id : Identifier) (agent : String) (service : Service) : List Note :=
  if service.config.isAdministrator agent then []
  else
    match service.cache.map fun c => (c.get now ⟨id, agent⟩).1 with
    | none => []
    | some none => [.cacheLookup false]
    | some (some _) => [.cacheLookup true, .event .cachedModes]

/-- The resolution that a look-up makes, unless the agent is an administrator or the cache has the
outcome. -/
def resolutionsFor (store : Store) (now : Nat) (id : Identifier) (agent : String)
    (service : Service) : List (Inquiry Outcome) :=
  if service.config.isAdministrator agent then []
  else
    match service.cache.bind fun c => (c.get now ⟨id, agent⟩).1 with
    | none => [store.resolve service.config.anonymous id agent]
    | some _ => []

/-- The notes of a look-up are those on the cache followed by those of the resolutions that it
makes. -/
theorem notes_outcomeFor (store : Store) (now : Nat) (id : Identifier) (agent : String)
    (service : Service) :
    (outcomeFor store now id agent).notes service =
      cacheNotes now id agent service ++
        (resolutionsFor store now id agent service).flatMap Inquiry.notes := by
  rcases h : service.config.isAdministrator agent with _ | _
  · rcases hc : service.cache with _ | c
    · simp [outcomeFor, cacheNotes, resolutionsFor, h, hc]
    · rcases hg : (c.get now ⟨id, agent⟩).1 with _ | outcome
      · rcases hr : (store.resolve service.config.anonymous id agent).answer with stop | outcome <;>
          simp [outcomeFor, cacheNotes, resolutionsFor, h, hc, hg, hr]
      · simp [outcomeFor, cacheNotes, resolutionsFor, h, hc, hg]
  · simp [outcomeFor, cacheNotes, resolutionsFor, h]

/-- The resolutions that a call for a session makes: those of the look-up for its agent, and then,
if that succeeds, those of the look-up for its delegate. -/
def resolutions (store : Store) (now : Nat) (id : Identifier) (session : Session)
    (service : Service) : List (Inquiry Outcome) :=
  if service.config.isAdministrator session.agent then []
  else
    let own := outcomeFor store now id session.agent
    resolutionsFor store now id session.agent service ++
      match session.delegate, own.answer service with
      | some delegate, .ok _ => resolutionsFor store now id delegate (own.after service)
      | _, _ => []

/-- The only notes on the cache that are counted are those of look-ups in it. -/
theorem count_cacheNotes {n : Note} (hlookup : ∀ hit, n ≠ .cacheLookup hit)
    (hn : n.isCounted = true) : (cacheNotes now id agent service).count n = 0 := by
  rw [List.count_eq_zero]
  intro hmem
  unfold cacheNotes at hmem
  split at hmem
  · cases hmem
  · split at hmem
    · cases hmem
    · exact hlookup false (List.mem_singleton.1 hmem)
    · rcases List.mem_pair.1 hmem with rfl | rfl
      · exact hlookup true rfl
      · cases hn

/-- Besides those on the cache, a look-up takes a note that is counted of each of its resolutions
that answers. -/
theorem count_notes_outcomeFor (store : Store) (now : Nat) (id : Identifier) (agent : String)
    (service : Service) {n : Note} (hn : n.isCounted = true) :
    ((outcomeFor store now id agent).notes service).count n =
      (cacheNotes now id agent service).count n +
        ((resolutionsFor store now id agent service).filterMap fun x => x.answer.toOption).countP
          fun outcome => .resolution outcome.effectiveAcl.isSome = n := by
  rw [notes_outcomeFor, List.count_append]
  congr 1
  unfold resolutionsFor
  split
  · rfl
  · split
    · have hresolve := store.counted_resolve service.config.anonymous id agent
      rw [List.flatMap_singleton, ← List.count_filter hn, hresolve, List.filterMap_cons]
      rcases (store.resolve service.config.anonymous id agent).answer with stop | outcome
      · rfl
      · rfl
    · rfl

/-- The cache counts a look-up as it is noted. -/
theorem looked_outcomeFor (store : Store) (now : Nat) (id : Identifier) (agent : String)
    (service : Service) (hit : Bool) :
    ((outcomeFor store now id agent).after service).looked hit =
      service.looked hit + (cacheNotes now id agent service).count (.cacheLookup hit) := by
  rcases h : service.config.isAdministrator agent with _ | _
  · rcases hc : service.cache with _ | c
    · rw [(outcomeFor_of_uncached h hc).2]
      simp [cacheNotes, hc]
    · rcases hg : (c.get now ⟨id, agent⟩).1 with _ | outcome
      · have hlooked := c.looked_get now ⟨id, agent⟩ hit
        rw [(outcomeFor_of_miss h hc hg).2]
        rcases (store.resolve service.config.anonymous id agent).answer with stop | outcome <;>
          cases hit <;> simp [looked, cacheNotes, h, hc, hg, hlooked, Cache.looked_insert]
      · have hlooked := c.looked_get now ⟨id, agent⟩ hit
        rw [(outcomeFor_of_hit h hc hg).2]
        cases hit <;> simp [looked, cacheNotes, h, hc, hg, hlooked]
  · rw [(outcomeFor_of_administrator h).2]
    simp [cacheNotes, h]

/-- A service with a cache makes one resolution for each miss. -/
theorem count_misses (store : Store) (hcache : service.cache.isSome = true) :
    (cacheNotes now id agent service).count (.cacheLookup false) =
      (resolutionsFor store now id agent service).length := by
  obtain ⟨c, hc⟩ := Option.isSome_iff_exists.1 hcache
  rcases h : service.config.isAdministrator agent with _ | _
  · rcases hg : (c.get now ⟨id, agent⟩).1 with _ | outcome <;>
      simp [cacheNotes, resolutionsFor, h, hc, hg]
  · simp [cacheNotes, resolutionsFor, h]

/-- The notes for a session are those of the look-ups for its agent and then for its delegate, or
the one that it is an administrator. -/
theorem notes_authorizedModes (store : Store) (now : Nat) (id : Identifier) (session : Session)
    (service : Service) :
    (authorizedModes store now id session).notes service =
      if service.config.isAdministrator session.agent then [.event .administratorSession]
      else
        let own := outcomeFor store now id session.agent
        own.notes service ++
          match session.delegate, own.answer service with
          | some delegate, .ok _ =>
            (outcomeFor store now id delegate).notes (own.after service) ++
              match (outcomeFor store now id delegate).answer (own.after service) with
              | .ok _ => [.event .narrowedByDelegate]
              | .error _ => []
          | _, _ => [] := by
  rcases session with ⟨agent, delegate⟩
  rcases h : service.config.isAdministrator agent with _ | _
  · rcases ha : (outcomeFor store now id agent).answer service with stop | outcome
    · cases delegate <;> simp [authorizedModes, h, ha]
    · rcases delegate with _ | delegate
      · simp [authorizedModes, h]
      · rcases hd : (outcomeFor store now id delegate).answer
            ((outcomeFor store now id agent).after service) with stop | delegated <;>
          simp [authorizedModes, h, ha, hd]
  · simp [authorizedModes, h]

/-- Asking for the modes alone takes the notes of asking for the outcome. -/
@[simp] theorem notes_accessModes (store : Store) (now : Nat) (id : Identifier)
    (session : Session) (service : Service) :
    (accessModes store now id session).notes service =
      (authorizedModes store now id session).notes service := by
  simp [accessModes]

/-- The notes that are taken of the answer to a request. -/
def notesOnReply : Except Stop Decision → List Note
  | .ok decision => [.decision decision.verdict]
  | .error (.failed _) => [.event .checkFailed]
  | .error .unfinished => []

/-- The notes of a request are those of asking for the modes, followed by that on the reply. -/
theorem notes_check (store : Store) (now : Nat) (id : Identifier) (session : Session)
    (method : Method) (target : RequestTarget) (service : Service) :
    (check store now id session method target).notes service =
      (authorizedModes store now id session).notes service ++
        notesOnReply ((check store now id session method target).answer service) := by
  rcases h : (authorizedModes store now id session).answer service with (_ | _) | outcome
  · simp [check, h, notes_onFault, notesOnReply]
  · simp [check, h, notes_onFault, notesOnReply]
  · simp [check, h, notes_onFault, notesOnReply]

/-- Giving the root its rules takes no note that is counted. -/
theorem uncounted_ensureRootRules {σ : Type} (store : Store)
    (write : Identifier → Rdf.Graph → Except Fault σ) (service : Service) :
    Note.Uncounted ((ensureRootRules store write).notes service) := by
  have hfetch : Note.Uncounted (store.fetch service.config.root).notes :=
    store.silent_fetch service.config.root
  rcases hinit : service.config.initializeRoot with _ | _
  · simp [ensureRootRules, hinit, Note.Uncounted]
  · rcases hread : (store.fetch service.config.root).answer with stop | existing
    · simpa [ensureRootRules, hinit, hread] using hfetch
    · rcases hacl : existing.any (·.hasAcl) with _ | _
      · rcases hw : write service.config.root (rootRules service.config.root) with fault | written
        · simpa [ensureRootRules, hinit, hread, hacl, hw] using hfetch
        · simpa [ensureRootRules, hinit, hread, hacl, hw] using
            hfetch.append (Note.uncounted_event _)
      · simpa [ensureRootRules, hinit, hread, hacl] using hfetch.append (Note.uncounted_event _)

/-! ## Proceedings -/

/-- What goes on while a service is used. -/
structure Proceedings where
  /-- The notes it takes. -/
  notes : List Note
  /-- The resolutions it makes. -/
  resolutions : List (Inquiry Outcome)
  /-- What it answers to requests. -/
  replies : List (Except Stop Decision)

namespace Proceedings

/-- Nothing goes on. -/
def nothing : Proceedings := ⟨[], [], []⟩

/-- One thing goes on after another. -/
def followedBy (p q : Proceedings) : Proceedings :=
  ⟨p.notes ++ q.notes, p.resolutions ++ q.resolutions, p.replies ++ q.replies⟩

/-- What resolutions answered, of those that did. -/
def outcomes (p : Proceedings) : List Outcome :=
  p.resolutions.filterMap fun x => x.answer.toOption

/-- The number of resolutions that stopped without an answer. -/
def failures (p : Proceedings) : Nat :=
  p.resolutions.countP fun x => x.answer.toOption.isNone

/-- The decisions on the requests that were answered. -/
def decisions (p : Proceedings) : List Decision :=
  p.replies.filterMap Except.toOption

variable (p q : Proceedings)

/-- The outcomes of two things in sequence are those of the first, then those of the second. -/
theorem outcomes_followedBy : (p.followedBy q).outcomes = p.outcomes ++ q.outcomes :=
  List.filterMap_append

/-- The decisions of two things in sequence are those of the first, then those of the second. -/
theorem decisions_followedBy : (p.followedBy q).decisions = p.decisions ++ q.decisions :=
  List.filterMap_append

/-- Each resolution has an outcome or is one that failed. -/
theorem length_outcomes_add_failures :
    p.outcomes.length + p.failures = p.resolutions.length := by
  have hfailures : p.failures =
      p.resolutions.countP fun x => ¬x.answer.toOption.isSome = true := by
    unfold failures
    congr 1
    funext x
    cases x.answer.toOption <;> rfl
  rw [outcomes, List.length_filterMap_eq_countP, hfailures]
  exact (List.length_eq_countP_add_countP _).symm

end Proceedings

/-- From one state of the service to the other, each look-up in the cache, each resolution that
answers and each decision has been noted once. If there is a cache, one resolution was made for
each miss. -/
structure Booked (service service' : Service) (p : Proceedings) : Prop where
  cached : service'.cache.isSome = service.cache.isSome
  looked : ∀ hit, service'.looked hit = service.looked hit + p.notes.count (.cacheLookup hit)
  missed : service.cache.isSome = true →
    p.notes.count (.cacheLookup false) = p.resolutions.length
  resolved : ∀ found, p.notes.count (.resolution found) =
    p.outcomes.countP fun outcome => outcome.effectiveAcl.isSome = found
  decided : ∀ verdict, p.notes.count (.decision verdict) =
    p.decisions.countP fun decision => decision.verdict = verdict

/-- What is booked in two steps is booked from the first state to the last. -/
theorem Booked.trans {p q : Proceedings} (h : Booked service service' p)
    (h' : Booked service' service'' q) : Booked service service'' (p.followedBy q) where
  cached := h'.cached.trans h.cached
  looked hit := by
    rw [h'.looked, h.looked, Nat.add_assoc]
    exact congrArg _ List.count_append.symm
  missed hcache := by
    have hq := h'.missed (h.cached.trans hcache)
    simp only [Proceedings.followedBy, List.count_append, List.length_append, h.missed hcache, hq]
  resolved found := by
    rw [Proceedings.outcomes_followedBy, List.countP_append, ← h.resolved, ← h'.resolved]
    exact List.count_append
  decided verdict := by
    rw [Proceedings.decisions_followedBy, List.countP_append, ← h.decided, ← h'.decided]
    exact List.count_append

/-- Notes that are not counted change no account of a service whose look-ups stay what they are. -/
theorem booked_of_uncounted {ns : List Note}
    (hcached : service'.cache.isSome = service.cache.isSome)
    (hlooked : ∀ hit, service'.looked hit = service.looked hit)
    (h : Note.Uncounted ns) : Booked service service' ⟨ns, [], []⟩ where
  cached := hcached
  looked hit := by rw [hlooked, h.count_eq_zero rfl, Nat.add_zero]
  missed _ := h.count_eq_zero rfl
  resolved _ := h.count_eq_zero rfl
  decided _ := h.count_eq_zero rfl

/-- Where nothing goes on everything is booked. -/
theorem booked_nothing (service : Service) : Booked service service .nothing :=
  booked_of_uncounted rfl (fun _ => rfl) nofun

/-- An event needs no booking. -/
theorem booked_event (e : Event) (service : Service) :
    Booked service service ⟨[.event e], [], []⟩ :=
  booked_of_uncounted rfl (fun _ => rfl) (Note.uncounted_event e)

/-- The reply to a request is booked by the note on it. -/
theorem booked_reply (reply : Except Stop Decision) (service : Service) :
    Booked service service ⟨notesOnReply reply, [], [reply]⟩ where
  cached := rfl
  looked _ := by rcases reply with (_ | _) | _ <;> rfl
  missed _ := by rcases reply with (_ | _) | _ <;> rfl
  resolved _ := by rcases reply with (_ | _) | _ <;> rfl
  decided verdict := by
    rcases reply with (_ | _) | decision
    · rfl
    · rfl
    · simp [notesOnReply, Proceedings.decisions, Except.toOption, List.count_singleton,
        List.countP_singleton]

/-! ## Calls -/

/-- A look-up is booked. -/
theorem booked_outcomeFor (store : Store) (now : Nat) (id : Identifier) (agent : String)
    (service : Service) :
    Booked service ((outcomeFor store now id agent).after service)
      ⟨(outcomeFor store now id agent).notes service,
        resolutionsFor store now id agent service, []⟩ where
  cached := by
    have hlimits := (grown_outcomeFor store now id agent service).limits
    simpa [limits?] using congrArg Option.isSome hlimits
  looked hit := by
    rw [looked_outcomeFor, count_notes_outcomeFor store now id agent service rfl]
    simp
  missed hcache := by
    rw [count_notes_outcomeFor store now id agent service rfl, count_misses store hcache]
    simp
  resolved found := by
    rw [count_notes_outcomeFor store now id agent service rfl, count_cacheNotes (by simp) rfl]
    simp [Proceedings.outcomes]
  decided verdict := by
    rw [count_notes_outcomeFor store now id agent service rfl, count_cacheNotes (by simp) rfl]
    simp [Proceedings.decisions]

/-- Asking for the modes of a session is booked. -/
theorem booked_authorizedModes (store : Store) (now : Nat) (id : Identifier) (session : Session)
    (service : Service) :
    Booked service ((authorizedModes store now id session).after service)
      ⟨(authorizedModes store now id session).notes service,
        resolutions store now id session service, []⟩ := by
  have hown := booked_outcomeFor store now id session.agent service
  rw [after_authorizedModes, notes_authorizedModes, resolutions]
  rcases h : service.config.isAdministrator session.agent with _ | _
  · rcases hd : session.delegate with _ | delegate
    · simpa using hown
    · rcases ha : (outcomeFor store now id session.agent).answer service with stop | outcome
      · simpa [ha] using hown
      · -- The delegate is looked up in what the first look-up leaves.
        have hboth := hown.trans <| booked_outcomeFor store now id delegate
          ((outcomeFor store now id session.agent).after service)
        rcases hother : (outcomeFor store now id delegate).answer
            ((outcomeFor store now id session.agent).after service) with stop | delegated
        · simpa [ha, hother, Proceedings.followedBy] using hboth
        · have hnarrowed := hboth.trans <| booked_event .narrowedByDelegate _
          simpa [ha, hother, Proceedings.followedBy] using hnarrowed
  · exact booked_event .administratorSession service

/-- A request is booked, with its reply. -/
theorem booked_check (store : Store) (now : Nat) (id : Identifier) (session : Session)
    (method : Method) (target : RequestTarget) (service : Service) :
    Booked service ((check store now id session method target).after service)
      ⟨(check store now id session method target).notes service,
        resolutions store now id session service,
        [(check store now id session method target).answer service]⟩ := by
  have hmodes := booked_authorizedModes store now id session service
  have hanswer := hmodes.trans <|
    booked_reply ((check store now id session method target).answer service) _
  rw [after_check, notes_check]
  simpa [Proceedings.followedBy] using hanswer

/-- Dropping the outcomes of a resource needs no booking. -/
theorem booked_invalidate (id : Identifier) (service : Service) :
    Booked service (service.invalidate id) .nothing := by
  refine booked_of_uncounted ?_ (fun hit => ?_) nofun
  · rcases hc : service.cache with _ | c <;> simp [invalidate, mapCache, hc]
  · rcases hc : service.cache with _ | c <;>
      simp [looked, invalidate, mapCache, hc, Cache.looked, Cache.invalidate]

/-- Dropping all outcomes needs no booking. -/
theorem booked_clearCache (service : Service) : Booked service service.clearCache .nothing := by
  refine booked_of_uncounted ?_ (fun hit => ?_) nofun
  · rcases hc : service.cache with _ | c <;> simp [clearCache, mapCache, hc]
  · rcases hc : service.cache with _ | c <;>
      simp [looked, clearCache, mapCache, hc, Cache.looked, Cache.clear]

/-! ## Runs -/

namespace Moment

variable {σ : Type} {view : σ → Store}

/-- What goes on in a step. -/
def proceedings (view : σ → Store) (m : Moment σ) : Step σ → Proceedings
  | .wait _ | .change _ | .invalidate _ | .clear => .nothing
  | .authorized id session =>
    ⟨(authorizedModes (m.store view) m.now id session).notes m.service,
      resolutions (m.store view) m.now id session m.service, []⟩
  | .access id session =>
    ⟨(accessModes (m.store view) m.now id session).notes m.service,
      resolutions (m.store view) m.now id session m.service, []⟩
  | .check id session method target =>
    ⟨(check (m.store view) m.now id session method target).notes m.service,
      resolutions (m.store view) m.now id session m.service,
      [(check (m.store view) m.now id session method target).answer m.service]⟩
  | .giveRules write => ⟨(ensureRootRules (m.store view) (write m.world)).notes m.service, [], []⟩

/-- What goes on in a sequence of steps. -/
def history (view : σ → Store) (m : Moment σ) : List (Step σ) → Proceedings
  | [] => .nothing
  | step :: steps => (m.proceedings view step).followedBy ((m.next view step).history view steps)

/-- What goes on in a step of a run is booked. -/
theorem booked_next (m : Moment σ) (step : Step σ) :
    Booked m.service (m.next view step).service (m.proceedings view step) := by
  cases step with
  | wait span => exact booked_nothing m.service
  | change world => exact booked_nothing m.service
  | authorized id session => exact booked_authorizedModes _ _ id session m.service
  | access id session =>
    simpa only [next, proceedings, after_accessModes, notes_accessModes] using
      booked_authorizedModes (m.store view) m.now id session m.service
  | check id session method target => exact booked_check _ _ id session method target m.service
  | invalidate id => exact booked_invalidate id m.service
  | clear => exact booked_clearCache m.service
  | giveRules write =>
    have huncounted := uncounted_ensureRootRules (m.store view) (write m.world) m.service
    simp only [next, proceedings, after_ensureRootRules]
    split
    · have hdropped := booked_invalidate m.service.config.root m.service
      exact booked_of_uncounted hdropped.cached hdropped.looked huncounted
    · exact booked_of_uncounted rfl (fun _ => rfl) huncounted

/-- What goes on in a run is booked. -/
theorem booked_run (m : Moment σ) (steps : List (Step σ)) :
    Booked m.service (m.run view steps).service (m.history view steps) := by
  induction steps generalizing m with
  | nil => exact booked_nothing m.service
  | cons step steps ih => exact (booked_next m step).trans (ih (m.next view step))

/-- Every decision is counted under exactly one of the three verdicts. -/
theorem length_eq_countP_verdicts (decisions : List Decision) :
    decisions.countP (fun decision => decision.verdict = .granted) +
        decisions.countP (fun decision => decision.verdict = .unauthenticated) +
        decisions.countP (fun decision => decision.verdict = .forbidden) =
      decisions.length := by
  induction decisions with
  | nil => rfl
  | cons decision decisions ih =>
    rcases h : decision.verdict with _ | _ | _ <;> simp [h] <;> omega

/-- After any run of a service that starts with an empty cache or with none, a recorder that has
counted the notes of the run agrees with the cache and with the answers. If there is a cache, both
count the same hits and misses, and every miss was resolved, with an answer or not. The resolutions
that are counted are those that answered, by whether they found rules, and the decisions are those
of the requests that were answered. -/
theorem metrics_after_run (view : σ → Store) (config : ServiceConfig)
    (limits? : Option CacheLimits) (world : σ) (now : Nat) (steps : List (Step σ)) :
    let start : Moment σ := ⟨.new config (limits?.map .empty), world, now⟩
    let last := start.run view steps
    let past := start.history view steps
    let recorder := Telemetry.Recorder.empty.notes past.notes
    last.service.cache.isSome = limits?.isSome ∧
      (∀ c, last.service.cache = some c →
        recorder.hits = c.stats.hits ∧ recorder.misses = c.stats.misses ∧
          recorder.found + recorder.notFound + past.failures = c.stats.misses) ∧
      recorder.found + recorder.notFound = past.outcomes.length ∧
      recorder.notFound = past.outcomes.countP (fun outcome => outcome.effectiveAcl = none) ∧
      recorder.granted + recorder.unauthenticated + recorder.forbidden = past.decisions.length ∧
      ∀ verdict, recorder.tally (.decision verdict) =
        past.decisions.countP fun decision => decision.verdict = verdict := by
  intro start last past recorder
  have hbooked : Booked start.service last.service past := booked_run start steps
  have htally : ∀ n, n.isCounted = true → recorder.tally n = past.notes.count n := by
    intro n hn
    rw [Telemetry.Recorder.tally_notes hn, Telemetry.Recorder.tally_empty, Nat.zero_add]
  have hcached : start.service.cache.isSome = limits?.isSome := Option.isSome_map
  have hnothing : ∀ hit, start.service.looked hit = 0 := by
    intro hit
    cases limits? <;> cases hit <;> rfl
  have hlooked : ∀ hit, recorder.tally (.cacheLookup hit) = last.service.looked hit := by
    intro hit
    rw [htally _ rfl, hbooked.looked, hnothing, Nat.zero_add]
  have hresolved : ∀ found, recorder.tally (.resolution found) =
      past.outcomes.countP fun outcome => outcome.effectiveAcl.isSome = found := by
    intro found
    rw [htally _ rfl, hbooked.resolved]
  have hdecided : ∀ verdict, recorder.tally (.decision verdict) =
      past.decisions.countP fun decision => decision.verdict = verdict := by
    intro verdict
    rw [htally _ rfl, hbooked.decided]
  have hanswered : recorder.found + recorder.notFound = past.outcomes.length := by
    have hfound : recorder.found = _ := hresolved true
    have hnot : recorder.notFound = _ := hresolved false
    rw [hfound, hnot]
    simpa using (List.length_eq_countP_add_countP fun outcome : Outcome =>
      outcome.effectiveAcl.isSome).symm
  refine ⟨hbooked.cached.trans hcached, ?_, hanswered, ?_, ?_, hdecided⟩
  · intro c hc
    have hlast : ∀ hit, recorder.tally (.cacheLookup hit) = c.looked hit := by
      intro hit
      rw [hlooked, looked, hc]
    have hcache : start.service.cache.isSome = true := by
      rw [← hbooked.cached, hc]
      rfl
    have hmissed : recorder.misses = past.resolutions.length :=
      (htally (.cacheLookup false) rfl).trans (hbooked.missed hcache)
    refine ⟨hlast true, hlast false, ?_⟩
    rw [hanswered, Proceedings.length_outcomes_add_failures, ← hmissed]
    exact hlast false
  · have hnot : recorder.notFound = _ := hresolved false
    simpa using hnot
  · rw [← length_eq_countP_verdicts, ← hdecided, ← hdecided, ← hdecided]
    rfl

/-- Requests and look-ups for which modes are found, remembered, missing or not to be had: while the
team cannot be read, the request of `alice` for `bob` is not answered. -/
def mixedRun : List (Step Bool) :=
  let delegated := (Session.new "alice").delegatedBy "bob"
  [.check "/a" (.new "alice") .get .resource, .access "/a" (.new "alice"),
    .check "/b" delegated .get .resource, .change true, .check "/b" delegated .post .resource,
    .authorized "x" (.new "carol"), .check "x" (.new "nobody") .get .resource,
    .check "x" (.new "root") .get .acl, .clear]

/-- Of six misses three were resolved with rules, two without, and one was not answered. Four of
five requests were decided. Without a cache the two hits are resolved as well. -/
theorem three_counts_of_mixed_run :
    let start : Moment Bool := ⟨.new plainConfig (some (.empty ⟨10, .ofSeconds 10⟩)), false, 0⟩
    let past := start.history teamWorld mixedRun
    let recorder := Telemetry.Recorder.empty.notes past.notes
    let plain := start.uncached.history teamWorld mixedRun
    recorder = ⟨3, 2, 0, 2, 6, 2, 1, 1⟩ ∧
      (start.run teamWorld mixedRun).service.cache.map (·.stats) = some ⟨2, 6, 0, 0⟩ ∧
      past.outcomes.length = 5 ∧ past.failures = 1 ∧ past.decisions.length = 4 ∧
      past.replies.length = 5 ∧ plain.outcomes.length = 7 := by
  intro start past recorder plain
  have hrecorder : recorder = ⟨3, 2, 0, 2, 6, 2, 1, 1⟩ := by decide +kernel
  have hplain : Telemetry.Recorder.empty.notes plain.notes = ⟨5, 2, 0, 0, 0, 2, 1, 1⟩ := by
    decide +kernel
  have hstats : (start.run teamWorld mixedRun).service.cache.map (·.stats) =
      some ⟨2, 6, 0, 0⟩ := by decide +kernel
  have hreplies : past.replies.length = 5 := by decide +kernel
  obtain ⟨-, hcache, hanswered, -, hdecided, -⟩ :=
    metrics_after_run teamWorld plainConfig (some ⟨10, .ofSeconds 10⟩) false 0 mixedRun
  obtain ⟨-, -, hresolved, -⟩ := metrics_after_run teamWorld plainConfig none false 0 mixedRun
  obtain ⟨c, hc, hcounts⟩ := Option.map_eq_some_iff.1 hstats
  obtain ⟨-, -, hmissed⟩ := hcache c hc
  have hfound : recorder.found + recorder.notFound = 5 :=
    congrArg (fun r => r.found + r.notFound) hrecorder
  have hmisses : c.stats.misses = 6 := congrArg CacheStats.misses hcounts
  refine ⟨hrecorder, hstats, hanswered.symm.trans hfound, ?_, ?_, hreplies, ?_⟩
  · have hsum : 5 + past.failures = 6 := by
      rw [← hfound, ← hmisses]
      exact hmissed
    exact Nat.add_left_cancel hsum
  · exact hdecided.symm.trans
      (congrArg (fun r => r.granted + r.unauthenticated + r.forbidden) hrecorder)
  · exact hresolved.symm.trans (congrArg (fun r => r.found + r.notFound) hplain)

end Moment

end Service

end WebAccess
