import WebAccess.Proofs.CacheEntries

/-!
# Runs of a cache

A cache is asked, given outcomes, emptied for one resource or altogether, and time passes. No step
changes an entry: it is still there as it was, or it was inserted in this step
(`Cache.Moment.mem_next`). In particular a hit moves an entry behind the others and leaves its
outcome and its age alone. So whatever stands in a cache after a run is as one insertion of the run
has left it, and no step since has replaced or dropped it (`Cache.Moment.mem_run`).

Main statement: what a look-up yields after a run is the outcome of the last insertion under the
key, which is no longer ago than the time to live (`Cache.Moment.last_insertion_of_lookup`).
-/

set_option autoImplicit false

namespace WebAccess.Cache

/-- One step of a run of a cache. -/
inductive Step where
  /-- Time passes. -/
  | wait (span : Duration)
  | get (key : CacheKey)
  | insert (key : CacheKey) (outcome : Outcome)
  | invalidate (id : Identifier)
  | clear

/-- The step leaves nothing of what was inserted under the key before it. -/
def Step.Forgets (key : CacheKey) : Step → Prop
  | .insert other _ => other = key
  | .invalidate id => id = key.identifier
  | .clear => True
  | .wait _ | .get _ => False

/-- A cache and the time. -/
structure Moment where
  cache : Cache
  now : Nat

namespace Moment

/-- The moment after a step. -/
def next (m : Moment) : Step → Moment
  | .wait span => { m with now := m.now + span }
  | .get key => { m with cache := (m.cache.get m.now key).2 }
  | .insert key outcome => { m with cache := m.cache.insert m.now key outcome }
  | .invalidate id => { m with cache := m.cache.invalidate id }
  | .clear => { m with cache := m.cache.clear }

/-- The moment after a sequence of steps. -/
def run (m : Moment) (steps : List Step) : Moment := steps.foldl next m

/-- What a look-up under the key yields. -/
def lookup (m : Moment) (key : CacheKey) : Option Outcome := (m.cache.get m.now key).1

variable {start m : Moment} {step : Step} {steps : List Step} {e : CacheEntry}

/-- A run without steps stays where it is. -/
@[simp] theorem run_nil (m : Moment) : m.run [] = m := rfl

/-- A run takes its first step and then runs the others from there. -/
@[simp] theorem run_cons (m : Moment) (step : Step) (steps : List Step) :
    m.run (step :: steps) = (m.next step).run steps := rfl

/-- Two sequences of steps are run one after the other. -/
theorem run_append (m : Moment) (before after : List Step) :
    m.run (before ++ after) = (m.run before).run after :=
  List.foldl_append

/-! ## One step -/

/-- A step leaves the limits of the cache. -/
@[simp] theorem limits_next (m : Moment) (step : Step) :
    (m.next step).cache.limits = m.cache.limits := by
  cases step <;> simp [next]

/-- No step goes back in time. -/
theorem now_le_next (m : Moment) (step : Step) : m.now ≤ (m.next step).now := by
  cases step with
  | wait span => exact Nat.le_add_right m.now span
  | _ => exact Nat.le_refl m.now

/-- An entry that is there after a step was there before, and the step does not forget it, or it is
the one that the step inserts. -/
theorem mem_next (henabled : m.cache.limits.isDisabled = false)
    (he : e ∈ (m.next step).cache.entries) :
    (e ∈ m.cache.entries ∧ ¬step.Forgets e.key) ∨
      (step = .insert e.key e.outcome ∧ e.created = m.now) := by
  cases step with
  | wait span => exact .inl ⟨he, id⟩
  | get key => exact .inl ⟨mem_of_mem_get he, id⟩
  | insert key outcome =>
    rcases mem_of_mem_insert_enabled henabled he with ⟨hold, hne⟩ | rfl
    · exact .inl ⟨hold, hne.symm⟩
    · exact .inr ⟨rfl, rfl⟩
  | invalidate id =>
    obtain ⟨hold, hne⟩ := mem_invalidate.1 he
    exact .inl ⟨hold, hne.symm⟩
  | clear => exact absurd he List.not_mem_nil

/-! ## Runs -/

/-- A run leaves the limits of the cache. -/
@[simp] theorem limits_run (m : Moment) (steps : List Step) :
    (m.run steps).cache.limits = m.cache.limits := by
  induction steps generalizing m with
  | nil => rfl
  | cons step steps ih => rw [run_cons, ih, limits_next]

/-- No run goes back in time. -/
theorem now_le_run (m : Moment) (steps : List Step) : m.now ≤ (m.run steps).now := by
  induction steps generalizing m with
  | nil => exact Nat.le_refl m.now
  | cons step steps ih => exact Nat.le_trans (now_le_next m step) (ih (m.next step))

/-- The outcome was inserted under the key at the time `at_` of the run, and no step since has
replaced or dropped what is remembered under this key. -/
def LastInsertion (start : Moment) (steps : List Step) (key : CacheKey) (outcome : Outcome)
    (at_ : Nat) : Prop :=
  ∃ before after, steps = before ++ .insert key outcome :: after ∧
    (start.run before).now = at_ ∧ ∀ step ∈ after, ¬step.Forgets key

/-- The last insertion under a key is not later than the end of the run. -/
theorem LastInsertion.time_le {key : CacheKey} {outcome : Outcome} {at_ : Nat}
    (h : LastInsertion start steps key outcome at_) : at_ ≤ (start.run steps).now := by
  obtain ⟨before, after, rfl, rfl, -⟩ := h
  rw [run_append]
  exact now_le_run (start.run before) _

/-- An entry that is there at the end of a run was there at its start and was not forgotten, or it
is as the last insertion under its key has left it. -/
theorem mem_run (henabled : start.cache.limits.isDisabled = false)
    (he : e ∈ (start.run steps).cache.entries) :
    (e ∈ start.cache.entries ∧ ∀ step ∈ steps, ¬step.Forgets e.key) ∨
      LastInsertion start steps e.key e.outcome e.created := by
  -- The entry is traced back to the step that inserted it.
  induction steps generalizing start with
  | nil => exact .inl ⟨he, by simp⟩
  | cons step steps ih =>
    have hstill : (start.next step).cache.limits.isDisabled = false := by rwa [limits_next]
    rcases ih hstill he with ⟨hnext, hkept⟩ | ⟨before, after, rfl, htime, hkept⟩
    · rcases mem_next henabled hnext with ⟨hold, hstep⟩ | ⟨rfl, htime⟩
      · left
        refine ⟨hold, ?_⟩
        intro s hs
        rcases List.mem_cons.1 hs with rfl | hlater
        · exact hstep
        · exact hkept s hlater
      · exact .inr ⟨[], steps, rfl, htime.symm, hkept⟩
    · exact .inr ⟨step :: before, after, rfl, htime, hkept⟩

/-- What a look-up yields after a run that starts with an empty cache: something can be kept at all,
and the outcome is the one inserted last under the key, not dropped since and not older than the
time to live. -/
theorem last_insertion_of_lookup {limits : CacheLimits} {now : Nat} {steps : List Step}
    {key : CacheKey} {outcome : Outcome}
    (h : (run ⟨.empty limits, now⟩ steps).lookup key = some outcome) :
    let start : Moment := ⟨.empty limits, now⟩
    limits.isDisabled = false ∧
      ∃ at_, LastInsertion start steps key outcome at_ ∧ at_ ≤ (start.run steps).now ∧
        (start.run steps).now ≤ at_ + limits.timeToLive := by
  intro start
  have hlimits : (start.run steps).cache.limits = limits := limits_run start steps
  have henabled : limits.isDisabled = false := by
    rw [← hlimits]
    exact enabled_of_get h
  obtain ⟨e, hmem, rfl, rfl, hage⟩ := get_eq_some h
  have hinserted : LastInsertion start steps e.key e.outcome e.created := by
    rcases mem_run henabled hmem with ⟨hstart, -⟩ | hinserted
    · exact absurd hstart List.not_mem_nil
    · exact hinserted
  have hbefore : e.created ≤ (start.run steps).now := hinserted.time_le
  rw [hlimits] at hage
  exact ⟨henabled, e.created, hinserted, hbefore, hage⟩

/-- Two outcomes are inserted for `alice` on `/a`. The cache holds two entries; hers is touched in
time to outlast a third, and gets as old as it may. -/
def crowdedRun : List Step :=
  [.insert ⟨"/a", "alice"⟩ .denied, .insert ⟨"/b", "alice"⟩ .denied,
    .insert ⟨"/a", "alice"⟩ .unrestricted, .insert ⟨"/b", "bob"⟩ .denied, .wait (.ofSeconds 5),
    .get ⟨"/a", "alice"⟩, .insert ⟨"/c", "alice"⟩ .denied, .invalidate "/b",
    .wait (.ofSeconds 5)]

/-- It is found, with the second of the outcomes. -/
theorem second_outcome_found_in_time :
    let start : Moment := ⟨.empty ⟨2, .ofSeconds 10⟩, 0⟩
    (start.run crowdedRun).lookup ⟨"/a", "alice"⟩ = some .unrestricted ∧
      ∃ at_, LastInsertion start crowdedRun ⟨"/a", "alice"⟩ .unrestricted at_ ∧
        (start.run crowdedRun).now ≤ at_ + Duration.ofSeconds 10 := by
  intro start
  have hfound : (start.run crowdedRun).lookup ⟨"/a", "alice"⟩ = some .unrestricted := by
    decide +kernel
  obtain ⟨-, at_, hinserted, -, hage⟩ := last_insertion_of_lookup hfound
  exact ⟨hfound, at_, hinserted, hage⟩

end Moment

end WebAccess.Cache
