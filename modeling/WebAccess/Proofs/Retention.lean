import Mathlib.Data.Finset.Card
import WebAccess.Proofs.TouchOrder

/-!
# What a cache keeps

Where no step clears the cache or drops the resource of an entry, a fresh entry is lost only when an
insertion displaces it (`Cache.Moment.mem_next_of_mem`). The entry then stands in front of a full
cache, so all the others stand behind it, and with the key that is inserted they are as many keys as
the cache has room for. By the order of the entries these keys were touched since the entry was. So
an entry outlasts every sequence of steps that touches fewer other keys
(`Cache.Moment.mem_run_of_few_touched`).

Main statement: an outcome is found as long as it is not too old and its key was touched more
recently than most (`Cache.Moment.recently_touched_is_found`).
-/

set_option autoImplicit false

namespace WebAccess.Cache.Moment

variable {start m : Moment} {step : Step} {steps later : List Step} {key : CacheKey}
  {outcome : Outcome} {e : CacheEntry} {history since : List CacheKey}

/-! ## Entries that stay -/

/-- A step that neither touches the key of a fresh entry nor drops its resource keeps the entry,
unless it is an insertion that displaces it. -/
theorem mem_next_of_mem (horder : InOrder history m.cache) (he : e ∈ m.cache.entries)
    (hfresh : e.isExpired m.cache.limits m.now = false) (htouch : m.touch? step ≠ some e.key)
    (hclear : step ≠ .clear) (hinvalidate : step ≠ .invalidate e.key.identifier) :
    e ∈ (m.next step).cache.entries ∨
      ∃ key outcome, step = .insert key outcome ∧ m.cache.Displaces m.now key outcome e := by
  cases step with
  | wait span => exact .inl he
  | get key => exact .inl (mem_get_of_mem horder.distinct he hfresh key)
  | insert key outcome =>
    have hother : e.key ≠ key := by
      rintro rfl
      exact htouch rfl
    by_cases hkept : e ∈ (m.cache.insert m.now key outcome).entries
    · exact .inl hkept
    · exact .inr ⟨key, outcome, rfl, he, hother, hfresh, hkept⟩
  | invalidate id =>
    left
    apply mem_invalidate.2
    refine ⟨he, ?_⟩
    rintro rfl
    exact hinvalidate rfl
  | clear => exact absurd rfl hclear

/-- A displaced entry had as many other keys touched since as the cache has room for, the inserted
one among them. -/
theorem maxEntries_le_card_of_displaced (henabled : m.cache.limits.isDisabled = false)
    (horder : InOrder (history ++ e.key :: since) m.cache) (hsince : e.key ∉ since)
    (h : m.cache.Displaces m.now key outcome e) :
    m.cache.limits.maxEntries ≤ (key :: since).toFinset.card := by
  obtain ⟨hfull, hall, rest, hentries, -⟩ := entries_of_displaced horder.size henabled h
  have hsorted := horder.sorted
  have hdistinct := horder.distinct
  rw [hentries, List.pairwise_cons] at hsorted
  rw [hentries, List.map_cons, List.nodup_cons] at hdistinct
  have hnew : key ∉ rest.map (·.key) := by
    intro hmem
    obtain ⟨e', he', hkey⟩ := List.mem_map.1 hmem
    exact (hall e' (hentries ▸ List.mem_cons_of_mem e he')).1 hkey
  have hbehind : ∀ k ∈ key :: rest.map (·.key), k ∈ key :: since := by
    intro k hk
    rcases List.mem_cons.1 hk with rfl | hrest
    · exact List.mem_cons_self
    · obtain ⟨e', he', rfl⟩ := List.mem_map.1 hrest
      exact List.mem_cons_of_mem key ((hsorted.1 e' he').mem_later hsince)
  calc m.cache.limits.maxEntries
      = (key :: rest.map (·.key)).length := by
        rw [← hfull, hentries, List.length_cons, List.length_cons, List.length_map]
    _ = (key :: rest.map (·.key)).toFinset.card :=
        (List.toFinset_card_of_nodup (List.nodup_cons.2 ⟨hnew, hdistinct.2⟩)).symm
    _ ≤ (key :: since).toFinset.card :=
        Finset.card_le_card fun k hk => List.mem_toFinset.2 (hbehind k (List.mem_toFinset.1 hk))

/-- An entry outlasts steps in which it does not get too old, its resource is not dropped, and fewer
keys are touched than the cache has room for, those counted that were touched since its own key. -/
theorem mem_run_of_few_touched (henabled : m.cache.limits.isDisabled = false)
    (horder : InOrder (history ++ e.key :: since) m.cache) (hsince : e.key ∉ since)
    (he : e ∈ m.cache.entries) (huntouched : e.key ∉ m.touched later)
    (hfew : (since ++ m.touched later).toFinset.card < m.cache.limits.maxEntries)
    (hclear : .clear ∉ later) (hinvalidate : .invalidate e.key.identifier ∉ later)
    (hage : (m.run later).now ≤ e.created + m.cache.limits.timeToLive) :
    e ∈ (m.run later).cache.entries := by
  induction later generalizing m since with
  | nil => exact he
  | cons step later ih =>
    rw [List.mem_cons, not_or] at hclear hinvalidate
    rw [touched, List.mem_append, not_or] at huntouched
    rw [touched, ← List.append_assoc] at hfew
    have hfresh : e.isExpired m.cache.limits m.now = false :=
      isExpired_eq_false_iff.2 (Nat.le_trans (now_le_run m (step :: later)) hage)
    have htouch : m.touch? step ≠ some e.key := by
      intro h
      exact huntouched.1 (by simp [h])
    rcases mem_next_of_mem horder he hfresh htouch (Ne.symm hclear.1) (Ne.symm hinvalidate.1) with
      hkept | ⟨key, outcome, rfl, hdisplaced⟩
    · have horder' := horder.next henabled step
      rw [List.append_assoc, List.cons_append] at horder'
      have hsince' : e.key ∉ since ++ (m.touch? step).toList := by
        rw [List.mem_append, not_or]
        exact ⟨hsince, huntouched.1⟩
      have hlimits := limits_next m step
      rw [← hlimits] at henabled hfew hage
      exact ih henabled horder' hsince' hkept huntouched.2 hfew hclear.2 hinvalidate.2 hage
    · -- The key inserted and those behind the entry would be too many.
      have hmany := maxEntries_le_card_of_displaced henabled horder hsince hdisplaced
      have hfewer : (key :: since).toFinset.card ≤ (since ++
          (m.touch? (.insert key outcome)).toList ++
            (m.next (.insert key outcome)).touched later).toFinset.card := by
        apply Finset.card_le_card
        intro k hk
        apply List.mem_toFinset.2
        apply List.mem_append_left
        exact (List.perm_append_singleton key since).mem_iff.2 (List.mem_toFinset.1 hk)
      omega

/-! ## The last touch and the last insertion -/

/-- The last touch of the key in a run is followed by the steps `later`, which touch the keys
`since`. -/
def LastTouch (start : Moment) (steps : List Step) (key : CacheKey) (later : List Step)
    (since : List CacheKey) : Prop :=
  ∃ earlier touch, steps = earlier ++ touch :: later ∧
    (start.run earlier).touch? touch = some key ∧
    (start.run (earlier ++ [touch])).touched later = since ∧ key ∉ since

/-- Of the insertions under the key in a run, the last was that of the outcome, at the time `at_`;
what came of it does not matter. -/
def InsertedLast (start : Moment) (steps : List Step) (key : CacheKey) (outcome : Outcome)
    (at_ : Nat) : Prop :=
  ∃ before after, steps = before ++ .insert key outcome :: after ∧
    (start.run before).now = at_ ∧ ∀ other, .insert key other ∉ after

/-- The last insertion before some steps is the last one behind them too if they insert nothing
under its key. -/
theorem LastInsertion.insertedLast {at_ : Nat} (h : LastInsertion start steps key outcome at_)
    (hlater : ∀ other, .insert key other ∉ later) :
    InsertedLast start (steps ++ later) key outcome at_ := by
  obtain ⟨before, after, rfl, htime, hkept⟩ := h
  refine ⟨before, after ++ later, by simp, htime, ?_⟩
  intro other hmem
  rcases List.mem_append.1 hmem with hin | hin
  · exact hkept _ hin rfl
  · exact hlater other hin

/-- There is one last insertion under a key. -/
theorem InsertedLast.unique {outcome' : Outcome} {at_ at_' : Nat}
    (h : InsertedLast start steps key outcome at_)
    (h' : InsertedLast start steps key outcome' at_') : outcome = outcome' ∧ at_ = at_' := by
  obtain ⟨before, after, rfl, rfl, hnone⟩ := h
  obtain ⟨before', after', heq, rfl, hnone'⟩ := h'
  rcases List.append_eq_append_iff.1 heq with ⟨between, rfl, hrest⟩ | ⟨between, rfl, hrest⟩
  · cases between with
    | nil =>
      cases hrest
      simp
    | cons step between =>
      obtain ⟨-, rfl⟩ := List.cons.inj hrest
      exact absurd (List.mem_append_right between List.mem_cons_self) (hnone outcome')
  · cases between with
    | nil =>
      cases hrest
      simp
    | cons step between =>
      obtain ⟨-, rfl⟩ := List.cons.inj hrest
      exact absurd (List.mem_append_right between List.mem_cons_self) (hnone' outcome)

/-- A key under which something is inserted is touched. -/
theorem mem_touched_of_insert (h : .insert key outcome ∈ steps) : key ∈ m.touched steps := by
  induction steps generalizing m with
  | nil => cases h
  | cons step steps ih =>
    rw [touched, List.mem_append]
    rcases List.mem_cons.1 h with rfl | hin
    · exact .inl (List.mem_singleton_self key)
    · exact .inr (ih hin)

/-- A key that has just been touched has an entry. -/
theorem exists_mem_of_touch (henabled : m.cache.limits.isDisabled = false)
    (h : m.touch? step = some key) : ∃ e ∈ (m.next step).cache.entries, e.key = key := by
  cases step with
  | insert other outcome =>
    obtain rfl : other = key := Option.some.inj h
    refine ⟨⟨other, outcome, m.now⟩, ?_, rfl⟩
    simp [next, entries_insert henabled]
  | get other =>
    obtain ⟨found, hfound, rfl⟩ := Option.map_eq_some_iff.1 h
    rcases get_cases henabled m.now other with ⟨e, hentry, -, -, hentries⟩ | ⟨-, hnone, -⟩
    · refine ⟨e, ?_, (entry?_eq_some hentry).2⟩
      exact hentries ▸ List.mem_append_right _ (List.mem_singleton_self e)
    · cases hfound.symm.trans hnone
  | _ => cases h

variable {limits : CacheLimits} {now : Nat}

/-- After a touch there is an entry under the key, as the last insertion under it has left it. -/
theorem exists_inserted_of_touch {earlier : List Step} {touch : Step}
    (henabled : limits.isDisabled = false)
    (h : (run ⟨.empty limits, now⟩ earlier).touch? touch = some key) :
    ∃ e ∈ (run ⟨.empty limits, now⟩ (earlier ++ [touch])).cache.entries, e.key = key ∧
      LastInsertion ⟨.empty limits, now⟩ (earlier ++ [touch]) key e.outcome e.created := by
  obtain ⟨e, he, rfl⟩ := exists_mem_of_touch (by rwa [limits_run]) h
  rw [← run_nil (next _ touch), ← run_cons, ← run_append] at he
  refine ⟨e, he, rfl, ?_⟩
  rcases mem_run henabled he with ⟨hold, -⟩ | hlast
  · exact absurd hold List.not_mem_nil
  · exact hlast

/-- An entry that has not expired is what is found under its key. -/
theorem lookup_of_mem (henabled : limits.isDisabled = false)
    (he : e ∈ (run ⟨.empty limits, now⟩ steps).cache.entries)
    (hage : (run ⟨.empty limits, now⟩ steps).now ≤ e.created + limits.timeToLive) :
    (run ⟨.empty limits, now⟩ steps).lookup e.key = some e.outcome := by
  apply get_of_mem (inOrder_run_empty henabled now steps).distinct (by rwa [limits_run]) he
  rw [limits_run]
  exact isExpired_eq_false_iff.2 hage

/-- In a run that starts with an empty cache in which something can be kept, the last touch of a key
is followed by steps that touch fewer other keys than the cache has room for, and that neither clear
it nor drop the resource of the key. As long as the last insertion under the key is no longer ago
than the time to live, a look-up finds its outcome. -/
theorem recently_touched_is_found {at_ : Nat} (henabled : limits.isDisabled = false)
    (hinserted : InsertedLast ⟨.empty limits, now⟩ steps key outcome at_)
    (htouch : LastTouch ⟨.empty limits, now⟩ steps key later since)
    (hfew : since.toFinset.card < limits.maxEntries) (hclear : .clear ∉ later)
    (hinvalidate : .invalidate key.identifier ∉ later)
    (hage : (run ⟨.empty limits, now⟩ steps).now ≤ at_ + limits.timeToLive) :
    (run ⟨.empty limits, now⟩ steps).lookup key = some outcome := by
  obtain ⟨earlier, touch, rfl, htouches, rfl, huntouched⟩ := htouch
  rw [List.append_cons] at hinserted hage ⊢
  obtain ⟨e, he, rfl, hlast⟩ := exists_inserted_of_touch henabled htouches
  have hnone : ∀ other, .insert e.key other ∉ later := fun other hin =>
    huntouched (mem_touched_of_insert hin)
  obtain ⟨rfl, rfl⟩ := hinserted.unique (hlast.insertedLast hnone)
  have horder := inOrder_run_empty henabled now (earlier ++ [touch])
  rw [touched_append, touched, htouches] at horder
  apply lookup_of_mem henabled _ hage
  rw [run_append]
  exact mem_run_of_few_touched (by rwa [limits_run]) horder List.not_mem_nil he huntouched
    (by rwa [limits_run]) hclear hinvalidate (by rwa [limits_run, ← run_append])

/-- The run that crowds a cache of two entries touches `alice` on `/a` for the last time when it
asks for her outcome; what comes after touches one other key, so the outcome is found as old as it
may get. -/
theorem asked_for_again_is_found :
    let start : Moment := ⟨.empty ⟨2, .ofSeconds 10⟩, 0⟩
    let later : List Step :=
      [.insert ⟨"/c", "alice"⟩ .denied, .invalidate "/b", .wait (.ofSeconds 5)]
    InsertedLast start crowdedRun ⟨"/a", "alice"⟩ .unrestricted 0 ∧
      LastTouch start crowdedRun ⟨"/a", "alice"⟩ later [⟨"/c", "alice"⟩] ∧
      (start.run crowdedRun).now = Duration.ofSeconds 10 ∧
      (start.run crowdedRun).lookup ⟨"/a", "alice"⟩ = some .unrestricted := by
  intro start later
  have hinserted : InsertedLast start crowdedRun ⟨"/a", "alice"⟩ .unrestricted 0 := by
    refine ⟨crowdedRun.take 2, crowdedRun.drop 3, rfl, by decide +kernel, ?_⟩
    simp [crowdedRun]
  have htouch : LastTouch start crowdedRun ⟨"/a", "alice"⟩ later [⟨"/c", "alice"⟩] :=
    ⟨crowdedRun.take 5, .get ⟨"/a", "alice"⟩, rfl, by decide +kernel, by decide +kernel,
      by decide⟩
  have hnow : (start.run crowdedRun).now = Duration.ofSeconds 10 := by decide +kernel
  refine ⟨hinserted, htouch, hnow, ?_⟩
  apply recently_touched_is_found (by decide) hinserted htouch (by decide) (by simp [later])
    (by simp [later])
  rw [hnow, Nat.zero_add]

end WebAccess.Cache.Moment
