import WebAccess.Proofs.CacheUse

/-!
# The accounts of a cache

Every look-up is counted once, as a hit or as a miss, and every entry that was ever inserted is
accounted for: it is still there, or it was evicted for age or for room, or another one took its
place under the same key, or it was dropped with its resource or with all the others. A run is
described by what each of its steps adds to such a sum at the moment at which it is taken
(`Cache.Moment.total`), and a quantity that every step changes by what it adds is, after a run, off
by the sum (`Cache.Moment.run_balance`). What one step does is a lemma for each operation.

Main statement: `Cache.Moment.accounts_after_run`.
-/

set_option autoImplicit false

namespace WebAccess.Cache

variable {c : Cache} {now : Nat} {key : CacheKey}

/-! ## Operations -/

/-- Without the entry under a key there is one entry less, if there was one. -/
theorem length_others (hdistinct : (c.entries.map (·.key)).Nodup) (key : CacheKey) :
    (c.others key).length + (c.entry? key).toList.length = c.entries.length := by
  have hunder : (c.entry? key).toList.length = c.entries.countP fun e => e.key = key := by
    have hcount : (c.entries.map (·.key)).count key = c.entries.countP fun e => e.key = key := by
      rw [List.count_eq_countP, List.countP_map]
      rfl
    rw [← hcount, hdistinct.count]
    rcases hentry : c.entry? key with _ | e
    · have hnone : key ∉ c.entries.map (·.key) := by
        intro hmem
        obtain ⟨e, he, rfl⟩ := List.mem_map.1 hmem
        have hnot := List.find?_eq_none.1 hentry e he
        simp at hnot
      simp [hnone]
    · obtain ⟨hmem, rfl⟩ := entry?_eq_some hentry
      simp [List.mem_map_of_mem hmem]
  have hothers : (c.others key).length = c.entries.countP fun e => ¬e.key = key := by
    simp [others, List.countP_eq_length_filter]
  rw [hunder, hothers, Nat.add_comm]
  simpa using (List.length_eq_countP_add_countP fun e : CacheEntry => e.key = key).symm

/-- A look-up adds one to the hits if it finds an outcome and nothing if it does not. -/
theorem hits_get : (c.get now key).2.hits = c.hits + (c.get now key).1.toList.length := by
  unfold get
  split
  · rfl
  · split
    · rfl
    · split <;> rfl

/-- A look-up adds one to the hits and misses together. -/
theorem hits_add_misses_get :
    (c.get now key).2.hits + (c.get now key).2.misses = c.hits + c.misses + 1 := by
  unfold get
  split
  · rfl
  · split
    · rfl
    · split <;> simp <;> omega

/-- A look-up loses an entry only by counting it as evicted. -/
theorem size_add_evictions_get (hdistinct : (c.entries.map (·.key)).Nodup) :
    (c.get now key).2.entries.length + (c.get now key).2.evictions =
      c.entries.length + c.evictions := by
  have hlength := length_others hdistinct key
  unfold get
  split
  · rfl
  · split
    · rfl
    · next e hentry =>
      rw [hentry, Option.toList_some, List.length_singleton] at hlength
      split <;> simp <;> omega

/-- Remembering an outcome does not change the hits. -/
theorem hits_insert (outcome : Outcome) : (c.insert now key outcome).hits = c.hits := by
  unfold insert
  split <;> rfl

/-- Remembering an outcome does not change the misses. -/
theorem misses_insert (outcome : Outcome) : (c.insert now key outcome).misses = c.misses := by
  unfold insert
  split <;> rfl

/-- An insertion adds its entry, and what is lost was under the same key or is counted as
evicted. -/
theorem size_add_evictions_insert (hdistinct : (c.entries.map (·.key)).Nodup)
    (henabled : c.limits.isDisabled = false) (outcome : Outcome) :
    (c.insert now key outcome).entries.length + (c.insert now key outcome).evictions +
        (c.entry? key).toList.length =
      c.entries.length + c.evictions + 1 := by
  have hlength := length_others hdistinct key
  have hkept := (makeRoom_sublist c.limits now (c.others key)).length_le
  simp [insert, henabled]
  omega

/-- Dropping the outcomes of a resource takes away as many entries as there are for it. -/
theorem length_invalidate (id : Identifier) :
    (c.invalidate id).entries.length + c.entries.countP (fun e => e.key.identifier = id) =
      c.entries.length := by
  have hkept : (c.invalidate id).entries.length =
      c.entries.countP fun e => ¬e.key.identifier = id := by
    simp [invalidate, List.countP_eq_length_filter]
  rw [hkept, Nat.add_comm]
  simpa using (List.length_eq_countP_add_countP fun e : CacheEntry => e.key.identifier = id).symm

/-! ## Runs -/

namespace Moment

/-- The sum over a sequence of steps of what each adds, at the moment at which it is taken. -/
def total (added : Moment → Step → Nat) (m : Moment) : List Step → Nat
  | [] => 0
  | step :: steps => added m step + (m.next step).total added steps

/-- Counts the look-ups. -/
def asked (_ : Moment) : Step → Nat
  | .get _ => 1
  | .wait _ | .insert .. | .invalidate _ | .clear => 0

/-- Counts the look-ups that find an outcome. -/
def answered (m : Moment) : Step → Nat
  | .get key => (m.lookup key).toList.length
  | .wait _ | .insert .. | .invalidate _ | .clear => 0

/-- Counts the insertions. -/
def inserted (_ : Moment) : Step → Nat
  | .insert .. => 1
  | .wait _ | .get _ | .invalidate _ | .clear => 0

/-- Counts the insertions under a key under which there is an entry, expired or not. -/
def replaced (m : Moment) : Step → Nat
  | .insert key _ => (m.cache.entry? key).toList.length
  | .wait _ | .get _ | .invalidate _ | .clear => 0

/-- Counts the entries that are dropped with their resource or with all others. -/
def dropped (m : Moment) : Step → Nat
  | .invalidate id => m.cache.entries.countP fun e => e.key.identifier = id
  | .clear => m.cache.entries.length
  | .wait _ | .get _ | .insert .. => 0

variable {m : Moment} {steps : List Step}

/-- Two sums over the same steps are added step by step. -/
theorem total_add (added added' : Moment → Step → Nat) (m : Moment) (steps : List Step) :
    m.total (fun m step => added m step + added' m step) steps =
      m.total added steps + m.total added' steps := by
  induction steps generalizing m with
  | nil => rfl
  | cons step steps ih =>
    simp only [total, ih]
    omega

/-- Steps that add nothing add nothing together. -/
theorem total_zero (m : Moment) (steps : List Step) : m.total (fun _ _ => 0) steps = 0 := by
  induction steps generalizing m with
  | nil => rfl
  | cons step steps ih => rw [total, ih]

/-- What every step changes by what it adds and takes is, after a run, off by both sums. -/
theorem run_balance (kept : Moment → Prop) (quantity : Moment → Nat)
    (added taken : Moment → Step → Nat)
    (hkept : ∀ m step, kept m → kept (m.next step))
    (hstep : ∀ m step, kept m →
      quantity (m.next step) + taken m step = quantity m + added m step)
    (hm : kept m) (steps : List Step) :
    quantity (m.run steps) + m.total taken steps = quantity m + m.total added steps := by
  induction steps generalizing m with
  | nil => rfl
  | cons step steps ih =>
    have hrest := ih (hkept m step hm)
    have hfirst := hstep m step hm
    simp only [run_cons, total]
    omega

/-- A quantity to which each step adds something has gained the sum of it after a run. -/
theorem run_gain (quantity : Moment → Nat) (added : Moment → Step → Nat)
    (hstep : ∀ m step, quantity (m.next step) = quantity m + added m step) (m : Moment)
    (steps : List Step) : quantity (m.run steps) = quantity m + m.total added steps := by
  have hbalance := run_balance (fun _ => True) quantity added (fun _ _ => 0)
    (fun _ _ _ => trivial) (fun m step _ => hstep m step) (m := m) trivial steps
  rwa [total_zero] at hbalance

/-- Every look-up is a hit or a miss. -/
theorem hits_add_misses_next (m : Moment) (step : Step) :
    (m.next step).cache.hits + (m.next step).cache.misses =
      m.cache.hits + m.cache.misses + asked m step := by
  cases step with
  | wait span => rfl
  | get key => exact hits_add_misses_get
  | insert key outcome => simp only [next, hits_insert, misses_insert, asked, Nat.add_zero]
  | invalidate id => rfl
  | clear => rfl

/-- The hits are the look-ups that find an outcome. -/
theorem hits_next (m : Moment) (step : Step) :
    (m.next step).cache.hits = m.cache.hits + answered m step := by
  cases step with
  | wait span => rfl
  | get key => exact hits_get
  | insert key outcome => simp only [next, hits_insert, answered, Nat.add_zero]
  | invalidate id => rfl
  | clear => rfl

/-- Where something can be kept and keys are distinct, no entry is lost without being counted. -/
theorem size_add_evictions_next (hdistinct : (m.cache.entries.map (·.key)).Nodup)
    (henabled : m.cache.limits.isDisabled = false) (step : Step) :
    (m.next step).cache.entries.length + (m.next step).cache.evictions +
        (replaced m step + dropped m step) =
      m.cache.entries.length + m.cache.evictions + inserted m step := by
  cases step with
  | wait span => rfl
  | get key => exact size_add_evictions_get hdistinct
  | insert key outcome => exact size_add_evictions_insert hdistinct henabled outcome
  | invalidate id =>
    have hlength := length_invalidate (c := m.cache) id
    have hevictions : (m.cache.invalidate id).evictions = m.cache.evictions := rfl
    simp only [next, replaced, dropped, inserted, hevictions]
    omega
  | clear =>
    have hevictions : m.cache.clear.evictions = m.cache.evictions := rfl
    simp only [next, replaced, dropped, inserted, hevictions, entries_clear, List.length_nil]
    omega

/-- A step on a cache that can keep nothing evicts nothing. -/
theorem evictions_next_of_disabled (hdisabled : m.cache.limits.isDisabled = true) (step : Step) :
    (m.next step).cache.evictions = m.cache.evictions := by
  cases step with
  | get key => simp [next, get, hdisabled]
  | insert key outcome => simp [next, insert_of_disabled hdisabled]
  | _ => rfl

/-- A run on a cache that can keep nothing evicts nothing. -/
theorem evictions_run_of_disabled (hdisabled : m.cache.limits.isDisabled = true)
    (steps : List Step) : (m.run steps).cache.evictions = m.cache.evictions := by
  induction steps generalizing m with
  | nil => rfl
  | cons step steps ih =>
    rw [run_cons, ih (by rwa [limits_next]), evictions_next_of_disabled hdisabled]

/-- After any run that starts with an empty cache: hits and misses together are the look-ups of the
run, and the hits are those that found an outcome. If something can be kept, the insertions of the
run are the entries that are there and those that were evicted, replaced or dropped; otherwise
there are no entries and nothing was evicted. -/
theorem accounts_after_run (limits : CacheLimits) (now : Nat) (steps : List Step) :
    let start : Moment := ⟨.empty limits, now⟩
    let stats := (start.run steps).cache.stats
    stats.hits + stats.misses = start.total asked steps ∧
      stats.hits = start.total answered steps ∧
      (limits.isDisabled = false →
        start.total inserted steps =
          stats.size + stats.evictions + start.total replaced steps +
            start.total dropped steps) ∧
      (limits.isDisabled = true → stats.size = 0 ∧ stats.evictions = 0) := by
  intro start stats
  refine ⟨?_, ?_, fun henabled => ?_, fun hdisabled => ⟨?_, ?_⟩⟩
  · have hgain := run_gain (fun m => m.cache.hits + m.cache.misses) asked hits_add_misses_next
      start steps
    exact hgain.trans (Nat.zero_add _)
  · have hgain := run_gain (fun m => m.cache.hits) answered hits_next start steps
    exact hgain.trans (Nat.zero_add _)
  · have hbalance := run_balance
      (fun m => m.cache.Reached m.now ∧ m.cache.limits = limits)
      (fun m => m.cache.entries.length + m.cache.evictions)
      inserted (fun m step => replaced m step + dropped m step)
      (fun m step hm => ⟨hm.1.next step, (limits_next m step).trans hm.2⟩)
      (fun m step hm => size_add_evictions_next hm.1.distinct (by rw [hm.2, henabled]) step)
      (m := start) ⟨reached_empty limits now, rfl⟩ steps
    rw [total_add] at hbalance
    have hstart : start.cache.entries.length + start.cache.evictions = 0 := rfl
    show start.total inserted steps = (start.run steps).cache.entries.length +
      (start.run steps).cache.evictions + start.total replaced steps + start.total dropped steps
    omega
  · have hentries : (start.run steps).cache.entries = [] :=
      entries_run_of_disabled (m := start) hdisabled rfl steps
    show (start.run steps).cache.entries.length = 0
    rw [hentries, List.length_nil]
  · exact evictions_run_of_disabled (m := start) hdisabled steps

/-- Entries leave a cache of two in every way: one for room, one in favour of another under its key,
two for their age, at a look-up and at an insertion, one with its resource, and two at the end. -/
def busyRun : List Step :=
  [.insert ⟨"/a", "alice"⟩ .denied, .insert ⟨"/b", "alice"⟩ .denied, .get ⟨"/a", "alice"⟩,
    .insert ⟨"/c", "alice"⟩ .denied, .insert ⟨"/c", "alice"⟩ .unrestricted, .wait (.ofSeconds 11),
    .get ⟨"/a", "alice"⟩, .insert ⟨"/d", "alice"⟩ .denied, .insert ⟨"/e", "alice"⟩ .denied,
    .invalidate "/d", .insert ⟨"/f", "alice"⟩ .denied, .clear, .insert ⟨"/g", "alice"⟩ .denied]

/-- Of its eight insertions one is left. A cache in which nothing can be kept goes through the same
steps without entries. -/
theorem one_of_eight_left :
    let start : Moment := ⟨.empty ⟨2, .ofSeconds 10⟩, 0⟩
    let stats := (start.run busyRun).cache.stats
    stats = ⟨1, 1, 1, 3⟩ ∧ start.total asked busyRun = 2 ∧ start.total answered busyRun = 1 ∧
      start.total inserted busyRun = 8 ∧
      8 = stats.size + stats.evictions + start.total replaced busyRun +
        start.total dropped busyRun ∧
      (run ⟨.empty .disabled, 0⟩ busyRun).cache.stats.size = 0 := by
  intro start stats
  have hinserted : start.total inserted busyRun = 8 := by decide +kernel
  obtain ⟨hasked, hanswered, henabled, -⟩ := accounts_after_run ⟨2, .ofSeconds 10⟩ 0 busyRun
  obtain ⟨-, -, -, hdisabled⟩ := accounts_after_run .disabled 0 busyRun
  have hstats : stats = ⟨1, 1, 1, 3⟩ := by decide +kernel
  refine ⟨hstats, ?_, ?_, hinserted, ?_, (hdisabled (by decide)).1⟩
  · rw [← hasked]
    exact congrArg (fun stats => stats.hits + stats.misses) hstats
  · rw [← hanswered]
    exact congrArg CacheStats.hits hstats
  · rw [← hinserted]
    exact henabled (by decide)

end Moment

end WebAccess.Cache
