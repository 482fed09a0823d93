import WebAccess.Cache

/-!
# What cache operations do to the entries

A look-up hands out an entry that is there and not too old, and neither a look-up nor an insertion
makes up entries: what stands in the cache afterwards stood there before or is the entry inserted.
Dropping a resource leaves no entry of it.
-/

set_option autoImplicit false

namespace WebAccess.Cache

variable {c : Cache} {now : Nat} {key : CacheKey} {e : CacheEntry}

/-- An empty cache has no entries. -/
@[simp] theorem entries_empty (limits : CacheLimits) : (empty limits).entries = [] := rfl

/-- Dropping the outcomes of a resource leaves the limits of the cache. -/
@[simp] theorem limits_invalidate (id : Identifier) : (c.invalidate id).limits = c.limits := rfl

/-- Dropping all outcomes leaves the limits of the cache. -/
@[simp] theorem limits_clear : c.clear.limits = c.limits := rfl

/-- Dropping all outcomes leaves no entries. -/
@[simp] theorem entries_clear : c.clear.entries = [] := rfl

/-- A look-up leaves the limits of the cache. -/
@[simp] theorem limits_get : (c.get now key).2.limits = c.limits := by
  unfold get
  split
  · rfl
  · split
    · rfl
    · split <;> rfl

/-- An insertion leaves the limits of the cache. -/
@[simp] theorem limits_insert (outcome : Outcome) :
    (c.insert now key outcome).limits = c.limits := by
  unfold insert
  split <;> rfl

/-- An entry has not expired exactly if it is not older than the cache lets entries live. -/
theorem isExpired_eq_false_iff {limits : CacheLimits} :
    e.isExpired limits now = false ↔ now ≤ e.created + limits.timeToLive := by
  rw [CacheEntry.isExpired, decide_eq_false_iff_not, Nat.not_lt]

/-- All entries are entries of others if none is kept under the key. -/
theorem others_eq_entries (h : ∀ e ∈ c.entries, e.key ≠ key) : c.others key = c.entries :=
  List.filter_eq_self.2 fun e he => decide_eq_true (h e he)

/-- What a look-up does where something can be kept: a hit moves its entry behind the others, and a
miss leaves no entry under the key. -/
theorem get_cases (henabled : c.limits.isDisabled = false) (now : Nat) (key : CacheKey) :
    (∃ e, c.entry? key = some e ∧ e.isExpired c.limits now = false ∧
        (c.get now key).1 = some e.outcome ∧
        (c.get now key).2.entries = c.others key ++ [e]) ∨
      ((∀ e, c.entry? key = some e → e.isExpired c.limits now = true) ∧
        (c.get now key).1 = none ∧ (c.get now key).2.entries = c.others key) := by
  cases hfound : c.entry? key with
  | none =>
    right
    have hnone : ∀ e ∈ c.entries, e.key ≠ key := by
      intro e he
      simpa using List.find?_eq_none.1 hfound e he
    simp [get, henabled, hfound, others_eq_entries hnone]
  | some e =>
    cases hexpired : e.isExpired c.limits now with
    | true => simp [get, henabled, hfound, hexpired]
    | false => simp [get, henabled, hfound, hexpired]

/-- An entry that has not expired is found and becomes the one touched last. -/
theorem get_of_fresh (henabled : c.limits.isDisabled = false) (hentry : c.entry? key = some e)
    (hfresh : e.isExpired c.limits now = false) :
    (c.get now key).1 = some e.outcome ∧ (c.get now key).2.entries = c.others key ++ [e] := by
  rcases get_cases henabled now key with ⟨found, hfound, -, hhit, hentries⟩ | ⟨hexpired, -, -⟩
  · obtain rfl := Option.some.inj (hentry.symm.trans hfound)
    exact ⟨hhit, hentries⟩
  · cases hfresh.symm.trans (hexpired e hentry)

/-- A look-up that finds nothing leaves the entries of the other keys. -/
theorem entries_get_of_miss (henabled : c.limits.isDisabled = false)
    (hmiss : (c.get now key).1 = none) : (c.get now key).2.entries = c.others key := by
  rcases get_cases henabled now key with ⟨_, -, -, hhit, -⟩ | ⟨-, -, hentries⟩
  · cases hmiss.symm.trans hhit
  · exact hentries

/-- A look-up in a cache that can keep nothing changes no entry. -/
theorem entries_get_of_disabled (hdisabled : c.limits.isDisabled = true) :
    (c.get now key).2.entries = c.entries := by
  simp [get, hdisabled]

/-- What an insertion does where something can be kept: the new entry stands behind those of the
others for which there is room. -/
theorem entries_insert (henabled : c.limits.isDisabled = false) (outcome : Outcome) :
    (c.insert now key outcome).entries =
      makeRoom c.limits now (c.others key) ++ [⟨key, outcome, now⟩] := by
  simp [insert, henabled]

/-- An insertion into a cache that can keep nothing changes nothing. -/
theorem insert_of_disabled (hdisabled : c.limits.isDisabled = true) (outcome : Outcome) :
    c.insert now key outcome = c := by
  simp [insert, hdisabled]

/-- A cache that can keep something has room for an entry. -/
theorem maxEntries_ne_zero (henabled : c.limits.isDisabled = false) : c.limits.maxEntries ≠ 0 := by
  intro hzero
  simp [CacheLimits.isDisabled, hzero] at henabled

/-- An outcome that is handed out stands in the cache, under its key and within its time. -/
theorem get_eq_some {outcome : Outcome} (h : (c.get now key).1 = some outcome) :
    ∃ e ∈ c.entries, e.key = key ∧ e.outcome = outcome ∧
      now ≤ e.created + c.limits.timeToLive := by
  unfold get at h
  split at h
  · simp at h
  · split at h
    · simp at h
    · next e he =>
      split at h
      · simp at h
      · next hfresh =>
        obtain ⟨hmem, hkey⟩ := entry?_eq_some he
        have hage := isExpired_eq_false_iff.1 (Bool.eq_false_iff.2 hfresh)
        exact ⟨e, hmem, hkey, Option.some.inj h, hage⟩

/-- Only a cache that can keep something hands out an outcome. -/
theorem enabled_of_get {outcome : Outcome} (h : (c.get now key).1 = some outcome) :
    c.limits.isDisabled = false := by
  apply Bool.eq_false_iff.2
  intro hdisabled
  simp [get, hdisabled] at h

/-- A look-up adds no entry. -/
theorem mem_of_mem_get (h : e ∈ (c.get now key).2.entries) : e ∈ c.entries := by
  unfold get at h
  split at h
  · exact h
  · split at h
    · exact h
    · next found hfound =>
      split at h
      · exact (mem_others.1 h).1
      · rcases List.mem_append.1 h with hother | hlast
        · exact (mem_others.1 hother).1
        · obtain rfl := List.mem_singleton.1 hlast
          exact (entry?_eq_some hfound).1

/-- Where something can be kept, an insertion replaces what stood under its key. -/
theorem mem_of_mem_insert_enabled {outcome : Outcome} (henabled : c.limits.isDisabled = false)
    (h : e ∈ (c.insert now key outcome).entries) :
    (e ∈ c.entries ∧ e.key ≠ key) ∨ e = ⟨key, outcome, now⟩ := by
  simp only [insert, henabled, Bool.false_eq_true, if_false, List.mem_append,
    List.mem_singleton] at h
  rcases h with hkept | hlast
  · exact .inl (mem_others.1 ((makeRoom_sublist _ _ _).mem hkept))
  · exact .inr hlast

/-- An insertion adds the inserted entry only. -/
theorem mem_of_mem_insert {outcome : Outcome}
    (h : e ∈ (c.insert now key outcome).entries) : e ∈ c.entries ∨ e = ⟨key, outcome, now⟩ := by
  cases hdisabled : c.limits.isDisabled with
  | false => exact (mem_of_mem_insert_enabled hdisabled h).imp_left And.left
  | true =>
    left
    simpa [insert, hdisabled] using h

/-- Dropping a resource leaves the entries of the others. -/
theorem mem_invalidate {id : Identifier} :
    e ∈ (c.invalidate id).entries ↔ e ∈ c.entries ∧ e.key.identifier ≠ id := by
  simp [invalidate]

end WebAccess.Cache
