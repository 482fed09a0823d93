import Mathlib.Data.List.Nodup
import WebAccess.Proofs.CacheRun

/-!
# The order of the entries in a cache

A cache touches a key when it inserts under it and when a look-up under it finds an outcome. A run
touches a sequence of keys (`Cache.Moment.touched`), and of any two of them one was touched last
earlier than the other (`Cache.TouchedEarlier`). The entries stand in this order: what is touched
goes to the end, and all that a step may do to the rest is to leave out some of it
(`Cache.InOrder.touch`, `Cache.InOrder.next`). So the entry in front is the one not touched for
longest, and each key stands once.

An insertion that needs room drops expired entries first. Only where the cache is full of fresh
entries under other keys it drops a fresh one, which is then the one in front
(`Cache.entries_of_displaced`). Main statement: `Cache.Moment.full_cache_drops_oldest`.
-/

set_option autoImplicit false

namespace WebAccess.Cache

variable {c : Cache} {now : Nat} {key : CacheKey} {e : CacheEntry}

/-! ## Sequences of touches -/

/-- In a sequence of touched keys the last touch of `a` comes before the last touch of `b`. -/
def TouchedEarlier (history : List CacheKey) (a b : CacheKey) : Prop :=
  ∃ earlier later, history = earlier ++ later ∧ a ∈ earlier ∧ a ∉ later ∧ b ∈ later

variable {history : List CacheKey} {a b : CacheKey}

/-- A key is not touched earlier than itself. -/
theorem TouchedEarlier.ne (h : TouchedEarlier history a b) : a ≠ b := by
  rintro rfl
  obtain ⟨_, _, -, -, hnot, hmem⟩ := h
  exact hnot hmem

/-- A touch of another key leaves the order of two keys as it is. -/
theorem TouchedEarlier.touch (h : TouchedEarlier history a b) (hne : a ≠ key) :
    TouchedEarlier (history ++ [key]) a b := by
  obtain ⟨earlier, later, rfl, ha, hnot, hb⟩ := h
  refine ⟨earlier, later ++ [key], List.append_assoc _ _ _, ha, ?_, List.mem_append_left _ hb⟩
  simp [hnot, hne]

/-- A key that is touched now was touched last of all. -/
theorem touchedEarlier_touch (h : a ∈ history) (hne : a ≠ key) :
    TouchedEarlier (history ++ [key]) a key :=
  ⟨history, [key], rfl, h, by simpa using hne, List.mem_singleton_self key⟩

/-- What is touched later than a key is touched after any touch of it. -/
theorem TouchedEarlier.mem_later {before after : List CacheKey}
    (h : TouchedEarlier (before ++ a :: after) a b) (hnot : a ∉ after) : b ∈ after := by
  obtain ⟨earlier, later, heq, -, hlater, hb⟩ := h
  rcases List.append_eq_append_iff.1 heq with ⟨between, -, hrest⟩ | ⟨between, -, hrest⟩
  · cases between with
    | nil =>
      obtain rfl : later = a :: after := hrest.symm
      exact absurd List.mem_cons_self hlater
    | cons first between =>
      obtain ⟨rfl, rfl⟩ := List.cons.inj hrest
      exact List.mem_append_right between hb
  · rw [hrest] at hlater
    exact absurd (List.mem_append_right between List.mem_cons_self) hlater

/-! ## Caches -/

/-- The entries are not too many, and they stand in the order in which their keys were touched
last. -/
structure InOrder (history : List CacheKey) (c : Cache) : Prop where
  size : c.entries.length ≤ c.limits.maxEntries
  /-- Each entry was touched. -/
  touched : ∀ e ∈ c.entries, e.key ∈ history
  sorted : c.entries.Pairwise fun e e' => TouchedEarlier history e.key e'.key

/-- Where entries stand in the order of their touches no two have one key. -/
theorem InOrder.distinct (h : InOrder history c) : (c.entries.map (·.key)).Nodup := by
  rw [List.Nodup, List.pairwise_map]
  exact h.sorted.imp TouchedEarlier.ne

/-- Some of the entries may be left out. -/
theorem InOrder.sublist (h : InOrder history c) {c' : Cache} (hlimits : c'.limits = c.limits)
    (hsub : c'.entries.Sublist c.entries) : InOrder history c' where
  size := by
    rw [hlimits]
    exact Nat.le_trans hsub.length_le h.size
  touched e he := h.touched e (hsub.mem he)
  sorted := h.sorted.sublist hsub

/-- The entry under a key that is touched goes behind the others. -/
theorem InOrder.touch (h : InOrder history c) {c' : Cache} {rest : List CacheEntry}
    (hlimits : c'.limits = c.limits) (hentries : c'.entries = rest ++ [e])
    (hrest : rest.Sublist (c.others e.key)) (hroom : rest.length < c.limits.maxEntries) :
    InOrder (history ++ [e.key]) c' := by
  have hold : ∀ e' ∈ rest, e' ∈ c.entries ∧ e'.key ≠ e.key := by
    intro e' he'
    exact mem_others.1 (hrest.mem he')
  refine ⟨?_, ?_, ?_⟩
  · rw [hlimits, hentries, List.length_append]
    exact hroom
  · rw [hentries]
    intro e' he'
    rcases List.mem_append.1 he' with hin | hlast
    · exact List.mem_append_left _ (h.touched e' (hold e' hin).1)
    · obtain rfl := List.mem_singleton.1 hlast
      exact List.mem_append_right _ (List.mem_singleton_self e'.key)
  · rw [hentries, List.pairwise_append]
    refine ⟨?_, List.pairwise_singleton _ _, ?_⟩
    · have hsorted := h.sorted.sublist (hrest.trans List.filter_sublist)
      apply hsorted.imp_of_mem
      intro e₁ e₂ he₁ _ hearlier
      exact hearlier.touch (hold e₁ he₁).2
    · intro e₁ he₁ e₂ he₂
      obtain rfl := List.mem_singleton.1 he₂
      exact touchedEarlier_touch (h.touched e₁ (hold e₁ he₁).1) (hold e₁ he₁).2

/-! ## Look-ups where keys are distinct -/

/-- Where no two entries have one key each is found under its own. -/
theorem entry?_of_mem (hdistinct : (c.entries.map (·.key)).Nodup) (he : e ∈ c.entries) :
    c.entry? e.key = some e := by
  cases hfound : c.entry? e.key with
  | none =>
    have hnot := List.find?_eq_none.1 hfound e he
    simp at hnot
  | some found =>
    obtain ⟨hmem, hkey⟩ := entry?_eq_some hfound
    rw [List.inj_on_of_nodup_map hdistinct hmem he hkey]

/-- A fresh entry is found. -/
theorem get_of_mem (hdistinct : (c.entries.map (·.key)).Nodup)
    (henabled : c.limits.isDisabled = false) (he : e ∈ c.entries)
    (hfresh : e.isExpired c.limits now = false) : (c.get now e.key).1 = some e.outcome :=
  (get_of_fresh henabled (entry?_of_mem hdistinct he) hfresh).1

/-- A look-up drops no fresh entry. -/
theorem mem_get_of_mem (hdistinct : (c.entries.map (·.key)).Nodup) (he : e ∈ c.entries)
    (hfresh : e.isExpired c.limits now = false) (key : CacheKey) :
    e ∈ (c.get now key).2.entries := by
  cases hdisabled : c.limits.isDisabled with
  | true =>
    rw [entries_get_of_disabled hdisabled]
    exact he
  | false =>
    by_cases hkey : e.key = key
    · subst hkey
      rw [(get_of_fresh hdisabled (entry?_of_mem hdistinct he) hfresh).2]
      exact List.mem_append_right _ (List.mem_singleton_self e)
    · have hother : e ∈ c.others key := mem_others.2 ⟨he, hkey⟩
      rcases get_cases hdisabled now key with ⟨_, -, -, -, hentries⟩ | ⟨-, -, hentries⟩
      · rw [hentries]
        exact List.mem_append_left _ hother
      · rw [hentries]
        exact hother

/-! ## What an insertion drops -/

/-- An insertion under the key drops the entry, although it is fresh and under another key. -/
structure Displaces (c : Cache) (now : Nat) (key : CacheKey) (outcome : Outcome)
    (e : CacheEntry) : Prop where
  stood : e ∈ c.entries
  other : e.key ≠ key
  fresh : e.isExpired c.limits now = false
  gone : e ∉ (c.insert now key outcome).entries

/-- A fresh entry is dropped only from a full cache, in which all entries are fresh and under other
keys; it is the one in front, and the others stay. -/
theorem entries_of_displaced {outcome : Outcome}
    (hsize : c.entries.length ≤ c.limits.maxEntries)
    (henabled : c.limits.isDisabled = false) (h : c.Displaces now key outcome e) :
    c.entries.length = c.limits.maxEntries ∧
      (∀ e' ∈ c.entries, e'.key ≠ key ∧ e'.isExpired c.limits now = false) ∧
      ∃ rest, c.entries = e :: rest ∧
        (c.insert now key outcome).entries = rest ++ [⟨key, outcome, now⟩] := by
  have hother : e ∈ c.others key := mem_others.2 ⟨h.stood, h.other⟩
  have hgone : e ∉ makeRoom c.limits now (c.others key) := by
    have hgone := h.gone
    rw [entries_insert henabled] at hgone
    exact fun hkept => hgone (List.mem_append_left _ hkept)
  -- There was no room among the others, so they are all the entries.
  have hfull : ¬(c.others key).length < c.limits.maxEntries := by
    intro hroom
    rw [makeRoom, if_pos hroom] at hgone
    exact hgone hother
  have hall : c.others key = c.entries :=
    List.filter_sublist.eq_of_length_le (by unfold others at hfull; omega)
  rw [hall] at hfull hgone
  -- Nor was there room among the fresh ones, so they are all the entries as well.
  have hkept : makeRoom c.limits now c.entries =
      (c.entries.filter fun e => !e.isExpired c.limits now).drop
        ((c.entries.filter fun e => !e.isExpired c.limits now).length + 1 -
          c.limits.maxEntries) := by
    rw [makeRoom, if_neg hfull]
  have hfresh : c.entries.filter (fun e => !e.isExpired c.limits now) = c.entries := by
    apply List.filter_sublist.eq_of_length_le
    apply Nat.le_of_not_lt
    intro hfewer
    apply hgone
    rw [hkept, Nat.sub_eq_zero_of_le (by omega), List.drop_zero]
    exact List.mem_filter.2 ⟨h.stood, by simp [h.fresh]⟩
  have hlength : c.entries.length = c.limits.maxEntries := by omega
  rw [hfresh, hlength, Nat.add_sub_cancel_left] at hkept
  refine ⟨hlength, ?_, ?_⟩
  · intro e' he'
    constructor
    · rw [← hall] at he'
      exact (mem_others.1 he').2
    · rw [← hfresh] at he'
      simpa using (List.mem_filter.1 he').2
  · rw [hkept] at hgone
    obtain ⟨first, rest, hentries⟩ := List.exists_cons_of_ne_nil (List.ne_nil_of_mem h.stood)
    rw [hentries] at hgone
    have hstood := h.stood
    rw [hentries] at hstood
    obtain rfl : e = first := (List.mem_cons.1 hstood).resolve_right hgone
    refine ⟨rest, hentries, ?_⟩
    rw [entries_insert henabled, hall, hkept, hentries]
    rfl

/-! ## Runs -/

namespace Moment

variable {m : Moment} {step : Step} {steps : List Step}

/-- The key that a step touches: that of an insertion, or of a look-up that finds an outcome. -/
def touch? (m : Moment) : Step → Option CacheKey
  | .insert key _ => some key
  | .get key => (m.lookup key).map fun _ => key
  | .wait _ | .invalidate _ | .clear => none

/-- The keys that a sequence of steps touches, in the order of the touches. -/
def touched (m : Moment) : List Step → List CacheKey
  | [] => []
  | step :: steps => (m.touch? step).toList ++ (m.next step).touched steps

/-- Two sequences of steps touch the keys of the first and then, from there, those of the second. -/
theorem touched_append (m : Moment) (before after : List Step) :
    m.touched (before ++ after) = m.touched before ++ (m.run before).touched after := by
  induction before generalizing m with
  | nil => rfl
  | cons step before ih =>
    rw [List.cons_append, touched, ih, touched, List.append_assoc, run_cons]

end Moment

open Moment in
/-- A step keeps the entries in order. -/
theorem InOrder.next {m : Moment} {history : List CacheKey}
    (henabled : m.cache.limits.isDisabled = false) (h : InOrder history m.cache) (step : Step) :
    InOrder (history ++ (m.touch? step).toList) (m.next step).cache := by
  have hsame : history ++ [] = history := List.append_nil history
  cases step with
  | wait span => exact hsame.symm ▸ h
  | get key =>
    rcases get_cases henabled m.now key with
      ⟨e, hfound, -, hget, hentries⟩ | ⟨-, hget, hentries⟩
    · obtain ⟨hmem, rfl⟩ := entry?_eq_some hfound
      have hfewer : (m.cache.others e.key).length < m.cache.entries.length := by
        apply List.length_filter_lt_length_iff_exists.2
        exact ⟨e, hmem, by simp⟩
      have hroom := Nat.lt_of_lt_of_le hfewer h.size
      have htouch : m.touch? (.get e.key) = some e.key := by
        simp [touch?, lookup, hget]
      rw [htouch]
      exact h.touch limits_get hentries (List.Sublist.refl _) hroom
    · have hnone : m.touch? (.get key) = none := by
        simp [touch?, lookup, hget]
      rw [hnone]
      have hsub : (m.cache.get m.now key).2.entries.Sublist m.cache.entries := by
        rw [hentries]
        exact List.filter_sublist
      exact hsame.symm ▸ h.sublist limits_get hsub
  | insert key outcome =>
    exact h.touch (e := ⟨key, outcome, m.now⟩) (limits_insert outcome)
      (entries_insert henabled outcome) (makeRoom_sublist _ _ _)
      (length_makeRoom_lt m.now _ (maxEntries_ne_zero henabled))
  | invalidate id => exact hsame.symm ▸ h.sublist rfl List.filter_sublist
  | clear => exact hsame.symm ▸ h.sublist rfl (List.nil_sublist _)

namespace Moment

/-- A run keeps the entries in order. -/
theorem inOrder_run {m : Moment} {history : List CacheKey}
    (henabled : m.cache.limits.isDisabled = false) (h : InOrder history m.cache)
    (steps : List Step) : InOrder (history ++ m.touched steps) (m.run steps).cache := by
  induction steps generalizing m history with
  | nil => simpa [Moment.touched] using h
  | cons step steps ih =>
    have hstill : (m.next step).cache.limits.isDisabled = false := by rwa [limits_next]
    have hrest := ih hstill (h.next henabled step)
    rwa [List.append_assoc] at hrest

/-- After a run that starts with an empty cache the entries stand in the order of their touches. -/
theorem inOrder_run_empty {limits : CacheLimits} (henabled : limits.isDisabled = false) (now : Nat)
    (steps : List Step) :
    InOrder (touched ⟨.empty limits, now⟩ steps) (run ⟨.empty limits, now⟩ steps).cache := by
  have hempty : InOrder [] (empty limits) := ⟨Nat.zero_le _, nofun, .nil⟩
  exact inOrder_run (m := ⟨.empty limits, now⟩) henabled hempty steps

/-- After any run that starts with an empty cache in which something can be kept: the entries are
not too many, stand under distinct keys and in the order in which their keys were touched last. An
insertion puts its entry at the end. If it drops an entry that is fresh and under another key, the
cache was full of such entries, the one dropped was touched last before all others, and no other is
dropped with it. -/
theorem full_cache_drops_oldest {limits : CacheLimits} (henabled : limits.isDisabled = false)
    (now : Nat) (steps : List Step) :
    let start : Moment := ⟨.empty limits, now⟩
    let last := start.run steps
    let entries := last.cache.entries
    entries.length ≤ limits.maxEntries ∧ (entries.map (·.key)).Nodup ∧
      (∀ e ∈ entries, e.key ∈ start.touched steps) ∧
      (entries.Pairwise fun e e' => TouchedEarlier (start.touched steps) e.key e'.key) ∧
      ∀ key outcome,
        let entries' := (last.next (.insert key outcome)).cache.entries
        entries'.getLast? = some ⟨key, outcome, last.now⟩ ∧
        ∀ e ∈ entries, e.key ≠ key → e.isExpired limits last.now = false → e ∉ entries' →
          entries.length = limits.maxEntries ∧
          ∀ e' ∈ entries, e'.key ≠ key ∧ e'.isExpired limits last.now = false ∧
            (e' ≠ e → TouchedEarlier (start.touched steps) e.key e'.key ∧ e' ∈ entries') := by
  intro start last entries
  have hlimits : last.cache.limits = limits := limits_run start steps
  have henabled' : last.cache.limits.isDisabled = false := by rwa [hlimits]
  have horder : InOrder (start.touched steps) last.cache := inOrder_run_empty henabled now steps
  refine ⟨hlimits ▸ horder.size, horder.distinct, horder.touched, horder.sorted, ?_⟩
  intro key outcome entries'
  have hinserted : entries' = _ := entries_insert (c := last.cache) henabled' outcome
  refine ⟨by rw [hinserted, List.getLast?_concat], ?_⟩
  intro e hstood hother hfresh hgone
  rw [← hlimits] at hfresh ⊢
  obtain ⟨hfull, hall, rest, hentries, hrest⟩ :=
    entries_of_displaced horder.size henabled' ⟨hstood, hother, hfresh, hgone⟩
  refine ⟨hfull, fun e' he' => ⟨(hall e' he').1, (hall e' he').2, fun hne => ?_⟩⟩
  have hsorted := horder.sorted
  have hin : e' ∈ rest := by
    have hstood' : e' ∈ e :: rest := hentries ▸ he'
    exact (List.mem_cons.1 hstood').resolve_left hne
  rw [hentries, List.pairwise_cons] at hsorted
  have hkept : e' ∈ (last.cache.insert last.now key outcome).entries := by
    rw [hrest]
    exact List.mem_append_left _ hin
  exact ⟨hsorted.1 e' hin, hkept⟩

/-- Two entries that fill a cache; the first is asked for again. -/
def filledRun : List Step :=
  [.insert ⟨"/a", "alice"⟩ .denied, .insert ⟨"/b", "alice"⟩ .denied, .wait (.ofSeconds 5),
    .get ⟨"/a", "alice"⟩]

/-- A third entry takes the place of the second, which was inserted later but touched earlier. -/
theorem asked_for_outlasts_newer :
    let last := run ⟨.empty ⟨2, .ofSeconds 10⟩, 0⟩ filledRun
    let older : CacheEntry := ⟨⟨"/a", "alice"⟩, .denied, 0⟩
    let newer : CacheEntry := ⟨⟨"/b", "alice"⟩, .denied, 0⟩
    let entries' := (last.next (.insert ⟨"/c", "alice"⟩ .unrestricted)).cache.entries
    newer ∈ last.cache.entries ∧ newer ∉ entries' ∧ last.cache.entries.length = 2 ∧
      TouchedEarlier (touched ⟨.empty ⟨2, .ofSeconds 10⟩, 0⟩ filledRun) newer.key older.key ∧
      older ∈ entries' := by
  intro last older newer entries'
  have hstood : newer ∈ last.cache.entries := by decide +kernel
  have hgone : newer ∉ entries' := by decide +kernel
  have henabled : CacheLimits.isDisabled ⟨2, .ofSeconds 10⟩ = false := by decide
  obtain ⟨-, -, -, -, hinsert⟩ := full_cache_drops_oldest henabled 0 filledRun
  obtain ⟨-, hdropped⟩ := hinsert ⟨"/c", "alice"⟩ .unrestricted
  obtain ⟨hfull, hothers⟩ := hdropped newer hstood (by decide +kernel) (by decide +kernel) hgone
  obtain ⟨-, -, holder⟩ := hothers older (by decide +kernel)
  exact ⟨hstood, hgone, hfull, holder (by decide +kernel)⟩

end Moment

end WebAccess.Cache
