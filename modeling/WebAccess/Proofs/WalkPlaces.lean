import WebAccess.Proofs.Walk

/-!
# The places of a walk

A search for rules stands on one identifier after the other, reads it, and ends there or climbs on.
`Store.Reaches` says where it stands after `k` climbs: the containers lead there, no identifier was
met twice, and each place before could be read and governed nothing. `Store.EndsAt` lists the four
ways in which a walk ends at a place, each with its answer.

One round of the search is `Store.Underway.round`; by induction on the climbs that are allowed the
whole search is `Store.Underway.run`. Main statements: an answer of a search is the answer of the
place at which its walk ends (`Store.answer_search_eq_iff`), the search is unfinished exactly if the
walk gets past the last climb that is allowed (`Store.answer_search_eq_unfinished_iff`), and it
reads the places of the walk in their order, each once (`Store.nodup_reads_search`).
-/

set_option autoImplicit false

namespace WebAccess

open Rdf (Graph)

/-! ## What an inquiry reads -/

/-- The identifier whose reading is noted. -/
def Note.readOf? : Note → Option Identifier
  | .read id _ => some id
  | _ => none

namespace Inquiry

variable {α β : Type}

/-- The identifiers that an inquiry reads, in their order. -/
def reads (x : Inquiry α) : List Identifier := x.run.notes.filterMap Note.readOf?

/-- A plain value reads nothing. -/
@[simp] theorem reads_pure (a : α) : reads (pure a) = [] := rfl

/-- Where an inquiry stops, what would have come after it is not read. -/
theorem reads_bind (x : Inquiry α) (f : α → Inquiry β) :
    reads (x >>= f) = reads x ++ match answer x with
      | .ok a => reads (f a)
      | .error _ => [] := by
  show (Observed.notes (ExceptT.mk (x.run >>= ExceptT.bindCont f)).run).filterMap _ = _
  simp only [reads, answer, ExceptT.run, ExceptT.mk, Observed.notes_bind, List.filterMap_append]
  cases h : Observed.value x <;> rfl

end Inquiry

namespace Store

open Identifier (path)

/-- Fetching reads the one identifier. -/
theorem reads_fetch (s : Store) (id : Identifier) : (s.fetch id).reads = [id] := by
  unfold fetch
  cases s.read id <;> rfl

/-- Looking for rules at a place reads the place. -/
theorem reads_rulesAt (s : Store) (top : Bool) (id : Identifier) :
    (s.rulesAt top id).reads = [id] := by
  unfold rulesAt
  rw [Inquiry.reads_bind, reads_fetch, answer_fetch]
  cases s.read id with
  | error fault => rfl
  | ok found =>
    cases found with
    | none => rfl
    | some r =>
      cases hacl : r.acl with
      | none => simp [hacl]
      | some g =>
        simp only [hacl]
        cases Rule.applicable (Rule.extract g) r.identifier top <;> rfl

/-- A search reads the place where it is and, if it climbs from there, what the rest of it reads. -/
theorem reads_search (s : Store) (top : Bool) (visited : List Identifier) (id : Identifier)
    (steps : Nat) :
    (s.search top visited id steps).reads =
      id :: match (s.rulesAt top id).answer, s.ascent visited id, steps with
        | .ok [], .up parent, steps + 1 => (s.search false (id :: visited) parent steps).reads
        | _, _, _ => [] := by
  conv => lhs; unfold search
  rw [Inquiry.reads_bind, reads_rulesAt]
  cases (s.rulesAt top id).answer with
  | error stop => rfl
  | ok rules =>
    cases rules with
    | cons rule rules => rfl
    | nil =>
      cases s.ascent visited id with
      | root => rfl
      | selfContained => rfl
      | cycle parent => rfl
      | up parent => cases steps <;> rfl

end Store

/-! ## Places -/

namespace Identifier

variable {next : Identifier → Option Identifier} {id w : Identifier} {k : Nat}

/-- Up to `k` climbs along `next` no identifier is met twice. -/
def Unrepeated (next : Identifier → Option Identifier) (id : Identifier) (k : Nat) : Prop :=
  ∀ i j, i < j → j ≤ k → path next id i ≠ path next id j

/-- Where no identifier is met twice, none is within fewer climbs. -/
theorem Unrepeated.of_le {j : Nat} (h : Unrepeated next id k) (hj : j ≤ k) :
    Unrepeated next id j := by
  intro i i' hlt hle
  exact h i i' hlt (Nat.le_trans hle hj)

/-- One more climb to an identifier that has not been met repeats none. -/
theorem Unrepeated.succ (h : Unrepeated next id k)
    (hnew : ∀ j ≤ k, path next id j ≠ path next id (k + 1)) : Unrepeated next id (k + 1) := by
  intro i j hij hj
  rcases Nat.le_succ_iff.1 hj with hle | rfl
  · exact h i j hij hle
  · exact hnew i (by omega)

/-- A path that leads somewhere leads somewhere with fewer climbs too. -/
theorem exists_path_of_le {j : Nat} (h : path next id k = some w) (hj : j ≤ k) :
    ∃ u, path next id j = some u := by
  induction k generalizing w with
  | zero =>
    obtain rfl : j = 0 := by omega
    exact ⟨w, h⟩
  | succ k ih =>
    rcases Nat.le_succ_iff.1 hj with hle | rfl
    · obtain ⟨v, hv, -⟩ := Option.bind_eq_some_iff.1 h
      exact ih hv hle
    · exact ⟨w, h⟩

end Identifier

namespace Store

open Identifier (path Unrepeated)

/-- What stands after `k` climbs can be read, if only to find nothing there, and governs
nothing. -/
structure PassedAt (s : Store) (id : Identifier) (k : Nat) : Prop where
  /-- The place exists and reading it does not fail. -/
  readable : ∃ w found, path s.container id k = some w ∧ s.read w = .ok found
  /-- No subject of a graph that is stored there governs the request. -/
  ungoverned : ¬s.GovernedAt s.container id k

/-- The walk from `id` stands at `w` after `k` climbs. -/
structure Reaches (s : Store) (id : Identifier) (k : Nat) (w : Identifier) : Prop where
  /-- The containers lead there. -/
  reached : path s.container id k = some w
  /-- No identifier was met twice on the way. -/
  unrepeated : Unrepeated s.container id k
  /-- Nothing on the way stopped the walk. -/
  passed : ∀ j < k, s.PassedAt id j

/-- The walk from `id`, which stands at `w` after `k` climbs, ends there with an answer. -/
inductive EndsAt (s : Store) (id : Identifier) (k : Nat) (w : Identifier) :
    Except Stop (Option (Identifier × List Rule)) → Prop
  /-- The place cannot be read: the fault of the store is passed on. -/
  | unread {fault : Fault} (hread : s.read w = .error fault) :
    EndsAt s id k w (.error (.failed fault))
  /-- The place is governed: its rules are found. -/
  | governed {r : Resource} {g : Graph} (hcarries : s.CarriesAt s.container id k w r g)
    (hgoverned : ∃ subject, g.Governs r.identifier k subject) :
    EndsAt s id k w
      (.ok (some (w, Rule.applicable (Rule.extract g) r.identifier (decide (k = 0)))))
  /-- There is nowhere to climb: nothing is found. -/
  | top (hpassed : s.PassedAt id k) (hend : s.container w = none ∨ s.container w = some w) :
    EndsAt s id k w (.ok none)
  /-- The container was met before: the walk would go round. -/
  | back {p : Identifier} {j : Nat} (hpassed : s.PassedAt id k) (hup : s.container w = some p)
    (hj : j < k) (hmet : path s.container id j = some p) :
    EndsAt s id k w (.error (.failed (.cycle p)))

variable {s : Store} {start w : Identifier} {k : Nat}

/-- A walk stands at its start after no climbs. -/
theorem reaches_start (s : Store) (id : Identifier) : s.Reaches id 0 id := by
  refine ⟨rfl, ?_, ?_⟩
  · intro i j hij hj
    omega
  · intro j hj
    omega

/-- A walk that passes a place goes on to its container if this has not been met. -/
theorem Reaches.climbs {p : Identifier} (h : s.Reaches start k w) (hpassed : s.PassedAt start k)
    (hup : s.container w = some p) (hnew : ∀ j ≤ k, path s.container start j ≠ some p) :
    s.Reaches start (k + 1) p := by
  have hnext : path s.container start (k + 1) = some p := by
    rw [Identifier.path_succ_of_eq_some h.reached, hup]
  refine ⟨hnext, ?_, ?_⟩
  · apply h.unrepeated.succ
    rw [hnext]
    exact hnew
  · exact Nat.forall_lt_succ_right.2 ⟨h.passed, hpassed⟩

/-- A walk that stands somewhere has stood somewhere after each smaller number of climbs. -/
theorem Reaches.below {j : Nat} (h : s.Reaches start k w) (hj : j ≤ k) :
    ∃ u, s.Reaches start j u := by
  obtain ⟨u, hu⟩ := Identifier.exists_path_of_le h.reached hj
  refine ⟨u, hu, h.unrepeated.of_le hj, ?_⟩
  intro i hi
  exact h.passed i (by omega)

/-- After so many climbs a walk stands at one place only. -/
theorem Reaches.unique {u : Identifier} (h : s.Reaches start k w) (h' : s.Reaches start k u) :
    w = u :=
  Option.some.inj (h.reached.symm.trans h'.reached)

/-- A walk that ends at a place does not get beyond it. -/
theorem EndsAt.not_reaches {answer : Except Stop (Option (Identifier × List Rule))} {j : Nat}
    {u : Identifier} (h : s.EndsAt start k w answer) (hw : s.Reaches start k w) (hj : k < j) :
    ¬s.Reaches start j u := by
  intro hu
  obtain ⟨v, hv⟩ := hu.below (show k + 1 ≤ j by omega)
  have hup : s.container w = some v := by
    rw [← Identifier.path_succ_of_eq_some hw.reached]
    exact hv.reached
  have hpassed := hv.passed k (Nat.lt_succ_self k)
  cases h with
  | unread hread =>
    obtain ⟨w', found, hpath, hok⟩ := hpassed.readable
    obtain rfl : w = w' := Option.some.inj (hw.reached.symm.trans hpath)
    rw [hread] at hok
    cases hok
  | governed hcarries hgoverned =>
    exact hpassed.ungoverned ⟨_, _, _, hcarries, hgoverned⟩
  | top _ hend =>
    rw [hup] at hend
    rcases hend with hnone | hself
    · cases hnone
    · obtain rfl := Option.some.inj hself
      exact hv.unrepeated k (k + 1) (by omega) (Nat.le_refl _) (hw.reached.trans hv.reached.symm)
  | @back p i _ hp hi hmet =>
    obtain rfl : p = v := Option.some.inj (hp.symm.trans hup)
    exact hv.unrepeated i (k + 1) (by omega) (Nat.le_refl _) (hmet.trans hv.reached.symm)

/-- A walk ends after one number of climbs only. -/
theorem EndsAt.unique_place {answer answer' : Except Stop (Option (Identifier × List Rule))}
    {j : Nat} {u : Identifier} (h : s.EndsAt start k w answer) (hw : s.Reaches start k w)
    (h' : s.EndsAt start j u answer') (hu : s.Reaches start j u) : k = j := by
  rcases Nat.lt_trichotomy k j with hlt | heq | hgt
  · exact absurd hu (h.not_reaches hw hlt)
  · exact heq
  · exact absurd hw (h'.not_reaches hu hgt)

/-! ## One round of a search -/

/-- A search that started at `start` is about to look at `w` after `k` climbs and has walked
`visited`. -/
structure Underway (s : Store) (start : Identifier) (k : Nat) (visited : List Identifier)
    (w : Identifier) : Prop where
  /-- The walk stands there. -/
  reaches : s.Reaches start k w
  /-- The identifiers walked are those of the places below. -/
  walked : ∀ u, u ∈ visited ↔ ∃ j < k, path s.container start j = some u

variable {visited : List Identifier} {answer : Except Stop (Option (Identifier × List Rule))}

/-- A search starts with nothing walked. -/
theorem underway_start (s : Store) (id : Identifier) : s.Underway id 0 [] id := by
  refine ⟨s.reaches_start id, ?_⟩
  simp

/-- Wherever a walk stands a search can be under way. -/
theorem Reaches.exists_underway (h : s.Reaches start k w) :
    ∃ visited, s.Underway start k visited w := by
  refine ⟨(List.range k).filterMap (path s.container start), h, ?_⟩
  intro u
  simp [List.mem_filterMap]

/-- The identifiers walked and the one where the search stands are those that the walk has met. -/
theorem Underway.mem_visited_iff (h : s.Underway start k visited w) {p : Identifier} :
    p ∈ w :: visited ↔ ∃ j ≤ k, path s.container start j = some p := by
  rw [List.mem_cons, h.walked]
  constructor
  · rintro (rfl | ⟨j, hj, hpath⟩)
    · exact ⟨k, Nat.le_refl k, h.reaches.reached⟩
    · exact ⟨j, Nat.le_of_lt hj, hpath⟩
  · rintro ⟨j, hj, hpath⟩
    rcases Nat.lt_or_eq_of_le hj with hlt | rfl
    · exact .inr ⟨j, hlt, hpath⟩
    · exact .inl (Option.some.inj (hpath.symm.trans h.reaches.reached))

/-- A search that passes a place goes on to its container if this has not been met. -/
theorem Underway.climbs {p : Identifier} (h : s.Underway start k visited w)
    (hpassed : s.PassedAt start k) (hup : s.container w = some p) (hnew : p ∉ w :: visited) :
    s.Underway start (k + 1) (w :: visited) p := by
  constructor
  · apply h.reaches.climbs hpassed hup
    intro j hj hpath
    exact hnew (h.mem_visited_iff.2 ⟨j, hj, hpath⟩)
  · intro u
    simp only [h.mem_visited_iff, Nat.lt_succ_iff]

/-- At a place that is passed no rules are found. -/
theorem PassedAt.answer_rulesAt (h : s.PassedAt start k)
    (hw : path s.container start k = some w) :
    (s.rulesAt (decide (k = 0)) w).answer = .ok [] := by
  obtain ⟨u, found, hpath, hread⟩ := h.readable
  obtain rfl : w = u := Option.some.inj (hw.symm.trans hpath)
  rw [Store.answer_rulesAt, hread]
  cases found with
  | none => rfl
  | some r =>
    have hnot : ¬governing r (decide (k = 0)) ≠ [] := by
      intro hne
      exact h.ungoverned ((governedAt_iff hw).2 ⟨r, hread, hne⟩)
    exact congrArg Except.ok (Classical.not_not.1 hnot)

/-- A place at which no rules are found is passed. -/
theorem passedAt_of_rulesAt (hw : path s.container start k = some w)
    (h : (s.rulesAt (decide (k = 0)) w).answer = .ok []) : s.PassedAt start k := by
  refine ⟨?_, not_governedAt_of_rulesAt hw h⟩
  cases hread : s.read w with
  | ok found => exact ⟨w, found, hw, hread⟩
  | error fault =>
    rw [answer_rulesAt, hread] at h
    cases h

/-- From a place without a container the ascent is at a root. -/
theorem ascent_of_root (h : s.container w = none) : s.ascent visited w = .root := by
  simp [ascent, h]

/-- From a place that is its own container the ascent stops there. -/
theorem ascent_of_selfContained (h : s.container w = some w) :
    s.ascent visited w = .selfContained := by
  simp [ascent, h]

/-- From a place whose container has been met the ascent finds a cycle. -/
theorem ascent_of_met {p : Identifier} (h : s.container w = some p) (hne : p ≠ w)
    (hmet : p ∈ w :: visited) : s.ascent visited w = .cycle p := by
  simp only [ascent, h, if_neg hne, if_pos hmet]

/-- From a place whose container has not been met the ascent leads up to it. -/
theorem ascent_of_new {p : Identifier} (h : s.container w = some p) (hnew : p ∉ w :: visited) :
    s.ascent visited w = .up p := by
  have hne : p ≠ w := fun heq => hnew (heq ▸ List.mem_cons_self)
  simp only [ascent, h, if_neg hne, if_neg hnew]

/-- One round of a search: the walk ends where it stands, or the search passes the place and
climbs. -/
theorem Underway.round (h : s.Underway start k visited w) :
    (∃ answer, s.EndsAt start k w answer) ∨
      ∃ p, s.Underway start (k + 1) (w :: visited) p ∧ s.PassedAt start k ∧
        s.ascent visited w = .up p := by
  have hw := h.reaches.reached
  cases hrules : (s.rulesAt (decide (k = 0)) w).answer with
  | error stop =>
    left
    cases hread : s.read w with
    | error fault => exact ⟨_, .unread hread⟩
    | ok found =>
      rw [answer_rulesAt, hread] at hrules
      cases found <;> cases hrules
  | ok rules =>
    cases rules with
    | cons rule rules =>
      left
      obtain ⟨r, g, hcarries, hr⟩ := carriesAt_of_rulesAt hw hrules
      have hne : Rule.applicable (Rule.extract g) r.identifier (decide (k = 0)) ≠ [] := by
        rw [← hr]
        exact List.cons_ne_nil rule rules
      exact ⟨_, .governed hcarries (Rule.applicable_extract_ne_nil_iff.1 hne)⟩
    | nil =>
      have hpassed := passedAt_of_rulesAt hw hrules
      cases hc : s.container w with
      | none => exact .inl ⟨_, .top hpassed (.inl hc)⟩
      | some p =>
        -- The place itself counts as visited, but as its own container it is a root and no cycle.
        by_cases hmet : p ∈ w :: visited
        · left
          obtain ⟨j, hj, hpath⟩ := h.mem_visited_iff.1 hmet
          rcases Nat.lt_or_eq_of_le hj with hlt | rfl
          · exact ⟨_, .back hpassed hc hlt hpath⟩
          · obtain rfl : w = p := Option.some.inj (hw.symm.trans hpath)
            exact ⟨_, .top hpassed (.inr hc)⟩
        · right
          exact ⟨p, h.climbs hpassed hc hmet, hpassed, ascent_of_new hc hmet⟩

/-- Where a walk ends the search ends too, with the answer of the walk. -/
theorem EndsAt.answer_search (hend : s.EndsAt start k w answer)
    (h : s.Underway start k visited w) (steps : Nat) :
    (s.search (decide (k = 0)) visited w steps).answer = answer ∧
      (s.search (decide (k = 0)) visited w steps).reads = [w] := by
  have hw := h.reaches.reached
  rw [Store.answer_search, reads_search]
  cases hend with
  | unread hread => simp [answer_rulesAt, hread]
  | @governed r g hcarries hgoverned =>
    have hne := Rule.applicable_extract_ne_nil_iff.2 hgoverned
    obtain ⟨rule, rules, hrules⟩ := List.exists_cons_of_ne_nil hne
    rw [answer_rulesAt, hcarries.stored]
    simp only [governing, hcarries.carried]
    simp [hrules]
  | top hpassed hend =>
    rw [hpassed.answer_rulesAt hw]
    rcases hend with hnone | hself
    · simp [ascent_of_root hnone]
    · simp [ascent_of_selfContained hself]
  | @back p j hpassed hup hj hmet =>
    have hne : p ≠ w := by
      rintro rfl
      exact h.reaches.unrepeated j k hj (Nat.le_refl k) (hmet.trans hw.symm)
    have hmem : p ∈ w :: visited := h.mem_visited_iff.2 ⟨j, Nat.le_of_lt hj, hmet⟩
    rw [hpassed.answer_rulesAt hw, ascent_of_met hup hne hmem]
    exact ⟨rfl, rfl⟩

/-- A walk ends at a place with one answer only. -/
theorem EndsAt.unique {answer' : Except Stop (Option (Identifier × List Rule))}
    (h : s.EndsAt start k w answer) (h' : s.EndsAt start k w answer')
    (hw : s.Reaches start k w) : answer = answer' := by
  obtain ⟨visited, hunder⟩ := hw.exists_underway
  exact (h.answer_search hunder 0).1.symm.trans (h'.answer_search hunder 0).1

/-! ## The whole search -/

/-- Where its walk ends a search ends too, within whatever climbs are left, and it has read the
places from there on. -/
theorem EndsAt.ends_search (hend : s.EndsAt start k w answer) (h : s.Underway start k visited w)
    (steps : Nat) :
    ∃ m ≤ steps, ∃ u, s.Reaches start (k + m) u ∧
      s.EndsAt start (k + m) u (s.search (decide (k = 0)) visited w steps).answer ∧
      (s.search (decide (k = 0)) visited w steps).reads.map some =
        (List.range' k (m + 1)).map (path s.container start) := by
  obtain ⟨hanswer, hreads⟩ := hend.answer_search h steps
  refine ⟨0, Nat.zero_le steps, w, h.reaches, ?_, ?_⟩
  · rw [hanswer]
    exact hend
  · rw [hreads]
    simp [h.reaches.reached]

/-- The rest of a search that is under way and may climb `steps` containers: the walk ends within
them and the search answers so, or the walk gets beyond them and the search is unfinished. In both
cases it has read the places from the one where it was on. -/
theorem Underway.run (h : s.Underway start k visited w) (steps : Nat) :
    (∃ m ≤ steps, ∃ u, s.Reaches start (k + m) u ∧
        s.EndsAt start (k + m) u (s.search (decide (k = 0)) visited w steps).answer ∧
        (s.search (decide (k = 0)) visited w steps).reads.map some =
          (List.range' k (m + 1)).map (path s.container start)) ∨
      ∃ u, s.Reaches start (k + steps + 1) u ∧
        (s.search (decide (k = 0)) visited w steps).answer = .error .unfinished ∧
        (s.search (decide (k = 0)) visited w steps).reads.map some =
          (List.range' k (steps + 1)).map (path s.container start) := by
  have hw := h.reaches.reached
  -- The induction is on the climbs that are left; the invariant is `Underway`.
  induction steps generalizing k visited w with
  | zero =>
    rcases h.round with ⟨answer, hend⟩ | ⟨p, hnext, hpassed, hup⟩
    · exact .inl (hend.ends_search h 0)
    · right
      refine ⟨p, hnext.reaches, ?_, ?_⟩
      · rw [answer_search, hpassed.answer_rulesAt hw, hup]
      · rw [reads_search, hpassed.answer_rulesAt hw, hup]
        simp [hw]
  | succ steps ih =>
    rcases h.round with ⟨answer, hend⟩ | ⟨p, hnext, hpassed, hup⟩
    · exact .inl (hend.ends_search h (steps + 1))
    · have hanswer : (s.search (decide (k = 0)) visited w (steps + 1)).answer =
          (s.search (decide (k + 1 = 0)) (w :: visited) p steps).answer := by
        rw [answer_search, hpassed.answer_rulesAt hw, hup]
        rfl
      have hreads : (s.search (decide (k = 0)) visited w (steps + 1)).reads =
          w :: (s.search (decide (k + 1 = 0)) (w :: visited) p steps).reads := by
        rw [reads_search, hpassed.answer_rulesAt hw, hup]
        rfl
      rw [hanswer, hreads]
      rcases ih hnext hnext.reaches.reached with
        ⟨m, hm, u, hreach, hend, hread⟩ | ⟨u, hreach, hstop, hread⟩
      · left
        rw [show k + 1 + m = k + (m + 1) by omega] at hreach hend
        refine ⟨m + 1, by omega, u, hreach, hend, ?_⟩
        rw [List.map_cons, hread, List.range'_succ (n := m + 1), List.map_cons, hw]
      · right
        rw [show k + 1 + steps + 1 = k + (steps + 1) + 1 by omega] at hreach
        refine ⟨u, hreach, hstop, ?_⟩
        rw [List.map_cons, hread, List.range'_succ (n := steps + 1), List.map_cons, hw]

variable {id : Identifier} {steps : Nat}

/-- A search from the start: its walk ends within the climbs that are allowed, or gets beyond
them. -/
theorem search_ends_or_passes (s : Store) (id : Identifier) (steps : Nat) :
    (∃ m ≤ steps, ∃ u, s.Reaches id m u ∧ s.EndsAt id m u (s.search true [] id steps).answer ∧
        (s.search true [] id steps).reads.map some =
          (List.range' 0 (m + 1)).map (path s.container id)) ∨
      ∃ u, s.Reaches id (steps + 1) u ∧
        (s.search true [] id steps).answer = .error .unfinished ∧
        (s.search true [] id steps).reads.map some =
          (List.range' 0 (steps + 1)).map (path s.container id) := by
  simpa using (s.underway_start id).run steps

/-- A walk that ends is not unfinished. -/
theorem EndsAt.ne_unfinished (h : s.EndsAt id k w answer) : answer ≠ .error .unfinished := by
  cases h <;> simp

/-- An answer of a search is the answer of the place at which the walk ends. -/
theorem answer_search_eq_iff (hanswer : answer ≠ .error .unfinished) :
    (s.search true [] id steps).answer = answer ↔
      ∃ k ≤ steps, ∃ w, s.Reaches id k w ∧ s.EndsAt id k w answer := by
  rcases s.search_ends_or_passes id steps with ⟨m, hm, u, hu, hend, -⟩ | ⟨u, hu, hstop, -⟩
  · constructor
    · rintro rfl
      exact ⟨m, hm, u, hu, hend⟩
    · rintro ⟨k, -, w, hw, hend'⟩
      obtain rfl := hend'.unique_place hw hend hu
      obtain rfl := hw.unique hu
      exact hend.unique hend' hw
  · rw [hstop]
    apply iff_of_false hanswer.symm
    rintro ⟨k, hk, w, hw, hend⟩
    exact hend.not_reaches hw (by omega) hu

/-- A search is unfinished exactly if its walk goes further than it may climb. -/
theorem answer_search_eq_unfinished_iff :
    (s.search true [] id steps).answer = .error .unfinished ↔ ∃ w, s.Reaches id (steps + 1) w := by
  rcases s.search_ends_or_passes id steps with ⟨m, hm, u, hu, hend, -⟩ | ⟨u, hu, hstop, -⟩
  · apply iff_of_false hend.ne_unfinished
    rintro ⟨w, hw⟩
    exact hend.not_reaches hu (by omega) hw
  · exact iff_of_true hstop ⟨u, hu⟩

/-- A search reads the places from the start to the last at which it stands. -/
theorem exists_reads_search (s : Store) (id : Identifier) (steps : Nat) :
    ∃ m ≤ steps, ∃ u, s.Reaches id m u ∧ (∀ j ≤ steps, m < j → ∀ w, ¬s.Reaches id j w) ∧
      (s.search true [] id steps).reads.map some =
        (List.range' 0 (m + 1)).map (path s.container id) := by
  rcases s.search_ends_or_passes id steps with
    ⟨m, hm, u, hu, hend, hreads⟩ | ⟨u, hu, -, hreads⟩
  · refine ⟨m, hm, u, hu, ?_, hreads⟩
    intro j _ hj w
    exact hend.not_reaches hu hj
  · obtain ⟨v, hv⟩ := hu.below (Nat.le_succ steps)
    refine ⟨steps, Nat.le_refl steps, v, hv, ?_, hreads⟩
    intro j hj hlt
    omega

/-- A search reads no identifier twice. -/
theorem nodup_reads_search : (s.search true [] id steps).reads.Nodup := by
  obtain ⟨m, -, u, hu, -, hreads⟩ := s.exists_reads_search id steps
  have hplaces : ((List.range' 0 (m + 1)).map (path s.container id)).Nodup := by
    rw [List.Nodup, List.pairwise_map]
    apply (List.pairwise_lt_range' (s := 0) (n := m + 1)).imp_of_mem
    intro i j _ hj hlt
    rw [List.mem_range'_1] at hj
    exact hu.unrepeated i j hlt (by omega)
  rw [← hreads, List.Nodup, List.pairwise_map] at hplaces
  apply hplaces.imp
  intro a b hne heq
  exact hne (congrArg some heq)

/-- A search reads the places of its walk, as far as it may climb. -/
theorem mem_reads_search :
    w ∈ (s.search true [] id steps).reads ↔ ∃ k ≤ steps, s.Reaches id k w := by
  obtain ⟨m, hm, u, hu, hlast, hreads⟩ := s.exists_reads_search id steps
  have hmem : w ∈ (s.search true [] id steps).reads ↔
      some w ∈ (s.search true [] id steps).reads.map some := by simp
  rw [hmem, hreads, List.mem_map]
  constructor
  · rintro ⟨j, hj, hpath⟩
    rw [List.mem_range'_1] at hj
    obtain ⟨v, hv⟩ := hu.below (show j ≤ m by omega)
    obtain rfl := Option.some.inj (hpath.symm.trans hv.reached)
    exact ⟨j, by omega, hv⟩
  · rintro ⟨j, hj, hw⟩
    have hle : j ≤ m := Nat.le_of_not_lt fun hlt => hlast j hj hlt w hw
    exact ⟨j, List.mem_range'_1.2 (by omega), hw.reached⟩

/-! ## The faults of a walk -/

/-- The containers above `id` lead back to `p`, which is the first identifier met twice, and
nothing has stopped the walk before. An identifier that is its own container does not lead
back. -/
def ReturnsTo (s : Store) (id p : Identifier) : Prop :=
  ∃ j k, j < k ∧ path s.container id j = some p ∧ path s.container id (k + 1) = some p ∧
    Unrepeated s.container id k ∧ ∀ i ≤ k, s.PassedAt id i

/-- The walk from `id` comes to an identifier that cannot be read, for this fault. -/
def FailsToRead (s : Store) (id : Identifier) (fault : Fault) : Prop :=
  ∃ k w, s.Reaches id k w ∧ s.read w = .error fault

/-- Where a search ends its walk stands nowhere beyond the climbs that are allowed. -/
theorem Reaches.le_of_finished (h : s.Reaches id k w)
    (hends : (s.search true [] id steps).answer ≠ .error .unfinished) : k ≤ steps := by
  apply Nat.le_of_not_lt
  intro hlt
  obtain ⟨u, hu⟩ := h.below (Nat.succ_le_of_lt hlt)
  exact hends (answer_search_eq_unfinished_iff.2 ⟨u, hu⟩)

/-- A search that has finished failed exactly if the walk came to an identifier that cannot be read,
or back to one that it had met. -/
theorem answer_search_eq_failed_iff
    (hends : (s.search true [] id steps).answer ≠ .error .unfinished) {fault : Fault} :
    (s.search true [] id steps).answer = .error (.failed fault) ↔
      s.FailsToRead id fault ∨ ∃ p, fault = .cycle p ∧ s.ReturnsTo id p := by
  rw [answer_search_eq_iff (by simp)]
  constructor
  · rintro ⟨k, -, w, hw, hend⟩
    cases hend with
    | unread hread => exact .inl ⟨k, w, hw, hread⟩
    | @back p j hpassed hup hj hmet =>
      refine .inr ⟨p, rfl, j, k, hj, hmet, ?_, hw.unrepeated, ?_⟩
      · rw [Identifier.path_succ_of_eq_some hw.reached, hup]
      · exact fun i hi => Nat.forall_lt_succ_right.2 ⟨hw.passed, hpassed⟩ i (by omega)
  · rintro (⟨k, w, hw, hread⟩ | ⟨p, rfl, j, k, hj, hmet, hagain, hunrepeated, hpassed⟩)
    · exact ⟨k, hw.le_of_finished hends, w, hw, .unread hread⟩
    · obtain ⟨w, hw, hup⟩ := Option.bind_eq_some_iff.1 hagain
      have hreach : s.Reaches id k w := by
        refine ⟨hw, hunrepeated, ?_⟩
        intro i hi
        exact hpassed i (Nat.le_of_lt hi)
      exact ⟨k, hreach.le_of_finished hends, w, hreach,
        .back (hpassed k (Nat.le_refl k)) hup hj hmet⟩

end Store

end WebAccess
