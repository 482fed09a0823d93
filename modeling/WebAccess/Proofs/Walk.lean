import WebAccess.Proofs.Answers
import WebAccess.Proofs.Statements

/-!
# The walk up the containers

The search for rules is a recursion that carries what it has visited. Seen from outside it is a
walk: after `k` climbs stands one identifier (`Identifier.path`), what is stored there may carry
rules for the request (`Store.GovernedAt`), and the first such place is the nearest
(`Store.NearestAt`). Main statement: a search that answers has found the rules of the nearest
place, or there is none (`Store.finds_of_search`).
-/

set_option autoImplicit false

namespace WebAccess

open Rdf (Graph Term)

/-- The identifier that `k` climbs along `next` lead to from `id`, if they lead anywhere. -/
def Identifier.path (next : Identifier → Option Identifier) (id : Identifier) :
    Nat → Option Identifier
  | 0 => some id
  | k + 1 => (path next id k).bind next

/-- One more climb leads to the container of where a path has led. -/
theorem Identifier.path_succ_of_eq_some {next : Identifier → Option Identifier}
    {id w : Identifier} {k : Nat} (h : path next id k = some w) :
    path next id (k + 1) = next w := by
  rw [path, h, Option.bind_some]

/-- Where the walk has ended it does not begin again. -/
theorem Identifier.path_eq_none_of_lt {next : Identifier → Option Identifier} {id w : Identifier}
    {k : Nat} (h : path next id k = some w) (hw : next w = none) {j : Nat} (hj : k < j) :
    path next id j = none := by
  induction j with
  | zero => omega
  | succ j ih =>
    rcases Nat.lt_succ_iff_lt_or_eq.1 hj with hlt | rfl
    · rw [path, ih hlt, Option.bind_none]
    · rw [path_succ_of_eq_some h, hw]

namespace Store

open Identifier (path)

/-- The container that the walk climbs to: none if there is no container, and none from an
identifier that is its own container. -/
def climb (s : Store) (id : Identifier) : Option Identifier :=
  (s.container id).filter fun parent => parent ≠ id

/-- After `k` climbs along `next` from `id` stands `w`, under which the resource `r` is stored with
the access-control graph `g`. -/
structure CarriesAt (s : Store) (next : Identifier → Option Identifier) (id : Identifier) (k : Nat)
    (w : Identifier) (r : Resource) (g : Graph) : Prop where
  /-- The walk leads there. -/
  reached : path next id k = some w
  /-- The resource is found there. -/
  stored : s.read w = .ok (some r)
  /-- The resource has a graph of its own. -/
  carried : r.acl = some g

/-- After `k` climbs stands a resource whose graph has a governing subject. -/
def GovernedAt (s : Store) (next : Identifier → Option Identifier) (id : Identifier) (k : Nat) :
    Prop :=
  ∃ w r g, s.CarriesAt next id k w r g ∧ ∃ subject, g.Governs r.identifier k subject

/-- After `k` climbs, and not before, stands a resource whose graph has a governing subject. -/
def NearestAt (s : Store) (next : Identifier → Option Identifier) (id : Identifier) (k : Nat) :
    Prop :=
  s.GovernedAt next id k ∧ ∀ j < k, ¬s.GovernedAt next id j

/-- What a search from `id` should find: the rules of the nearest place, or nothing if there is no
such place. -/
def Finds (s : Store) (id : Identifier) : Option (Identifier × List Rule) → Prop
  | none => ∀ k, ¬s.GovernedAt s.climb id k
  | some (w, rules) => ∃ k r g, s.NearestAt s.climb id k ∧ s.CarriesAt s.climb id k w r g ∧
      rules = Rule.applicable (Rule.extract g) r.identifier (decide (k = 0))

variable {s : Store} {next : Identifier → Option Identifier} {id w : Identifier} {k : Nat}

/-- There is one nearest place at most. -/
theorem NearestAt.unique {j : Nat} (hj : s.NearestAt next id j) (hk : s.NearestAt next id k) :
    j = k := by
  rcases Nat.lt_trichotomy j k with h | h | h
  · exact absurd hj.1 (hk.2 j h)
  · exact h
  · exact absurd hk.1 (hj.2 k h)

/-- What stands at one place of the walk is determined. -/
theorem CarriesAt.unique {w' : Identifier} {r r' : Resource} {g g' : Graph}
    (h : s.CarriesAt next id k w r g) (h' : s.CarriesAt next id k w' r' g') :
    w = w' ∧ r = r' ∧ g = g' := by
  have hw : w = w' := Option.some.inj (h.reached.symm.trans h'.reached)
  subst hw
  have hr : r = r' := Option.some.inj (Except.ok.inj (h.stored.symm.trans h'.stored))
  subst hr
  exact ⟨rfl, rfl, Option.some.inj (h.carried.symm.trans h'.carried)⟩

/-- There is no climb from a place without a container. -/
theorem climb_of_root (h : s.container id = none) : s.climb id = none := by
  simp [climb, h]

/-- There is no climb from a place that is its own container. -/
theorem climb_of_selfContained (h : s.container id = some id) : s.climb id = none := by
  simp [climb, h]

/-- From any other place the climb leads to the container. -/
theorem climb_of_ne {parent : Identifier} (h : s.container id = some parent) (hne : parent ≠ id) :
    s.climb id = some parent := by
  simp [climb, h, hne]

/-- The rules of a resource that govern a request, which is the requested resource itself if `top`
holds. -/
def governing (r : Resource) (top : Bool) : List Rule :=
  match r.acl with
  | none => []
  | some g => Rule.applicable (Rule.extract g) r.identifier top

/-- Fetching answers what the store reads and stops with its fault. -/
theorem answer_fetch :
    (s.fetch id).answer =
      match s.read id with
      | .ok found => .ok found
      | .error fault => .error (.failed fault) := by
  unfold fetch
  cases s.read id <;> rfl

/-- The rules at a place are those that govern by the graph stored there, and a place that cannot be
read is a fault. -/
theorem answer_rulesAt (top : Bool) :
    (s.rulesAt top id).answer =
      match s.read id with
      | .ok none => .ok []
      | .ok (some r) => .ok (governing r top)
      | .error fault => .error (.failed fault) := by
  unfold rulesAt
  rw [Inquiry.answer_bind, answer_fetch]
  cases s.read id with
  | error fault => rfl
  | ok found =>
    cases found with
    | none => rfl
    | some r =>
      unfold governing
      cases hacl : r.acl with
      | none => simp [bind, Except.bind, hacl]
      | some g =>
        simp only [bind, Except.bind, hacl]
        cases Rule.applicable (Rule.extract g) r.identifier top <;> rfl

/-- A place of the walk is governed exactly if the rules found there are not empty. -/
theorem governedAt_iff (h : path next id k = some w) :
    s.GovernedAt next id k ↔ ∃ r, s.read w = .ok (some r) ∧ governing r (decide (k = 0)) ≠ [] := by
  constructor
  · rintro ⟨w', r, g, hc, hg⟩
    obtain rfl : w = w' := Option.some.inj (h.symm.trans hc.reached)
    refine ⟨r, hc.stored, ?_⟩
    simpa [governing, hc.carried] using Rule.applicable_extract_ne_nil_iff.2 hg
  · rintro ⟨r, hr, hne⟩
    cases hacl : r.acl with
    | none => simp [governing, hacl] at hne
    | some g =>
      rw [governing, hacl] at hne
      exact ⟨w, r, g, ⟨h, hr, hacl⟩, Rule.applicable_extract_ne_nil_iff.1 hne⟩

/-- Rules that are found at a place of the walk are the governing rules of the graph carried
there. -/
theorem carriesAt_of_rulesAt {rule : Rule} {rules : List Rule} (h : path next id k = some w)
    (hr : (s.rulesAt (decide (k = 0)) w).answer = .ok (rule :: rules)) :
    ∃ r g, s.CarriesAt next id k w r g ∧
      rule :: rules = Rule.applicable (Rule.extract g) r.identifier (decide (k = 0)) := by
  rw [answer_rulesAt] at hr
  split at hr
  · simp at hr
  · next r hread =>
    cases hacl : r.acl with
    | none => simp [governing, hacl] at hr
    | some g =>
      rw [governing, hacl] at hr
      exact ⟨r, g, ⟨h, hread, hacl⟩, (Except.ok.inj hr).symm⟩
  · simp at hr

/-- Where no rules are found the place is not governed. -/
theorem not_governedAt_of_rulesAt (h : path next id k = some w)
    (hr : (s.rulesAt (decide (k = 0)) w).answer = .ok []) : ¬s.GovernedAt next id k := by
  rw [governedAt_iff h]
  rintro ⟨r, hread, hne⟩
  rw [answer_rulesAt, hread] at hr
  exact hne (Except.ok.inj hr)

/-- One round of the search: look at the place, then stop or climb. -/
theorem answer_search (top : Bool) (visited : List Identifier) (steps : Nat) :
    (s.search top visited id steps).answer =
      match (s.rulesAt top id).answer with
      | .error stop => .error stop
      | .ok (rule :: rules) => .ok (some (id, rule :: rules))
      | .ok [] =>
        match s.ascent visited id, steps with
        | .root, _ => .ok none
        | .selfContained, _ => .ok none
        | .cycle parent, _ => .error (.failed (.cycle parent))
        | .up _, 0 => .error .unfinished
        | .up parent, steps + 1 => (s.search false (id :: visited) parent steps).answer := by
  conv => lhs; unfold search
  rw [Inquiry.answer_bind]
  cases (s.rulesAt top id).answer with
  | error stop => rfl
  | ok rules =>
    cases rules with
    | cons rule rules => rfl
    | nil =>
      cases s.ascent visited id with
      | root => rfl
      | selfContained => rfl
      | cycle parent => rfl
      | up parent => cases steps <;> rfl

/-- The walk ends at a place from which the search does not climb. -/
theorem climb_of_ascent_root {visited : List Identifier}
    (h : s.ascent visited id = .root ∨ s.ascent visited id = .selfContained) :
    s.climb id = none := by
  unfold ascent at h
  cases hc : s.container id with
  | none => exact climb_of_root hc
  | some parent =>
    by_cases hp : parent = id
    · exact climb_of_selfContained (hp ▸ hc)
    · simp only [hc, if_neg hp] at h
      split at h <;> simp at h

/-- The search climbs as the walk does. -/
theorem climb_of_ascent_up {visited : List Identifier} {parent : Identifier}
    (h : s.ascent visited id = .up parent) : s.climb id = some parent := by
  unfold ascent at h
  cases hc : s.container id with
  | none => simp [hc] at h
  | some p =>
    by_cases hp : p = id
    · simp [hc, hp] at h
    · simp only [hc, if_neg hp] at h
      split at h
      · simp at h
      · obtain rfl : p = parent := Ascent.up.inj h
        exact climb_of_ne hc hp

/-- Rules found at a place with no governed place below are those of the nearest place. -/
theorem finds_of_rulesAt {start : Identifier} {rule : Rule} {rules : List Rule}
    (hpath : path s.climb start k = some id) (hbelow : ∀ j < k, ¬s.GovernedAt s.climb start j)
    (h : (s.rulesAt (decide (k = 0)) id).answer = .ok (rule :: rules)) :
    s.Finds start (some (id, rule :: rules)) := by
  obtain ⟨r, g, hc, hrules⟩ := carriesAt_of_rulesAt hpath h
  have hne : Rule.applicable (Rule.extract g) r.identifier (decide (k = 0)) ≠ [] := by
    rw [← hrules]
    simp
  have hgov : s.GovernedAt s.climb start k :=
    ⟨id, r, g, hc, Rule.applicable_extract_ne_nil_iff.1 hne⟩
  exact ⟨k, r, g, ⟨hgov, hbelow⟩, hc, hrules⟩

/-- If no place up to the end of the walk is governed, no place is. -/
theorem finds_none_of_end {start : Identifier} (hpath : path s.climb start k = some id)
    (hupto : ∀ j < k + 1, ¬s.GovernedAt s.climb start j) (hend : s.climb id = none) :
    s.Finds start none := by
  intro j hj
  rcases Nat.lt_or_ge j (k + 1) with hlt | hge
  · exact hupto j hlt hj
  · obtain ⟨w, r, g, hc, -⟩ := hj
    have hnone := Identifier.path_eq_none_of_lt hpath hend hge
    simp [hc.reached] at hnone

/-- One round of a search, `k` climbs above `start` and with no governed place below: it finds what
a search from `start` should find, provided that the round after it does. -/
theorem finds_of_round {start : Identifier} {visited : List Identifier} {steps : Nat}
    {found : Option (Identifier × List Rule)} (hpath : path s.climb start k = some id)
    (hbelow : ∀ j < k, ¬s.GovernedAt s.climb start j)
    (h : (s.search (decide (k = 0)) visited id steps).answer = .ok found)
    (hround : ∀ parent rest, steps = rest + 1 → path s.climb start (k + 1) = some parent →
      (∀ j < k + 1, ¬s.GovernedAt s.climb start j) →
      (s.search false (id :: visited) parent rest).answer = .ok found → s.Finds start found) :
    s.Finds start found := by
  rw [answer_search] at h
  split at h
  · simp at h
  · next rule rules hr =>
    obtain rfl := Except.ok.inj h
    exact finds_of_rulesAt hpath hbelow hr
  · next hr =>
    have hupto := Nat.forall_lt_succ_right.2 ⟨hbelow, not_governedAt_of_rulesAt hpath hr⟩
    cases ha : s.ascent visited id with
    | root =>
      obtain rfl : none = found := by simpa [ha] using h
      exact finds_none_of_end hpath hupto (climb_of_ascent_root (.inl ha))
    | selfContained =>
      obtain rfl : none = found := by simpa [ha] using h
      exact finds_none_of_end hpath hupto (climb_of_ascent_root (.inr ha))
    | cycle parent => simp [ha] at h
    | up parent =>
      have hnext : path s.climb start (k + 1) = some parent := by
        rw [Identifier.path_succ_of_eq_some hpath, climb_of_ascent_up ha]
      cases steps with
      | zero => simp [ha] at h
      | succ rest =>
        rw [ha] at h
        exact hround parent rest rfl hnext hupto h

/-- A search under way finds what a search from `start` should find. The induction is on the climbs
that the search may still make; each round that goes on adds one place that is not governed. -/
theorem finds_of_search_from {start : Identifier} {visited : List Identifier} {steps : Nat}
    {found : Option (Identifier × List Rule)} (hpath : path s.climb start k = some id)
    (hbelow : ∀ j < k, ¬s.GovernedAt s.climb start j)
    (h : (s.search (decide (k = 0)) visited id steps).answer = .ok found) :
    s.Finds start found := by
  induction steps generalizing id k visited with
  | zero => exact finds_of_round hpath hbelow h fun _ _ hsteps => by simp at hsteps
  | succ steps ih =>
    refine finds_of_round hpath hbelow h fun parent rest hsteps hnext hupto hrest => ?_
    obtain rfl : steps = rest := Nat.succ.inj hsteps
    exact ih hnext hupto hrest

/-- A search that answers has found the rules of the nearest governed place, or there is none. -/
theorem finds_of_search {steps : Nat} {found : Option (Identifier × List Rule)}
    (h : (s.search true [] id steps).answer = .ok found) : s.Finds id found :=
  finds_of_search_from (k := 0) rfl (fun j hj => absurd hj (Nat.not_lt_zero j)) h

end Store

end WebAccess
