import Mathlib
import WebAccess.Proofs.PathCuts
import WebAccess.Proofs.WalkPlaces
import WebAccess.Store.Overlay

/-!
# Where walks end

Nothing gets smaller along the containers that a store chooses. A walk ends all the same where only
finitely many identifiers can be reached, because it never reads one twice: after `k` climbs it has
met `k + 1` of them (`Store.Reaches.lt_ncard_reachable`). Such are the stores whose containers are
those of the path but for finitely many identifiers (`Store.finite_reachable`), since a path has
finitely many beginnings. In an overlay the climbs are counted: between two chosen containers the
identifiers get shorter, and each choice is used once (`Overlay.exists_unused`).

Main statement: such a walk ends, reads no identifier twice, and fails for a cycle exactly if the
containers lead back to an identifier met before (`Store.walk_ends_and_finds_cycles`).
-/

set_option autoImplicit false

namespace WebAccess

open Identifier (path Unrepeated)

/-! ## Finitely many identifiers above -/

namespace Store

/-- The identifiers that the containers of `id` lead to, with `id` itself. -/
def reachable (s : Store) (id : Identifier) : Set Identifier :=
  {w | ∃ k, path s.container id k = some w}

variable {s : Store} {id w : Identifier} {k : Nat}

/-- After `k` climbs a walk has met `k + 1` identifiers. -/
theorem Reaches.lt_ncard_reachable (h : s.Reaches id k w) (hfinite : (s.reachable id).Finite) :
    k < (s.reachable id).ncard := by
  let place (j : Nat) : Identifier := (path s.container id j).getD id
  have hplace : ∀ j ≤ k, path s.container id j = some (place j) := by
    intro j hj
    obtain ⟨u, hu⟩ := Identifier.exists_path_of_le h.reached hj
    simp [place, hu]
  have hinjective : Set.InjOn place (Finset.range (k + 1)) := by
    intro i hi j hj heq
    have hi' : i ≤ k := by simpa [Nat.lt_succ_iff] using hi
    have hj' : j ≤ k := by simpa [Nat.lt_succ_iff] using hj
    have hpath : path s.container id i = path s.container id j := by
      rw [hplace i hi', hplace j hj', heq]
    rcases Nat.lt_trichotomy i j with hlt | rfl | hgt
    · exact absurd hpath (h.unrepeated i j hlt hj')
    · rfl
    · exact absurd hpath.symm (h.unrepeated j i hgt hi')
  have hsubset : (((Finset.range (k + 1)).image place : Finset Identifier) : Set Identifier) ⊆
      s.reachable id := by
    intro u hu
    obtain ⟨j, hj, rfl⟩ := Finset.mem_image.1 (Finset.mem_coe.1 hu)
    exact ⟨j, hplace j (Nat.lt_succ_iff.1 (Finset.mem_range.1 hj))⟩
  have hcard := Set.ncard_le_ncard hsubset hfinite
  rw [Set.ncard_coe_finset, Finset.card_image_of_injOn hinjective, Finset.card_range] at hcard
  omega

/-- A set that holds the start, and with an identifier its container, holds all that is
reachable. -/
theorem reachable_subset {t : Set Identifier} (hid : id ∈ t)
    (hup : ∀ v ∈ t, ∀ p, s.container v = some p → p ∈ t) : s.reachable id ⊆ t := by
  rintro w ⟨k, hk⟩
  induction k generalizing w with
  | zero =>
    obtain rfl : id = w := Option.some.inj hk
    exact hid
  | succ k ih =>
    obtain ⟨v, hv, hup'⟩ := Option.bind_eq_some_iff.1 hk
    exact hup v (ih hv) w hup'

end Store

/-- An identifier has finitely many beginnings. -/
theorem Identifier.finite_beginnings (x : Identifier) :
    {w : Identifier | w.toList <+: x.toList}.Finite := by
  have hinits : {l : List Char | l <+: x.toList}.Finite := by
    apply (List.finite_toSet x.toList.inits).subset
    intro l hl
    exact (List.mem_inits l x.toList).2 hl
  apply hinits.preimage (f := String.toList)
  intro a _ b _ heq
  exact String.toList_injective heq

/-- If the containers are those of the path but for finitely many identifiers, only beginnings of
the start and of the chosen containers can be reached. -/
theorem Store.finite_reachable {s : Store}
    (h : {v | s.container v ≠ Identifier.parent? v}.Finite) (id : Identifier) :
    (s.reachable id).Finite := by
  let tops : Set Identifier := insert id {p | ∃ v, s.container v ≠ Identifier.parent? v ∧
    s.container v = some p}
  have htops : tops.Finite := by
    apply Set.Finite.insert
    apply (h.image fun v => (s.container v).getD id).subset
    rintro p ⟨v, hv, hp⟩
    exact ⟨v, hv, by simp [hp]⟩
  have hbeginnings : (⋃ x ∈ tops, {w : Identifier | w.toList <+: x.toList}).Finite :=
    htops.biUnion fun x _ => Identifier.finite_beginnings x
  apply hbeginnings.subset
  apply reachable_subset
  · exact Set.mem_biUnion (Set.mem_insert id _) (List.prefix_refl id.toList)
  · intro v hv p hp
    obtain ⟨x, hx, hvx⟩ := Set.mem_iUnion₂.1 hv
    by_cases hpath : s.container v = Identifier.parent? v
    · rw [hpath] at hp
      exact Set.mem_biUnion hx ((Identifier.isPrefix_of_parent? hp).trans hvx)
    · exact Set.mem_biUnion (Set.mem_insert_of_mem id ⟨v, hpath, hp⟩) (List.prefix_refl p.toList)

/-! ## The climbs in an overlay -/

namespace Overlay

/-- How many climbs a chosen container adds at most: the one to it and those along its path. -/
def added (e : Identifier × Option Identifier) : Nat := (e.2.getD "").length + 1

/-- The horizon of an overlay is the length of the identifier and what the chosen containers add. -/
theorem horizon_eq (o : Overlay) (id : Identifier) :
    o.horizon id = id.length + (o.containers.map added).sum := by
  unfold horizon
  induction o.containers with
  | nil => rfl
  | cons e es ih =>
    rw [List.foldr_cons, ih, List.map_cons, List.sum_cons, added]
    omega

/-- After `k` climbs without repetition the choices of the identifiers met are used up, and the
others still fit below the horizon. -/
theorem exists_unused {o : Overlay} {id w : Identifier} {k : Nat}
    (hunrepeated : Unrepeated o.container id k) (hw : path o.container id k = some w) :
    ∃ rest : Table (Option Identifier),
      (∀ e ∈ o.containers, (∀ j < k, path o.container id j ≠ some e.1) → e ∈ rest) ∧
        w.length + k + (rest.map added).sum ≤ o.horizon id := by
  -- Climbing from `v`, either its choice is used up or the container is shorter than `v`.
  induction k generalizing w with
  | zero =>
    obtain rfl : id = w := Option.some.inj hw
    refine ⟨o.containers, ?_, ?_⟩
    · intro e he _
      exact he
    · rw [horizon_eq]
      omega
  | succ k ih =>
    obtain ⟨v, hv, hup⟩ := Option.bind_eq_some_iff.1 hw
    obtain ⟨rest, hrest, hle⟩ := ih (hunrepeated.of_le (Nat.le_succ k)) hv
    unfold container at hup
    cases hlookup : o.containers.lookup v with
    | none =>
      rw [hlookup] at hup
      have hshorter := Identifier.length_lt_of_parent? hup
      refine ⟨rest, ?_, by omega⟩
      intro e he hunmet
      apply hrest e he
      intro j hj
      exact hunmet j (by omega)
    | some chosen =>
      rw [hlookup] at hup
      obtain rfl : chosen = some w := hup
      obtain ⟨front, back, hlist, -⟩ := List.lookup_eq_some_iff.1 hlookup
      have hmem : (v, some w) ∈ o.containers := by
        rw [hlist]
        exact List.mem_append_right front List.mem_cons_self
      have hunused : (v, some w) ∈ rest := by
        apply hrest _ hmem
        intro j hj hpath
        exact hunrepeated j k hj (Nat.le_succ k) (hpath.trans hv.symm)
      obtain ⟨before, after, rfl⟩ := List.append_of_mem hunused
      refine ⟨before ++ after, ?_, ?_⟩
      · intro e he hunmet
        have hne : e ≠ (v, some w) := by
          rintro rfl
          exact hunmet k (Nat.lt_succ_self k) hv
        have hold : e ∈ before ++ (v, some w) :: after := by
          apply hrest e he
          intro j hj
          exact hunmet j (by omega)
        simpa [hne] using hold
      · have hadded : added (v, some w) = w.length + 1 := rfl
        simp only [List.map_append, List.map_cons, List.sum_append, List.sum_cons] at hle ⊢
        omega

/-- An overlay chooses the containers of finitely many identifiers. -/
theorem finite_chosen (o : Overlay) :
    {v | o.toStore.container v ≠ Identifier.parent? v}.Finite := by
  apply (List.finite_toSet (o.containers.map (·.1))).subset
  intro v hv
  by_contra hnot
  apply hv
  have hlookup : o.containers.lookup v = none := by
    rw [List.lookup_eq_none_iff]
    intro e he
    have hne : v ≠ e.1 := by
      rintro rfl
      exact hnot (List.mem_map_of_mem he)
    simpa using hne
  show o.container v = Identifier.parent? v
  rw [container, hlookup]

/-- The horizon of an overlay is beyond every walk. -/
theorem search_finished (o : Overlay) (id : Identifier) :
    (o.toStore.search true [] id (o.horizon id)).answer ≠ .error .unfinished := by
  intro h
  obtain ⟨w, hw⟩ := Store.answer_search_eq_unfinished_iff.1 h
  obtain ⟨rest, -, hle⟩ := exists_unused hw.unrepeated hw.reached
  omega

end Overlay

/-! ## How a walk ends -/

namespace Store

/-- The walk from `id` ends within the climbs that are allowed, as it should. -/
structure EndsWell (s : Store) (id : Identifier) (steps : Nat) : Prop where
  /-- It ends. -/
  finished : (s.search true [] id steps).answer ≠ .error .unfinished
  /-- It reads each of its places. -/
  reads_places : ∀ w, w ∈ (s.search true [] id steps).reads ↔ ∃ k, s.Reaches id k w
  /-- It reads no identifier twice. -/
  reads_once : (s.search true [] id steps).reads.Nodup
  /-- It fails for a cycle exactly if the containers lead back to an identifier met before. A fault
  that the store gives to a reading is passed on, whichever it is. -/
  cycle_iff : ∀ p, (s.search true [] id steps).answer = .error (.failed (.cycle p)) ↔
    s.ReturnsTo id p ∨ s.FailsToRead id (.cycle p)
  /-- Where it has passed all places up to one without a container, or with itself as container,
  it finds nothing. -/
  finds_nothing : ∀ k w, s.Reaches id k w → s.PassedAt id k →
    s.container w = none ∨ s.container w = some w →
    (s.search true [] id steps).answer = .ok none

/-- A walk that ends does so as it should. -/
theorem endsWell_of_finished {s : Store} {id : Identifier} {steps : Nat}
    (h : (s.search true [] id steps).answer ≠ .error .unfinished) : s.EndsWell id steps := by
  refine ⟨h, ?_, nodup_reads_search, ?_, ?_⟩
  · intro w
    rw [mem_reads_search]
    constructor
    · rintro ⟨k, -, hw⟩
      exact ⟨k, hw⟩
    · rintro ⟨k, hw⟩
      exact ⟨k, hw.le_of_finished h, hw⟩
  · intro p
    rw [answer_search_eq_failed_iff h, or_comm]
    simp
  · intro k w hw hpassed hend
    apply (answer_search_eq_iff (by simp)).2
    exact ⟨k, hw.le_of_finished h, w, hw, .top hpassed hend⟩

/-- Where only finitely many identifiers can be reached a walk ends as it should, as soon as it may
climb over all of them. This is so where all containers but finitely many are those of the path, as
in an overlay, whose horizon is far enough and whose readings never fail for a cycle. -/
theorem walk_ends_and_finds_cycles (s : Store) (id : Identifier) :
    ({v | s.container v ≠ Identifier.parent? v}.Finite → (s.reachable id).Finite) ∧
      ((s.reachable id).Finite →
        ∀ steps, (s.reachable id).ncard ≤ steps + 1 → s.EndsWell id steps) ∧
      ∀ o : Overlay, (o.toStore.reachable id).Finite ∧ o.toStore.EndsWell id (o.horizon id) ∧
        ∀ p, (o.toStore.search true [] id (o.horizon id)).answer = .error (.failed (.cycle p)) ↔
          o.toStore.ReturnsTo id p := by
  refine ⟨?_, ?_, ?_⟩
  · intro hchosen
    exact finite_reachable hchosen id
  · intro hfinite steps hsteps
    apply endsWell_of_finished
    intro hstop
    obtain ⟨w, hw⟩ := answer_search_eq_unfinished_iff.1 hstop
    have hmet := hw.lt_ncard_reachable hfinite
    omega
  · intro o
    have hends := endsWell_of_finished (o.search_finished id)
    refine ⟨finite_reachable o.finite_chosen id, hends, ?_⟩
    intro p
    have hreadable : ¬o.toStore.FailsToRead id (.cycle p) := by
      rintro ⟨k, w, -, hread⟩
      obtain ⟨reason, hreason⟩ := Overlay.exists_reason_of_read hread
      cases hreason
    rw [hends.cycle_iff p, or_iff_left hreadable]

/-- An overlay in which `/a` lies in `/x`, and `/x` and `/y` lie in each other. -/
def roundAbove : Overlay :=
  { Overlay.ofMemory ∅ with
    containers := [("/a", some "/x"), ("/x", some "/y"), ("/y", some "/x")] }

/-- The walk from `/a` enters the round at `/x`, which is the first identifier that it meets
twice. -/
theorem round_entered_at_x :
    {v | roundAbove.toStore.container v ≠ Identifier.parent? v}.Finite ∧
      (roundAbove.toStore.reachable "/a").ncard ≤ 3 ∧
      roundAbove.toStore.ReturnsTo "/a" "/x" ∧
      (roundAbove.toStore.search true [] "/a" 2).answer = .error (.failed (.cycle "/x")) := by
  have hsubset : roundAbove.toStore.reachable "/a" ⊆ {"/a", "/x", "/y"} := by
    apply reachable_subset (by simp)
    rintro v (rfl | rfl | rfl) p hp
    · obtain rfl : "/x" = p := Option.some.inj hp
      simp
    · obtain rfl : "/y" = p := Option.some.inj hp
      simp
    · obtain rfl : "/x" = p := Option.some.inj hp
      simp
  have hncard : (roundAbove.toStore.reachable "/a").ncard ≤ 3 :=
    calc (roundAbove.toStore.reachable "/a").ncard
        ≤ ({"/a", "/x", "/y"} : Set Identifier).ncard :=
          Set.ncard_le_ncard hsubset (Set.toFinite _)
      _ ≤ 3 := by simp
  have hreturns : roundAbove.toStore.ReturnsTo "/a" "/x" := by
    refine ⟨1, 2, by omega, by cbv, by cbv, ?_, ?_⟩
    · intro i j hij hj
      interval_cases j <;> interval_cases i <;> decide +kernel
    · intro i hi
      interval_cases i
      · exact passedAt_of_rulesAt (w := "/a") rfl (by cbv)
      · exact passedAt_of_rulesAt (w := "/x") (by cbv) (by cbv)
      · exact passedAt_of_rulesAt (w := "/y") (by cbv) (by cbv)
  obtain ⟨hfinite, hends, -⟩ := walk_ends_and_finds_cycles roundAbove.toStore "/a"
  have hround := hends (hfinite roundAbove.finite_chosen) 2 hncard
  exact ⟨roundAbove.finite_chosen, hncard, hreturns, (hround.cycle_iff "/x").2 (.inl hreturns)⟩

end Store

end WebAccess
