import Mathlib
import WebAccess.Proofs.NearestRules
import WebAccess.Proofs.WalkPlaces

/-!
# Data that resolution does not look at

Of a place on the walk, resolution sees the identifier that the resource gives itself and its
access-control graph (`Store.seenForRules`); of the document of a group it sees the content
(`Store.seenForMembers`). Whatever else a store holds may change: as long as it shows the same at
the places of the walk and in the documents of the groups that the governing subjects name, the walk
takes the same steps (`Store.Reaches.withRead`), ends with the same answer
(`Store.EndsAt.withRead`), and resolution answers or fails alike
(`Store.unrelated_data_is_ignored`).
-/

set_option autoImplicit false

namespace WebAccess

open Rdf (Graph Term)

namespace Store

open Identifier (path groupDocument)

/-- The store that reads otherwise, and has the same containers. -/
def withRead (s : Store) (read' : Identifier → Except Fault (Option Resource)) : Store :=
  { s with read := read' }

/-- What a reading shows to the walk: the fault, the absence, or the own identifier and the
access-control graph of the resource. -/
def seenForRules (s : Store) (id : Identifier) :
    Except Fault (Option (Identifier × Option Graph)) :=
  (s.read id).map (Option.map fun r => (r.identifier, r.acl))

/-- What a reading shows to the look-up of members: the fault, the absence, or the content of the
resource. -/
def seenForMembers (s : Store) (id : Identifier) : Except Fault (Option Graph) :=
  (s.read id).map (Option.map (·.content))

variable {s : Store} {read' : Identifier → Except Fault (Option Resource)}
  {anonymous agent : String} {id w : Identifier} {k : Nat}

/-! ## What is seen decides -/

/-- Which rules stand at a place depends on what resolution sees of it for rules. -/
theorem answer_rulesAt_of_seen (top : Bool) :
    (s.rulesAt top w).answer =
      match s.seenForRules w with
      | .error fault => .error (.failed fault)
      | .ok (some (own, some g)) => .ok (Rule.applicable (Rule.extract g) own top)
      | .ok _ => .ok [] := by
  rw [answer_rulesAt]
  unfold seenForRules
  cases s.read w with
  | error fault => rfl
  | ok found =>
    cases found with
    | none => rfl
    | some r =>
      unfold governing
      cases hacl : r.acl <;> simp [Except.map, hacl]

/-- Whether a group lists an agent depends on what resolution sees of the document for members. -/
theorem answer_isMember_of_seen (group : String) :
    (s.isMember group agent).answer =
      match s.seenForMembers (groupDocument group) with
      | .error fault => .error (.failed (.group group fault.message))
      | .ok none => .ok false
      | .ok (some content) =>
        .ok (content.contains ⟨.iri group, Vocab.hasMember.iri, .iri agent⟩ ||
          content.contains ⟨.iri (groupDocument group), Vocab.hasMember.iri, .iri agent⟩) := by
  rw [answer_isMember]
  unfold seenForMembers
  cases s.read (groupDocument group) with
  | error fault => rfl
  | ok found => cases found <;> rfl

/-- A fault that resolution sees is the fault of the reading. -/
theorem read_eq_error_of_seen {fault : Fault} (h : s.seenForRules w = .error fault) :
    s.read w = .error fault := by
  unfold seenForRules at h
  cases hread : s.read w with
  | error other =>
    rw [hread] at h
    exact congrArg Except.error (Except.error.inj h)
  | ok found =>
    rw [hread] at h
    cases h

/-- A resource of which resolution sees identifier and graph is stored with them. -/
theorem exists_read_of_seen {own : Identifier} {acl : Option Graph}
    (h : s.seenForRules w = .ok (some (own, acl))) :
    ∃ r, s.read w = .ok (some r) ∧ r.identifier = own ∧ r.acl = acl := by
  obtain ⟨found, hread, hfound⟩ := map_eq_ok.1 h
  obtain ⟨r, rfl, hr⟩ := Option.map_eq_some_iff.1 hfound
  obtain ⟨hown, hacl⟩ := Prod.mk.inj hr
  exact ⟨r, hread, hown, hacl⟩

/-! ## The walk -/

/-- A place that shows the same is passed by both walks. -/
theorem PassedAt.withRead (h : s.PassedAt id k) (hw : path s.container id k = some w)
    (hseen : (s.withRead read').seenForRules w = s.seenForRules w) :
    (s.withRead read').PassedAt id k := by
  have hrules : (s.rulesAt (decide (k = 0)) w).answer = .ok [] := h.answer_rulesAt hw
  apply passedAt_of_rulesAt (s := s.withRead read') (w := w) hw
  rw [answer_rulesAt_of_seen, hseen, ← answer_rulesAt_of_seen]
  exact hrules

/-- Where the places on the way show the same, both walks reach the same place. -/
theorem Reaches.withRead (h : s.Reaches id k w)
    (hseen : ∀ j < k, ∀ u, s.Reaches id j u →
      (s.withRead read').seenForRules u = s.seenForRules u) :
    (s.withRead read').Reaches id k w := by
  refine ⟨h.reached, h.unrepeated, ?_⟩
  intro j hj
  obtain ⟨u, hu⟩ := h.below (Nat.le_of_lt hj)
  exact (h.passed j hj).withRead hu.reached (hseen j hj u hu)

/-- A walk that ends at a place ends there with the same answer if the place shows the same. -/
theorem EndsAt.withRead {answer : Except Stop (Option (Identifier × List Rule))}
    (h : s.EndsAt id k w answer) (hw : s.Reaches id k w)
    (hseen : (s.withRead read').seenForRules w = s.seenForRules w) :
    (s.withRead read').EndsAt id k w answer := by
  cases h with
  | unread hread =>
    apply EndsAt.unread
    apply read_eq_error_of_seen
    rw [hseen, seenForRules, hread]
    rfl
  | @governed r g hcarries hgoverned =>
    have hshown : (s.withRead read').seenForRules w = .ok (some (r.identifier, some g)) := by
      rw [hseen, seenForRules, hcarries.stored, ← hcarries.carried]
      rfl
    obtain ⟨r', hread, hown, hacl⟩ := exists_read_of_seen hshown
    rw [← hown] at hgoverned ⊢
    exact .governed ⟨hw.reached, hread, hacl⟩ hgoverned
  | top hpassed hend => exact .top (hpassed.withRead hw.reached hseen) hend
  | back hpassed hup hj hmet => exact .back (hpassed.withRead hw.reached hseen) hup hj hmet

/-- Where all places of the walk show the same, both searches answer the same. -/
theorem answer_search_withRead
    (hseen : ∀ k w, s.Reaches id k w → (s.withRead read').seenForRules w = s.seenForRules w)
    (steps : Nat) :
    ((s.withRead read').search true [] id steps).answer = (s.search true [] id steps).answer := by
  rcases s.search_ends_or_passes id steps with ⟨m, hm, u, hu, hend, -⟩ | ⟨u, hu, hstop, -⟩
  · apply (answer_search_eq_iff hend.ne_unfinished).2
    have hreach : (s.withRead read').Reaches id m u := hu.withRead fun j _ v hv => hseen j v hv
    exact ⟨m, hm, u, hreach, hend.withRead hu (hseen m u hu)⟩
  · rw [hstop]
    apply answer_search_eq_unfinished_iff.2
    exact ⟨u, hu.withRead fun j _ v hv => hseen j v hv⟩

/-- Resolution answers the same, or fails the same, on a store that shows the same rules at the
places of the walk and the same members in the documents of the groups that the governing subjects
name. Any two stores with the same containers are related by `withRead`. -/
theorem unrelated_data_is_ignored
    (hwalk : ∀ k w, s.Reaches id k w → (s.withRead read').seenForRules w = s.seenForRules w)
    (hgroups : ∀ k w r g subject group, s.Reaches id k w → s.CarriesAt s.container id k w r g →
      g.Governs r.identifier k subject → g.States subject .agentGroup group →
      (s.withRead read').seenForMembers (groupDocument group) =
        s.seenForMembers (groupDocument group)) :
    ((s.withRead read').resolve anonymous id agent).answer =
      (s.resolve anonymous id agent).answer := by
  have hsearch : ((s.withRead read').search true [] id ((s.withRead read').horizon id)).answer =
      (s.search true [] id (s.horizon id)).answer := answer_search_withRead hwalk (s.horizon id)
  rw [answer_resolve, answer_resolve, hsearch]
  cases hfound : (s.search true [] id (s.horizon id)).answer with
  | error stop => rfl
  | ok found =>
    obtain ⟨k, -, w, hw, hend⟩ := (answer_search_eq_iff (by simp)).1 hfound
    cases hend with
    | top => rfl
    | @governed r g hcarries hgoverned =>
      have hmodes : ((s.withRead read').grantedModes anonymous agent
          (Rule.applicable (Rule.extract g) r.identifier (decide (k = 0)))).answer =
          (s.grantedModes anonymous agent
            (Rule.applicable (Rule.extract g) r.identifier (decide (k = 0)))).answer := by
        apply grantedModes_eq_of_groups
        intro rule hrule group hgroup
        obtain ⟨subject, hgoverns, rfl⟩ := Rule.mem_applicable_extract.1 hrule
        have hstates := Rule.mem_agentGroups_about.1 hgroup
        rw [answer_isMember_of_seen, answer_isMember_of_seen,
          hgroups k w r g subject group hw hcarries hgoverns hstates]
      simp only [ok_bind, hmodes]

/-- A store that differs from the one of the staff in the content of the container, in the rules of
the document that lists the members, and in the root, which cannot be read. -/
def rearranged : Overlay :=
  { Overlay.ofMemory <|
      (Memory.empty.put
        ⟨"/a", Graph.ofList [⟨.iri "/a", Vocab.hasMember.iri, .iri "bob"⟩],
          some (inheritedByStaff "/a")⟩).put
        ⟨"/groups", Graph.ofList [⟨.iri "/groups#staff", Vocab.hasMember.iri, .iri "alice"⟩],
          some (inheritedByStaff "/groups")⟩
    with readFaults := [("/", "backend unavailable")] }

/-- The staff may read there as before. -/
theorem staff_read_where_rearranged :
    ((staffStore.toStore.withRead rearranged.read).resolve "nobody" "/a/b/c" "alice").answer =
      .ok ⟨some "/a", ModeSet.ofList [.read]⟩ := by
  have hbefore : (staffStore.toStore.resolve "nobody" "/a/b/c" "alice").answer =
      .ok ⟨some "/a", ModeSet.ofList [.read]⟩ := by decide +kernel
  have hends : (staffStore.toStore.search true [] "/a/b/c" 2).answer ≠ .error .unfinished := by
    decide +kernel
  have hreads : (staffStore.toStore.search true [] "/a/b/c" 2).reads =
      ["/a/b/c", "/a/b", "/a"] := by
    decide +kernel
  have hplaces : ∀ k w, staffStore.toStore.Reaches "/a/b/c" k w →
      w ∈ ["/a/b/c", "/a/b", "/a"] := by
    intro k w hw
    rw [← hreads]
    exact mem_reads_search.2 ⟨k, hw.le_of_finished hends, hw⟩
  rw [← hbefore]
  apply unrelated_data_is_ignored
  · intro k w hw
    have hseen : ∀ u ∈ ["/a/b/c", "/a/b", "/a"],
        (staffStore.toStore.withRead rearranged.read).seenForRules u =
          staffStore.toStore.seenForRules u := by decide +kernel
    exact hseen w (hplaces k w hw)
  · intro k w r g subject group hw hcarries _ hstates
    have hcarried : r.acl = some (inheritedByStaff "/a") := by
      have hstored : ∀ u ∈ ["/a/b/c", "/a/b", "/a"], staffStore.read u = .ok none ∨
          staffStore.read u = .ok (some ⟨"/a", ∅, some (inheritedByStaff "/a")⟩) := by
        decide +kernel
      have hread : staffStore.read w = .ok (some r) := hcarries.stored
      rcases hstored w (hplaces k w hw) with hnone | hsome
      · rw [hnone] at hread
        cases hread
      · rw [hsome] at hread
        cases hread
        rfl
    obtain rfl := Option.some.inj (hcarries.carried.symm.trans hcarried)
    have htriples : (inheritedByStaff "/a").triples =
        [⟨.blank "rule", Vocab.default.iri, .iri "/a"⟩,
          ⟨.blank "rule", Vocab.agentGroup.iri, .iri "/groups#staff"⟩,
          ⟨.blank "rule", Vocab.mode.iri, .iri Mode.read.iri⟩] := by decide +kernel
    obtain rfl : group = "/groups#staff" := by
      unfold Graph.States at hstates
      rw [htriples] at hstates
      have hdefault : Vocab.agentGroup.iri ≠ Vocab.default.iri := by decide
      have hmode : Vocab.agentGroup.iri ≠ Vocab.mode.iri := by decide
      have hboth : subject = .blank "rule" ∧ group = "/groups#staff" := by
        simpa [hdefault, hmode] using hstates
      exact hboth.2
    decide +kernel

end Store

end WebAccess
