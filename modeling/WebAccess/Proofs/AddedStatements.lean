import WebAccess.Proofs.Failures
import WebAccess.Proofs.Unrelated

/-!
# Statements added to a graph

A statement never speaks against an agent: with more statements a subject covers more, admits more
agents and grants more modes (`Store.AdmittedBy.mono`). What may be lost is that a subject governs.
In the graph of a container above the requested resource the covering subjects count only where no
subject is inherited, so the first statement that makes a subject inherited sets all of them aside.
Whenever this choice does not turn, each subject that governed still does
(`Rdf.Graph.Governs.mono`), and in any case some subject does, so the walk ends where it ended.

Main statement: a larger graph in place of the effective one remains the effective one, and revokes
no mode unless it brings the first inherited subject to a container above the requested resource
(`Store.added_statements_revoke_nothing`).
-/

set_option autoImplicit false

namespace WebAccess

open Rdf (Graph Term)

namespace Rdf.Graph

variable {g g' : Graph} {r : Identifier} {k : Nat} {subject : Term}

/-- A subject that governs a request still does when statements are added, provided that the choice
between inherited and covering subjects stays the same. -/
theorem Governs.mono (hadded : g.triples ⊆ g'.triples)
    (hsame : k = 0 ∨ (∃ u, g.States u .default r) ∨ ∀ u, ¬g'.States u .default r)
    (h : g.Governs r k subject) : g'.Governs r k subject := by
  rcases h with ⟨hzero, hcovers⟩ | ⟨hpos, hinherited⟩ | ⟨hpos, hnone, hcovers⟩
  · exact .inl ⟨hzero, hadded hcovers⟩
  · exact .inr (.inl ⟨hpos, hadded hinherited⟩)
  · rcases hsame with hzero | ⟨u, hu⟩ | hstill
    · exact absurd hzero (Nat.ne_of_gt hpos)
    · exact absurd hu (hnone u)
    · exact .inr (.inr ⟨hpos, hstill, hadded hcovers⟩)

/-- A graph that governs a request still does when statements are added. -/
theorem exists_governs_of_added (hadded : g.triples ⊆ g'.triples)
    (h : ∃ subject, g.Governs r k subject) : ∃ subject, g'.Governs r k subject := by
  obtain ⟨subject, hgoverns⟩ := h
  rcases Nat.eq_zero_or_pos k with hzero | hpos
  · exact ⟨subject, hgoverns.mono hadded (.inl hzero)⟩
  · by_cases hdefault : ∃ u, g'.States u .default r
    · obtain ⟨u, hu⟩ := hdefault
      exact ⟨u, .inr (.inl ⟨hpos, hu⟩)⟩
    · exact ⟨subject, hgoverns.mono hadded (.inr (.inr (not_exists.1 hdefault)))⟩

end Rdf.Graph

namespace Store

variable {s : Store} {anonymous agent : String} {id w other : Identifier} {k : Nat}
  {r : Resource} {g g' : Graph}

/-- An agent that a subject admits is still admitted when statements are added and no group loses a
member. -/
theorem AdmittedBy.mono {s' : Store} {subject : Term} (hadded : g.triples ⊆ g'.triples)
    (hmembers : ∀ group, s.ListsMember group agent → s'.ListsMember group agent)
    (h : s.AdmittedBy anonymous agent g subject) : s'.AdmittedBy anonymous agent g' subject := by
  rcases h with hall | ⟨hidentified, hnamed⟩ | hagent | ⟨group, hgroup, hlists⟩
  · exact .inl (hadded hall)
  · exact .inr (.inl ⟨hadded hidentified, hnamed⟩)
  · exact .inr (.inr (.inl (hadded hagent)))
  · exact .inr (.inr (.inr ⟨group, hadded hgroup, hmembers group hlists⟩))

/-! ## Resolution at a governed place -/

/-- An outcome that names a place comes from the rules of this place. -/
theorem exists_governed_of_resolve {outcome : Outcome}
    (h : (s.resolve anonymous id agent).answer = .ok outcome)
    (hacl : outcome.effectiveAcl = some w) :
    ∃ k ≤ s.horizon id, ∃ r g, s.Reaches id k w ∧ s.CarriesAt s.container id k w r g ∧
      (∃ subject, g.Governs r.identifier k subject) ∧
      (s.grantedModes anonymous agent
        (Rule.applicable (Rule.extract g) r.identifier (decide (k = 0)))).answer =
          .ok outcome.modes := by
  rw [answer_resolve] at h
  obtain ⟨found, hsearch, hrest⟩ := bind_eq_ok.1 h
  obtain ⟨k, hk, u, hu, hend⟩ := (answer_search_eq_iff (by simp)).1 hsearch
  cases hend with
  | top =>
    obtain rfl := Except.ok.inj hrest
    cases hacl
  | @governed r g hcarries hgoverned =>
    obtain ⟨modes, hmodes, houtcome⟩ := bind_eq_ok.1 hrest
    obtain rfl := Except.ok.inj houtcome
    obtain rfl : u = w := Option.some.inj hacl
    exact ⟨k, hk, r, g, hu, hcarries, hgoverned, hmodes⟩

/-- A walk that comes to a governed place within the horizon resolves to the modes of its rules. -/
theorem answer_resolve_of_governed (hk : k ≤ s.horizon id) (hw : s.Reaches id k w)
    (hcarries : s.CarriesAt s.container id k w r g)
    (hgoverned : ∃ subject, g.Governs r.identifier k subject) :
    (s.resolve anonymous id agent).answer =
      (s.grantedModes anonymous agent
        (Rule.applicable (Rule.extract g) r.identifier (decide (k = 0)))).answer >>= fun modes =>
          .ok ⟨some w, modes⟩ := by
  have hsearch := (answer_search_eq_iff (by simp)).2 ⟨k, hk, w, hw, .governed hcarries hgoverned⟩
  rw [answer_resolve, hsearch, ok_bind]

/-- Where every reading answers, the modes of the applicable rules of a graph are decided. -/
theorem exists_grantedModes_of_readable (hreads : ∀ v fault, s.read v ≠ .error fault)
    (anonymous agent : String) (g : Graph) (own : Identifier) (k : Nat) :
    ∃ modes, (s.grantedModes anonymous agent
      (Rule.applicable (Rule.extract g) own (decide (k = 0)))).answer = .ok modes := by
  cases hanswer : (s.grantedModes anonymous agent
      (Rule.applicable (Rule.extract g) own (decide (k = 0)))).answer with
  | ok modes => exact ⟨modes, rfl⟩
  | error stop =>
    obtain ⟨_, -, -, _, -, -, ⟨-, -, _, cause, -, hread, -⟩, -⟩ :=
      grantedModes_applicable_eq_error_iff.1 hanswer
    exact absurd hread (hreads _ cause)

/-! ## Another graph for one resource -/

/-- The store in which the resource under `w`, if there is one, has the given graph. -/
def withAcl (s : Store) (w : Identifier) (g : Graph) : Store :=
  s.withRead fun id =>
    if id = w then (s.read w).map (Option.map fun r => { r with acl := some g }) else s.read id

/-- The resource that is given a graph has this graph and is otherwise as it was. -/
theorem read_withAcl_self (h : s.read w = .ok (some r)) :
    (s.withAcl w g).read w = .ok (some { r with acl := some g }) := by
  simp [withAcl, withRead, h, Except.map]

/-- Giving one resource a graph leaves every other resource as it is. -/
theorem read_withAcl_of_ne (h : id ≠ w) : (s.withAcl w g).read id = s.read id := by
  simp [withAcl, withRead, h]

/-- A store that can be read everywhere can be read everywhere with another graph. -/
theorem read_withAcl_ne_error (hreads : ∀ v fault, s.read v ≠ .error fault) (v : Identifier)
    (fault : Fault) : (s.withAcl w g).read v ≠ .error fault := by
  by_cases h : v = w
  · subst h
    cases hread : s.read v with
    | error cause => exact absurd hread (hreads v cause)
    | ok found => simp [withAcl, withRead, hread, Except.map]
  · rw [read_withAcl_of_ne h]
    exact hreads v fault

/-- What resolution sees of the other resources stays the same. -/
theorem seenForRules_withAcl_of_ne (h : id ≠ w) :
    (s.withAcl w g).seenForRules id = s.seenForRules id := by
  unfold seenForRules
  rw [read_withAcl_of_ne h]

/-- The content of a resource does not change with its graph. -/
theorem seenForMembers_withAcl (s : Store) (w id : Identifier) (g : Graph) :
    (s.withAcl w g).seenForMembers id = s.seenForMembers id := by
  unfold seenForMembers
  by_cases h : id = w
  · subst h
    cases hread : s.read id with
    | error fault => simp [withAcl, withRead, hread, Except.map]
    | ok found => cases found <;> simp [withAcl, withRead, hread, Except.map]
  · rw [read_withAcl_of_ne h]

/-- So groups keep their members. -/
theorem listsMember_withAcl {group : String} (h : s.ListsMember group agent) :
    (s.withAcl w g).ListsMember group agent := by
  obtain ⟨document, hread, hlists⟩ := h
  have hanswer : (s.isMember group agent).answer = .ok true := by
    rw [answer_isMember, hread]
    simpa [Graph.States] using hlists
  have hsame : ((s.withAcl w g).isMember group agent).answer = (s.isMember group agent).answer := by
    rw [answer_isMember_of_seen, answer_isMember_of_seen, seenForMembers_withAcl]
  exact (isMember_eq_ok (hsame.trans hanswer)).1 rfl

/-- A walk comes to a place whatever graph is stored there. -/
theorem Reaches.withAcl (h : s.Reaches id k w) (g : Graph) : (s.withAcl w g).Reaches id k w := by
  apply h.withRead
  intro j hj u hu
  apply seenForRules_withAcl_of_ne
  rintro rfl
  exact h.unrepeated j k hj (Nat.le_refl k) (hu.reached.trans h.reached.symm)

/-- If every reading answers and resolution names the place `w`, where the graph `g` is stored, then
with a graph that has all statements of `g` in its place resolution names `w` again. It grants every
mode that it granted before if `w` is the requested resource itself, or `g` already had an inherited
subject, or the larger graph has none. The subjects are inherited from, and cover, the identifier
that the resource gives itself, whether or not this is `w`. -/
theorem added_statements_revoke_nothing {outcome : Outcome}
    (hreads : ∀ v fault, s.read v ≠ .error fault)
    (h : (s.resolve anonymous id agent).answer = .ok outcome)
    (hacl : outcome.effectiveAcl = some w) (hstored : s.read w = .ok (some r))
    (hcarried : r.acl = some g) (hadded : g.triples ⊆ g'.triples) :
    ∃ outcome', ((s.withAcl w g').resolve anonymous id agent).answer = .ok outcome' ∧
      outcome'.effectiveAcl = some w ∧
      (w = id ∨ (∃ u, g.States u .default r.identifier) ∨
          (∀ u, ¬g'.States u .default r.identifier) →
        ∀ m ∈ outcome.modes, m ∈ outcome'.modes) := by
  obtain ⟨k, hk, r₀, g₀, hw, hcarries, hgoverned, hmodes⟩ := exists_governed_of_resolve h hacl
  obtain rfl : r₀ = r := Option.some.inj (Except.ok.inj (hcarries.stored.symm.trans hstored))
  obtain rfl : g₀ = g := Option.some.inj (hcarries.carried.symm.trans hcarried)
  -- The walk comes to the same place and finds the larger graph there.
  have hw' : (s.withAcl w g').Reaches id k w := hw.withAcl g'
  have hcarries' : (s.withAcl w g').CarriesAt (s.withAcl w g').container id k w
      { r₀ with acl := some g' } g' := ⟨hw'.reached, read_withAcl_self hstored, rfl⟩
  have hgoverned' := Graph.exists_governs_of_added hadded hgoverned
  obtain ⟨modes', hmodes'⟩ := exists_grantedModes_of_readable
    (read_withAcl_ne_error (w := w) (g := g') hreads) anonymous agent g' r₀.identifier k
  refine ⟨⟨some w, modes'⟩, ?_, rfl, ?_⟩
  · rw [answer_resolve_of_governed (s := s.withAcl w g') hk hw' hcarries' hgoverned', hmodes',
      ok_bind]
  · intro hsame m hm
    have hturn : k = 0 ∨ (∃ u, g₀.States u .default r₀.identifier) ∨
        ∀ u, ¬g'.States u .default r₀.identifier := by
      apply hsame.imp_left
      rintro rfl
      -- No walk meets its start again.
      apply Nat.eq_zero_of_not_pos
      intro hpos
      exact hw.unrepeated 0 k hpos (Nat.le_refl k) hw.reached.symm
    obtain ⟨subject, hgoverns, hstates, hadmitted⟩ :=
      (mem_of_grantedModes (fun _ => Rule.mem_applicable_extract) hmodes m).1 hm
    apply (mem_of_grantedModes (fun _ => Rule.mem_applicable_extract) hmodes' m).2
    refine ⟨subject, hgoverns.mono hadded hturn, hadded hstates, ?_⟩
    exact hadmitted.mono hadded fun _ hlists => listsMember_withAcl hlists

/-- The graph that `/a` hands down to the staff, with a second mode for them and a second subject,
which is inherited as well and lets everyone append. -/
def inheritedByMore : Graph :=
  (inheritedByStaff "/a").extend
    [⟨.blank "rule", Vocab.mode.iri, .iri Mode.write.iri⟩,
      ⟨.blank "guests", Vocab.default.iri, .iri "/a"⟩,
      ⟨.blank "guests", Vocab.agentClass.iri, .iri Vocab.foafAgent.iri⟩,
      ⟨.blank "guests", Vocab.mode.iri, .iri Mode.append.iri⟩]

/-- With these statements the staff may read as before. -/
theorem staff_read_with_more_statements :
    (staffStore.toStore.resolve "nobody" "/a/b/c" "alice").answer =
        .ok ⟨some "/a", ModeSet.ofList [.read]⟩ ∧
      ∃ outcome', ((staffStore.toStore.withAcl "/a" inheritedByMore).resolve "nobody" "/a/b/c"
          "alice").answer = .ok outcome' ∧
        outcome'.effectiveAcl = some "/a" ∧ .read ∈ outcome'.modes := by
  have hreads : ∀ v fault, staffStore.toStore.read v ≠ .error fault := by
    intro v fault hread
    cases hread
  have hbefore : (staffStore.toStore.resolve "nobody" "/a/b/c" "alice").answer =
      .ok ⟨some "/a", ModeSet.ofList [.read]⟩ := by decide +kernel
  have hstored : staffStore.toStore.read "/a" =
      .ok (some ⟨"/a", ∅, some (inheritedByStaff "/a")⟩) := by decide +kernel
  have hadded : (inheritedByStaff "/a").triples ⊆ inheritedByMore.triples := by decide +kernel
  have hdefault : (inheritedByStaff "/a").States (.blank "rule") .default "/a" :=
    Graph.contains_iff.1 (by decide +kernel)
  obtain ⟨outcome', hafter, hacl, hkept⟩ :=
    added_statements_revoke_nothing hreads hbefore rfl hstored rfl hadded
  exact ⟨hbefore, outcome', hafter, hacl, hkept (.inr (.inl ⟨_, hdefault⟩)) .read (by decide)⟩

/-- A graph in which `alice` may read `/`. -/
def coveringRoot : Graph :=
  ⟨[⟨.blank "alice", Vocab.accessTo.iri, .iri "/"⟩,
    ⟨.blank "alice", Vocab.agent.iri, .iri "alice"⟩,
    ⟨.blank "alice", Vocab.mode.iri, .iri Mode.read.iri⟩]⟩

/-- She may read below `/` as long as no subject is inherited; the first one takes the mode from
her. -/
example :
    let s := (Overlay.ofMemory (Memory.empty.put ⟨"/", ∅, some coveringRoot⟩)).toStore
    let g' := coveringRoot.insert ⟨.blank "bob", Vocab.default.iri, .iri "/"⟩
    (s.resolve "nobody" "/doc" "alice").answer = .ok ⟨some "/", ModeSet.ofList [.read]⟩ ∧
      ((s.withAcl "/" g').resolve "nobody" "/doc" "alice").answer = .ok ⟨some "/", ∅⟩ := by
  decide +kernel

end Store

end WebAccess
