import Mathlib
import WebAccess.Proofs.Admission
import WebAccess.Store.Overlay

/-!
# Resolution read off the statements

What an agent may do is settled by single statements. Up the containers, the first place whose
access-control graph has a governing subject is the effective one; the modes are those that a
governing subject states, provided that this subject admits the agent; without such a place nothing
is granted. `Store.nearest_governed_place_decides` puts the walk and the admission of agents
together. The walk ends at a resource that is its own container, and does not look at it a second
time as its own ancestor (`Store.own_container_is_not_an_ancestor`).
-/

set_option autoImplicit false

namespace WebAccess

open Rdf (Graph Term)

namespace Store

open Identifier (path)

/-- Resolution denies everything if the walk finds no rules, and otherwise grants what the found
rules grant. -/
theorem answer_resolve (s : Store) (anonymous : String) (id : Identifier) (agent : String) :
    (s.resolve anonymous id agent).answer =
      (s.search true [] id (s.horizon id)).answer >>= fun found =>
        match found with
        | none => .ok .denied
        | some (acl, rules) =>
          (s.grantedModes anonymous agent rules).answer >>= fun modes => .ok ⟨some acl, modes⟩ := by
  rw [resolve, Inquiry.answer_bind]
  congr 1
  funext found
  rcases found with _ | ⟨acl, rules⟩
  · rfl
  · simp only [Inquiry.answer_bind, Inquiry.answer_event, Inquiry.answer_note, ok_bind,
      Inquiry.answer_pure]

/-- Where resolution answers, it names the nearest governed place and grants what the subjects that
govern there and admit the agent state; if no place is governed it grants nothing. -/
theorem nearest_governed_place_decides {s : Store} {anonymous agent : String} {id : Identifier}
    {outcome : Outcome} (h : (s.resolve anonymous id agent).answer = .ok outcome) :
    (∀ w, outcome.effectiveAcl = some w ↔
        ∃ k, s.NearestAt s.climb id k ∧ path s.climb id k = some w) ∧
      (∀ k w r g, s.NearestAt s.climb id k → s.CarriesAt s.climb id k w r g →
        ∀ m, m ∈ outcome.modes ↔
          ∃ subject, g.Governs r.identifier k subject ∧ g.States subject .mode m.iri ∧
            s.AdmittedBy anonymous agent g subject) ∧
      ((∀ k, ¬s.GovernedAt s.climb id k) → outcome = .denied) := by
  rw [answer_resolve] at h
  obtain ⟨found, hsearch, hrest⟩ := bind_eq_ok.1 h
  have hfinds := finds_of_search hsearch
  rcases found with _ | ⟨acl, rules⟩
  · obtain rfl := Except.ok.inj hrest
    refine ⟨fun w => ?_, fun k w r g hk => ?_, fun _ => rfl⟩
    · refine iff_of_false (by simp [Outcome.denied]) ?_
      rintro ⟨k, hk, -⟩
      exact hfinds k hk.1
    · exact absurd hk.1 (hfinds k)
  · obtain ⟨modes, hmodes, hout⟩ := bind_eq_ok.1 hrest
    obtain rfl := Except.ok.inj hout
    obtain ⟨k, r, g, hnear, hcarries, rfl⟩ := hfinds
    refine ⟨fun w => ?_, ?_, fun hnone => absurd hnear.1 (hnone k)⟩
    · constructor
      · intro hw
        obtain rfl := Option.some.inj hw
        exact ⟨k, hnear, hcarries.reached⟩
      · rintro ⟨j, hj, hpath⟩
        obtain rfl := hj.unique hnear
        exact hcarries.reached.symm.trans hpath
    · intro j w r' g' hj hcarries' m
      obtain rfl := hj.unique hnear
      obtain ⟨rfl, rfl, rfl⟩ := hcarries.unique hcarries'
      exact mem_of_grantedModes (fun _ => Rule.mem_applicable_extract) hmodes m

/-- A graph whose only subject is inherited from `r` and grants reading to the members of a
group. -/
def inheritedByStaff (r : Identifier) : Graph :=
  Graph.ofList
    [⟨.blank "rule", Vocab.default.iri, .iri r⟩,
      ⟨.blank "rule", Vocab.agentGroup.iri, .iri "/groups#staff"⟩,
      ⟨.blank "rule", Vocab.mode.iri, .iri Mode.read.iri⟩]

/-- A store with a container `/a` whose descendants the members of a group may read; `alice` is
the only member. -/
def staffStore : Overlay :=
  .ofMemory <|
    (Memory.empty.put ⟨"/a", ∅, some (inheritedByStaff "/a")⟩).put
      ⟨"/groups", Graph.ofList [⟨.iri "/groups#staff", Vocab.hasMember.iri, .iri "alice"⟩], none⟩

/-- `alice` may read a resource that does not exist: two climbs above it stands the container, and
its subject states the mode and admits her. -/
theorem staff_read_below_container :
    (staffStore.toStore.resolve "nobody" "/a/b/c" "alice").answer =
        .ok ⟨some "/a", ModeSet.ofList [.read]⟩ ∧
      ∃ k r g subject, path staffStore.toStore.climb "/a/b/c" k = some "/a" ∧
        staffStore.toStore.NearestAt staffStore.toStore.climb "/a/b/c" k ∧
        Graph.Governs g r k subject ∧ g.States subject .mode Mode.read.iri ∧
        staffStore.toStore.AdmittedBy "nobody" "alice" g subject := by
  have h : (staffStore.toStore.resolve "nobody" "/a/b/c" "alice").answer =
      .ok ⟨some "/a", ModeSet.ofList [.read]⟩ := by cbv
  obtain ⟨hacl, hmodes, -⟩ := nearest_governed_place_decides h
  obtain ⟨k, hnear, hpath⟩ := (hacl "/a").1 rfl
  obtain ⟨w, r, g, hcarries, -⟩ := hnear.1
  obtain ⟨subject, hgoverns, hstates, hadmitted⟩ :=
    (hmodes k w r g hnear hcarries .read).1 (by decide)
  exact ⟨h, k, r.identifier, g, subject, hpath, hnear, hgoverns, hstates, hadmitted⟩

/-- The store in which, besides, `/a` is its own container. -/
def ownContainer : Store :=
  { staffStore with containers := [("/a", some "/a")] }.toStore

/-- A resource that is its own container does not inherit from itself. Along the containers it would
be met again after one climb, as an ancestor whose rules are inherited; yet nothing is granted. -/
theorem own_container_is_not_an_ancestor :
    (ownContainer.resolve "nobody" "/a" "alice").answer = .ok .denied ∧
      ownContainer.NearestAt ownContainer.container "/a" 1 ∧
      path ownContainer.container "/a" 1 = some "/a" := by
  have hpath : path ownContainer.container "/a" 1 = some "/a" := by cbv
  have hinherited : (inheritedByStaff "/a").States (.blank "rule") .default "/a" :=
    Graph.contains_iff.1 (by cbv)
  have hgoverned : ownContainer.GovernedAt ownContainer.container "/a" 1 :=
    ⟨"/a", ⟨"/a", ∅, some (inheritedByStaff "/a")⟩, inheritedByStaff "/a", ⟨hpath, by cbv, rfl⟩,
      .blank "rule", .inr (.inl ⟨Nat.one_pos, hinherited⟩)⟩
  have htop : ¬ownContainer.GovernedAt ownContainer.container "/a" 0 :=
    not_governedAt_of_rulesAt rfl (by cbv)
  refine ⟨by cbv, ⟨hgoverned, fun j hj => ?_⟩, hpath⟩
  obtain rfl := Nat.lt_one_iff.1 hj
  exact htop

end Store

end WebAccess
