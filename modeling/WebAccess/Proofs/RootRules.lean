import WebAccess.Proofs.PathRoots
import WebAccess.Proofs.Unrelated

/-!
# The rules that a root gets

The graph that a root gets at the start has one subject. It covers the root, it is inherited from
it, and it grants every mode to every agent. Written to a memory, it shows at the root only. So a
walk that got up to the root before finds the rules there and grants everything
(`Memory.resolve_writeRootRules_of_reaches`), and any other walk answers what it answered before
(`Memory.resolve_writeRootRules_of_not_reaches`). The content of the root does not change, so groups
keep their members.
-/

set_option autoImplicit false

namespace WebAccess

open Rdf (Graph Term Triple)

namespace Rdf.Graph

/-- An extended graph has its own triples and the given ones. -/
theorem mem_extend {g : Graph} {ts : List Triple} {t : Triple} :
    t ∈ (g.extend ts).triples ↔ t ∈ g.triples ∨ t ∈ ts := by
  unfold extend
  induction ts generalizing g with
  | nil => simp
  | cons u us ih =>
    rw [List.foldl_cons, ih, mem_insert, List.mem_cons]
    constructor
    · rintro ((h | h) | h)
      · exact .inr (.inl h)
      · exact .inl h
      · exact .inr (.inr h)
    · rintro (h | h | h)
      · exact .inl (.inr h)
      · exact .inl (.inl h)
      · exact .inr h

/-- A graph that is made from a list has the triples of the list. -/
theorem mem_ofList {ts : List Triple} {t : Triple} : t ∈ (ofList ts).triples ↔ t ∈ ts := by
  unfold ofList
  rw [mem_extend]
  exact or_iff_right List.not_mem_nil

end Rdf.Graph

/-! ## What the graph states -/

namespace Service

/-- The subject of the rules for a root. -/
def rootSubject (root : Identifier) : Term := .iri (root ++ "#auth")

variable {root : Identifier} {subject : Term}

/-- The graph speaks of one subject only. -/
theorem eq_rootSubject {p : Vocab} {o : String} (h : (rootRules root).States subject p o) :
    subject = rootSubject root := by
  have hmem := Graph.mem_ofList.1 h
  simp only [Mode.all, List.map_cons, List.map_nil, List.cons_append, List.nil_append,
    List.mem_cons, Triple.mk.injEq, List.not_mem_nil, or_false] at hmem
  unfold rootSubject
  rcases hmem with h | h | h | h | h | h | h | h <;> exact h.1

/-- The rules for a root state that every agent has every mode on it and on what is below. -/
theorem rootRules_states {p : Vocab} {o : String}
    (h : (p, o) ∈ [(.agentClass, Vocab.foafAgent.iri), (.accessTo, root), (.default, root)] ∨
      p = .mode ∧ ∃ m : Mode, m.iri = o) :
    (rootRules root).States (rootSubject root) p o := by
  apply Graph.mem_ofList.2
  rw [List.mem_append]
  rcases h with h | ⟨rfl, m, rfl⟩
  · left
    simp only [List.mem_cons, Prod.mk.injEq, List.not_mem_nil, or_false] at h
    rcases h with ⟨rfl, rfl⟩ | ⟨rfl, rfl⟩ | ⟨rfl, rfl⟩ <;> simp [rootSubject]
  · right
    exact List.mem_map.2 ⟨m, Mode.mem_all m, rfl⟩

end Service

namespace Rule

/-- There are rules, and each grants every mode to every agent. -/
def GrantAll (rules : List Rule) : Prop :=
  rules ≠ [] ∧ ∀ rule ∈ rules, rule.hasClass .foafAgent = true ∧ rule.modes = .all

open Service in
/-- The rules for a root apply to it and to everything below. -/
theorem grantAll_rootRules (root : Identifier) (top : Bool) :
    GrantAll (applicable (extract (rootRules root)) root top) := by
  obtain ⟨climbs, rfl⟩ : ∃ climbs : Nat, top = decide (climbs = 0) := by
    cases top with
    | true => exact ⟨0, rfl⟩
    | false => exact ⟨1, rfl⟩
  constructor
  · apply applicable_extract_ne_nil_iff.2
    refine ⟨rootSubject root, ?_⟩
    rcases Nat.eq_zero_or_pos climbs with hzero | hpos
    · exact .inl ⟨hzero, rootRules_states (.inl (by simp))⟩
    · exact .inr (.inl ⟨hpos, rootRules_states (.inl (by simp))⟩)
  · intro rule hrule
    obtain ⟨subject, hgoverns, rfl⟩ := mem_applicable_extract.1 hrule
    obtain rfl : subject = rootSubject root := by
      rcases hgoverns with ⟨-, h⟩ | ⟨-, h⟩ | ⟨-, -, h⟩ <;> exact eq_rootSubject h
    constructor
    · exact hasClass_about.2 (rootRules_states (.inl (by simp)))
    · apply ModeSet.ext
      intro m
      have hstates : (rootRules root).States (rootSubject root) .mode m.iri :=
        rootRules_states (.inr ⟨rfl, m, rfl⟩)
      exact iff_of_true (mem_modes_about.2 hstates) ModeSet.mem_all

end Rule

namespace Store

variable {s : Store} {anonymous agent : String}

/-- Where each rule grants every mode to every agent, everything is granted as soon as there is a
rule. -/
theorem grantedModes_of_forall {rules : List Rule}
    (h : ∀ rule ∈ rules, rule.hasClass .foafAgent = true ∧ rule.modes = .all) :
    (s.grantedModes anonymous agent rules).answer = .ok (if rules = [] then ∅ else .all) := by
  induction rules with
  | nil => rfl
  | cons rule rules ih =>
    obtain ⟨heveryone, hmodes⟩ := h rule List.mem_cons_self
    have hrest := ih fun r hr => h r (List.mem_cons_of_mem _ hr)
    have hadmits : (s.admits anonymous rule agent).answer = .ok true := by
      unfold admits
      rw [if_pos (.inl heveryone)]
      rfl
    rw [answer_grantedModes_cons, hadmits, ok_bind, hrest, ok_bind, if_pos rfl, hmodes,
      if_neg (List.cons_ne_nil rule rules)]
    rfl

/-- Rules that each grant everything to everybody grant every mode together. -/
theorem grantedModes_of_grantAll {rules : List Rule} (h : Rule.GrantAll rules) :
    (s.grantedModes anonymous agent rules).answer = .ok .all := by
  rw [grantedModes_of_forall h.2, if_neg h.1]

/-- Stores that agree on the members of groups grant the same modes. -/
theorem grantedModes_congr {s' : Store}
    (h : ∀ group, (s.isMember group agent).answer = (s'.isMember group agent).answer)
    (rules : List Rule) :
    (s.grantedModes anonymous agent rules).answer =
      (s'.grantedModes anonymous agent rules).answer :=
  grantedModes_eq_of_groups fun _ _ group _ => h group

end Store

/-! ## Writing the rules -/

namespace Memory

variable {m : Memory} {root id : Identifier}

/-- A resource whose graph is written has this graph and keeps its content. -/
theorem find?_writeAcl_self (m : Memory) (id : Identifier) (acl : Graph) :
    (m.writeAcl id acl).find? id =
      some ⟨id, ((m.find? id).getD (.new id)).content, some acl⟩ := by
  unfold writeAcl
  exact find?_put_self m ⟨id, ((m.find? id).getD (.new id)).content, some acl⟩

/-- Writing the graph of a resource leaves every other resource as it is. -/
theorem find?_writeAcl_of_ne (m : Memory) {id other : Identifier} (acl : Graph) (h : other ≠ id) :
    (m.writeAcl id acl).find? other = m.find? other := by
  unfold writeAcl
  exact find?_put_of_ne m h

/-- The resource is missing or has no access-control graph. -/
def Unruled (m : Memory) (id : Identifier) : Prop :=
  ∀ r, m.find? id = some r → r.acl = none

/-- A resource is found to have no graph exactly if it is missing or has none. -/
theorem any_hasAcl_eq_false_iff : (m.find? id).any (·.hasAcl) = false ↔ m.Unruled id := by
  unfold Unruled Resource.hasAcl
  cases m.find? id <;> simp

instance : Decidable (m.Unruled id) :=
  decidable_of_iff _ any_hasAcl_eq_false_iff

/-- A resource whose graph is written has one. -/
theorem not_unruled_writeAcl (m : Memory) (id : Identifier) (acl : Graph) :
    ¬(m.writeAcl id acl).Unruled id := by
  intro h
  have hacl := h _ (find?_writeAcl_self m id acl)
  simp at hacl

/-- The memory in which the root has the rules that it gets at the start. -/
def writeRootRules (m : Memory) (root : Identifier) : Memory :=
  m.writeAcl root (Service.rootRules root)

/-- Giving a resource a graph makes no agent a member of a group and takes no membership away. -/
theorem isMember_writeRootRules (m : Memory) (root : Identifier) (agent group : String) :
    ((m.writeRootRules root).toStore.isMember group agent).answer =
      (m.toStore.isMember group agent).answer := by
  rw [Store.answer_isMember, Store.answer_isMember]
  simp only [toStore, writeRootRules]
  by_cases h : Identifier.groupDocument group = root
  · rw [h, find?_writeAcl_self]
    rcases m.find? root with _ | r
    · rfl
    · rfl
  · rw [find?_writeAcl_of_ne m _ h]

/-- The rules for a root do not change what resolution sees of any other resource. -/
theorem seenForRules_writeRootRules_of_ne (m : Memory) (h : id ≠ root) :
    (m.writeRootRules root).toStore.seenForRules id = m.toStore.seenForRules id := by
  simp only [Store.seenForRules, toStore, writeRootRules, find?_writeAcl_of_ne m _ h]

variable {k : Nat} {w : Identifier}

/-- The answer of resolution is made of what the walk ends with, since no walk along the path is
given up before its end. -/
theorem answer_resolve_of_endsAt {found : Option (Identifier × List Rule)}
    (hw : m.toStore.Reaches id k w) (hends : m.toStore.EndsAt id k w (.ok found))
    (anonymous agent : String) :
    (m.toStore.resolve anonymous id agent).answer =
      match found with
      | none => .ok .denied
      | some (acl, rules) =>
        (m.toStore.grantedModes anonymous agent rules).answer >>= fun modes =>
          .ok ⟨some acl, modes⟩ := by
  have hclimbs : k ≤ m.toStore.horizon id :=
    Nat.le_of_add_left_le (Identifier.length_add_le_of_path_start hw.reached)
  have hfound := (Store.answer_search_eq_iff hends.ne_unfinished).2 ⟨k, hclimbs, w, hw, hends⟩
  rw [Store.answer_resolve, hfound, ok_bind]
  cases found <;> rfl

/-- A walk that gets up to the root finds the rules there and grants everything. -/
theorem resolve_writeRootRules_of_reaches (h : m.toStore.Reaches id k root)
    (anonymous agent : String) :
    ((m.writeRootRules root).toStore.resolve anonymous id agent).answer =
      .ok ⟨some root, .all⟩ := by
  have hwalk : (m.writeRootRules root).toStore.Reaches id k root := by
    -- Below the root nothing is written, and no walk meets the root twice.
    apply h.withRead
    intro j hj u hu
    apply seenForRules_writeRootRules_of_ne
    rintro rfl
    exact h.unrepeated j k hj (Nat.le_refl k) (hu.reached.trans h.reached.symm)
  have hgrant := Rule.grantAll_rootRules root (decide (k = 0))
  have hgoverned : ∃ subject, (Service.rootRules root).Governs root k subject :=
    Rule.applicable_extract_ne_nil_iff.1 hgrant.1
  have hread : (m.writeRootRules root).toStore.read root =
      .ok (some ⟨root, ((m.find? root).getD (.new root)).content, some (Service.rootRules root)⟩) :=
    congrArg Except.ok (find?_writeAcl_self m root _)
  have hends := Store.EndsAt.governed ⟨hwalk.reached, hread, rfl⟩ hgoverned
  rw [answer_resolve_of_endsAt hwalk hends anonymous agent]
  simp only [Store.grantedModes_of_grantAll hgrant, ok_bind]

/-- A walk that does not get up to the root notices nothing of the writing. -/
theorem resolve_writeRootRules_of_not_reaches (h : ¬∃ k, m.toStore.Reaches id k root)
    (anonymous agent : String) :
    ((m.writeRootRules root).toStore.resolve anonymous id agent).answer =
      (m.toStore.resolve anonymous id agent).answer := by
  have hseen : ∀ k w, m.toStore.Reaches id k w →
      (m.writeRootRules root).toStore.seenForRules w = m.toStore.seenForRules w := by
    intro k w hw
    apply seenForRules_writeRootRules_of_ne
    rintro rfl
    exact h ⟨k, hw⟩
  have hhorizon : (m.writeRootRules root).toStore.horizon id = m.toStore.horizon id := rfl
  have hsearch : ((m.writeRootRules root).toStore.search true [] id (m.toStore.horizon id)).answer =
      (m.toStore.search true [] id (m.toStore.horizon id)).answer :=
    Store.answer_search_withRead hseen (m.toStore.horizon id)
  have hmodes := fun rules => @Store.grantedModes_congr _ anonymous agent _
    (isMember_writeRootRules m root agent) rules
  rw [Store.answer_resolve, Store.answer_resolve, hhorizon, hsearch]
  simp only [hmodes]

/-- After the rules were written resolution answers what it answered before, or it gets up to the
root and grants everything. -/
theorem resolve_writeRootRules (m : Memory) (root id : Identifier) (anonymous agent : String) :
    ((m.writeRootRules root).toStore.resolve anonymous id agent).answer =
        (m.toStore.resolve anonymous id agent).answer ∨
      ((m.writeRootRules root).toStore.resolve anonymous id agent).answer =
        .ok ⟨some root, .all⟩ := by
  by_cases h : ∃ k, m.toStore.Reaches id k root
  · obtain ⟨k, hk⟩ := h
    exact .inr (resolve_writeRootRules_of_reaches hk anonymous agent)
  · exact .inl (resolve_writeRootRules_of_not_reaches h anonymous agent)

end Memory

end WebAccess
