import WebAccess.Rule

/-!
# What an access-control graph states

A graph is read in two ways. The library splits it into rules and filters them; a reader looks at
single statements: a subject has an IRI under a predicate (`Rdf.Graph.States`), and a subject
governs a request if it says so itself (`Rdf.Graph.Governs`). The two readings agree. Every field of
a rule holds exactly what its subject states, and the rules that the library finds applicable are
those of the governing subjects (`Rule.mem_applicable_extract`).
-/

set_option autoImplicit false

namespace WebAccess

namespace Rdf.Graph

/-- The graph states that the subject has the IRI `o` under the term `p`. -/
def States (g : Graph) (s : Term) (p : Vocab) (o : String) : Prop :=
  (⟨s, p.iri, .iri o⟩ : Triple) ∈ g.triples

/-- The subject governs a request, in the graph of the resource that calls itself `r` and stands
`climbs` containers above the requested one. For the requested resource itself the subject has to
cover it. Further up the subject has to be inherited from it, or, where no subject is, to cover
it. -/
def Governs (g : Graph) (r : Identifier) (climbs : Nat) (s : Term) : Prop :=
  (climbs = 0 ∧ g.States s .accessTo r) ∨
    (0 < climbs ∧ g.States s .default r) ∨
    (0 < climbs ∧ (∀ u, ¬g.States u .default r) ∧ g.States s .accessTo r)

/-- The triples about a subject are those of the graph that have it as their subject. -/
theorem mem_about {g : Graph} {s : Term} {t : Triple} :
    t ∈ g.about s ↔ t ∈ g.triples ∧ t.subject = s := by
  simp [about]

/-- The subjects of a graph are those of its triples. -/
theorem mem_subjects {g : Graph} {s : Term} :
    s ∈ g.subjects ↔ ∃ t ∈ g.triples, t.subject = s := by
  rw [subjects, mem_firstSeen, List.mem_map]

/-- A subject of which a graph states something is one of its subjects. -/
theorem States.mem_subjects {g : Graph} {s : Term} {p : Vocab} {o : String}
    (h : g.States s p o) : s ∈ g.subjects :=
  Graph.mem_subjects.2 ⟨_, h, rfl⟩

end Rdf.Graph

namespace Rule

open Rdf (Graph Term)

/-- The rule that a graph states about one subject. -/
def about (g : Graph) (s : Term) : Rule := ofTriples s (g.about s)

variable {g : Graph} {s : Term}

/-- The rules of a graph are those about its subjects. -/
theorem mem_extract {rule : Rule} : rule ∈ extract g ↔ ∃ s ∈ g.subjects, about g s = rule := by
  simp [extract, Graph.bySubject, about]

/-- The objects collected for a subject under a predicate are those that the graph states. -/
theorem mem_objectIris_about {p : Vocab} {o : String} :
    o ∈ objectIris p (g.about s) ↔ g.States s p o := by
  rw [mem_objectIris]
  constructor
  · rintro ⟨⟨subject, predicate, object⟩, ht, hp, ho⟩
    obtain ⟨hg, hs⟩ := Graph.mem_about.1 ht
    dsimp only at hp ho hs
    subst hs hp ho
    exact hg
  · intro h
    exact ⟨_, Graph.mem_about.2 ⟨h, rfl⟩, rfl, rfl⟩

/-- The rule about a subject applies to what the subject gives access to. -/
theorem appliesTo_about {id : Identifier} :
    (about g s).appliesTo id = true ↔ g.States s .accessTo id := by
  rw [appliesTo, decide_eq_true_iff]
  exact NameSet.mem_ofList.trans mem_objectIris_about

/-- The rule about a subject is a default for what the subject is a default for. -/
theorem isDefaultFor_about {id : Identifier} :
    (about g s).isDefaultFor id = true ↔ g.States s .default id := by
  rw [isDefaultFor, decide_eq_true_iff]
  exact NameSet.mem_ofList.trans mem_objectIris_about

/-- The rule about a subject admits the classes of agents that are stated of the subject. -/
theorem hasClass_about {c : Vocab} :
    (about g s).hasClass c = true ↔ g.States s .agentClass c.iri := by
  rw [hasClass, decide_eq_true_iff]
  exact NameSet.mem_ofList.trans mem_objectIris_about

/-- The rule about a subject names the agents that are stated of the subject. -/
theorem mem_agents_about {agent : String} :
    agent ∈ (about g s).agents ↔ g.States s .agent agent := by
  exact NameSet.mem_ofList.trans mem_objectIris_about

/-- The rule about a subject names the groups that are stated of the subject. -/
theorem mem_agentGroups_about {group : String} :
    group ∈ (about g s).agentGroups ↔ g.States s .agentGroup group := by
  exact NameSet.mem_ofList.trans mem_objectIris_about

/-- The rule about a subject grants the modes that are stated of the subject. -/
theorem mem_modes_about {m : Mode} : m ∈ (about g s).modes ↔ g.States s .mode m.iri := by
  simp only [about, ofTriples, ModeSet.mem_ofList, List.mem_filterMap, mem_objectIris_about,
    Mode.ofIri?_eq_some_iff]
  constructor
  · rintro ⟨o, ho, rfl⟩
    exact ho
  · intro h
    exact ⟨_, h, rfl⟩

/-- The inherited rules of a graph are those of the subjects that name `r` as a default. -/
theorem mem_inherited {r : Identifier} {rule : Rule} :
    rule ∈ (extract g).filter (·.isDefaultFor r) ↔
      ∃ s, g.States s .default r ∧ about g s = rule := by
  rw [List.mem_filter, mem_extract]
  constructor
  · rintro ⟨⟨s, -, rfl⟩, hd⟩
    exact ⟨s, isDefaultFor_about.1 hd, rfl⟩
  · rintro ⟨s, hd, rfl⟩
    exact ⟨⟨s, hd.mem_subjects, rfl⟩, isDefaultFor_about.2 hd⟩

/-- The covering rules of a graph are those of the subjects that name `r` directly. -/
theorem mem_covering {r : Identifier} {rule : Rule} :
    rule ∈ (extract g).filter (·.appliesTo r) ↔ ∃ s, g.States s .accessTo r ∧ about g s = rule := by
  rw [List.mem_filter, mem_extract]
  constructor
  · rintro ⟨⟨s, -, rfl⟩, ha⟩
    exact ⟨s, appliesTo_about.1 ha, rfl⟩
  · rintro ⟨s, ha, rfl⟩
    exact ⟨⟨s, ha.mem_subjects, rfl⟩, appliesTo_about.2 ha⟩

/-- No rule is inherited exactly if no subject names `r` as a default. -/
theorem isEmpty_inherited_iff {r : Identifier} :
    ((extract g).filter (·.isDefaultFor r)).isEmpty = true ↔ ∀ u, ¬g.States u .default r := by
  rw [List.isEmpty_iff, List.eq_nil_iff_forall_not_mem]
  constructor
  · intro h u hu
    exact h _ (mem_inherited.2 ⟨u, hu, rfl⟩)
  · intro h rule hrule
    obtain ⟨u, hu, -⟩ := mem_inherited.1 hrule
    exact h u hu

/-- The applicable rules of a graph are those of its governing subjects. -/
theorem mem_applicable_extract {r : Identifier} {climbs : Nat} {rule : Rule} :
    rule ∈ applicable (extract g) r (decide (climbs = 0)) ↔
      ∃ s, g.Governs r climbs s ∧ about g s = rule := by
  unfold applicable Graph.Governs
  by_cases hc : climbs = 0
  · simp only [hc, decide_true, Bool.true_or, if_true, mem_covering]
    simp
  · have hpos : 0 < climbs := Nat.pos_of_ne_zero hc
    by_cases he : ∀ u, ¬g.States u .default r
    · have hempty := isEmpty_inherited_iff.2 he
      simp only [hc, decide_false, Bool.false_or, hempty, if_true, mem_covering]
      simp [hpos, he]
    · have hempty := mt isEmpty_inherited_iff.1 he
      simp only [hc, decide_false, Bool.false_or, if_neg hempty, mem_inherited]
      simp [hpos, he]

/-- A graph has an applicable rule exactly if one of its subjects governs the request. -/
theorem applicable_extract_ne_nil_iff {r : Identifier} {climbs : Nat} :
    applicable (extract g) r (decide (climbs = 0)) ≠ [] ↔ ∃ s, g.Governs r climbs s := by
  constructor
  · intro h
    obtain ⟨rule, hrule⟩ := List.exists_mem_of_ne_nil _ h
    obtain ⟨s, hs, -⟩ := mem_applicable_extract.1 hrule
    exact ⟨s, hs⟩
  · rintro ⟨s, hs⟩
    exact List.ne_nil_of_mem (mem_applicable_extract.2 ⟨s, hs, rfl⟩)

end Rule

end WebAccess
