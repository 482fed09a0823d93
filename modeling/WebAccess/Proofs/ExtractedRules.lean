import WebAccess.Proofs.GraphBuilding
import WebAccess.Proofs.Statements

/-!
# The rules of a graph, in passes over its triples

A program reads the rules of a graph in two kinds of passes. One goes through the triples and puts
each of them into the group of its subject, which it opens behind the others for a subject that is
new. Then one goes through each group, looks the predicates up in the vocabulary and notes what each
triple says of the rule. After every triple of a pass, what has been built so far is what the
library makes of the triples so far (`Rdf.Graph.intoGroup_bySubject`, `Rule.take_ofTriples`), so the
passes end with the rules of the graph (`Rule.extractInPasses_eq`).

Main statement: the rules are those of the subjects in first-seen order, and each says exactly what
the graph states of its subject in the terms of a rule (`Rule.extraction_is_exact`).
-/

set_option autoImplicit false

namespace WebAccess

namespace Rdf.Graph

/-! ## Groups -/

/-- Puts a triple at the end of the group of its subject. A subject that has no group gets one
behind the others. -/
def intoGroup (t : Triple) : List (Term × List Triple) → List (Term × List Triple)
  | [] => [(t.subject, [t])]
  | (s, ts) :: groups =>
    if t.subject = s then (s, ts ++ [t]) :: groups else (s, ts) :: intoGroup t groups

/-- The triples grouped by subject, in one pass. -/
def groupsInOnePass (ts : List Triple) : List (Term × List Triple) :=
  ts.foldl (fun groups t => intoGroup t groups) []

variable {g : Graph} {ts : List Triple} {t : Triple}

/-- Where groups are listed by their distinct subjects, only the group of one subject grows. What is
taken for the group of a subject that is not listed has to be empty. -/
theorem intoGroup_map {subjects : List Term} {group : Term → List Triple}
    (hdistinct : subjects.Nodup) (hnew : t.subject ∉ subjects → group t.subject = []) :
    intoGroup t (subjects.map fun s => (s, group s)) =
      (if t.subject ∈ subjects then subjects else subjects ++ [t.subject]).map
        fun s => (s, group s ++ if t.subject = s then [t] else []) := by
  induction subjects with
  | nil => simp [intoGroup, hnew]
  | cons s subjects ih =>
    obtain ⟨hs, hdistinct⟩ := List.nodup_cons.1 hdistinct
    rw [List.map_cons, intoGroup]
    by_cases h : t.subject = s
    · -- The subject does not come again, so the groups behind stay as they are.
      have hothers : ∀ u ∈ subjects,
          (u, group u) = (u, group u ++ if t.subject = u then [t] else []) := by
        intro u hu
        have hne : t.subject ≠ u := fun he => hs (h.symm.trans he ▸ hu)
        rw [if_neg hne, List.append_nil]
      rw [if_pos h, if_pos (h ▸ List.mem_cons_self), List.map_cons, if_pos h,
        List.map_congr_left hothers]
    · have hrest := ih hdistinct fun hu => hnew (by simp [h, hu])
      rw [if_neg h, hrest]
      by_cases hu : t.subject ∈ subjects
      · rw [if_pos hu, if_pos (List.mem_cons_of_mem s hu), List.map_cons, if_neg h, List.append_nil]
      · rw [if_neg hu, if_neg (by simp [h, hu]), List.cons_append, List.map_cons, if_neg h,
          List.append_nil]

/-- A triple that is put into the groups of the triples before it yields their groups with it. -/
theorem intoGroup_bySubject (ts : List Triple) (t : Triple) :
    intoGroup t (mk ts).bySubject = (mk (ts ++ [t])).bySubject := by
  have hsubjects : (mk (ts ++ [t])).subjects =
      if t.subject ∈ (mk ts).subjects then (mk ts).subjects
      else (mk ts).subjects ++ [t.subject] := by
    simp only [subjects_eq, List.map_append, List.map_singleton, eraseDups_concat,
      List.mem_eraseDups]
  have hnew : t.subject ∉ (mk ts).subjects → (mk ts).about t.subject = [] := by
    intro h
    apply List.filter_eq_nil_iff.2
    intro u hu
    have hne : u.subject ≠ t.subject := fun he => h (mem_subjects.2 ⟨u, hu, he⟩)
    simpa using hne
  have hdistinct : (mk ts).subjects.Nodup := nodup_firstSeen _
  rw [bySubject, intoGroup_map hdistinct hnew, ← hsubjects, bySubject]
  congr 1
  funext s
  simp only [about, List.filter_append, List.filter_singleton, Bool.cond_decide]

/-- One pass over the triples yields the groups of the graph that they make up. -/
theorem groupsInOnePass_eq (ts : List Triple) : groupsInOnePass ts = (mk ts).bySubject := by
  induction ts using List.reverseRecOn with
  | nil => rfl
  | append_singleton ts t ih =>
    rw [groupsInOnePass, List.foldl_append, List.foldl_cons, List.foldl_nil, ← groupsInOnePass, ih,
      intoGroup_bySubject]

/-- The groups of a graph are those of its subjects, each with all triples about the subject. -/
theorem mem_bySubject {group : Term × List Triple} :
    group ∈ g.bySubject ↔ group.1 ∈ g.subjects ∧ group.2 = g.about group.1 := by
  obtain ⟨s, ts⟩ := group
  simp only [bySubject, List.mem_map, Prod.mk.injEq]
  constructor
  · rintro ⟨u, hu, rfl, rfl⟩
    exact ⟨hu, rfl⟩
  · rintro ⟨hs, rfl⟩
    exact ⟨s, hs, rfl, rfl⟩

/-- A triple stands in the group of its subject and in no other. -/
theorem existsUnique_group (h : t ∈ g.triples) :
    ∃! group, group ∈ g.bySubject ∧ t ∈ group.2 := by
  refine ⟨(t.subject, g.about t.subject), ⟨?_, mem_about.2 ⟨h, rfl⟩⟩, ?_⟩
  · exact mem_bySubject.2 ⟨mem_subjects.2 ⟨t, h, rfl⟩, rfl⟩
  · rintro ⟨s, us⟩ ⟨hgroup, ht⟩
    obtain ⟨-, hus⟩ := mem_bySubject.1 hgroup
    dsimp only at hus ht
    subst hus
    obtain ⟨-, rfl⟩ := mem_about.1 ht
    rfl

end Rdf.Graph

namespace Rule

open Rdf (Graph Term Triple)

/-! ## One group -/

/-- The rule of a subject of which nothing has been said. -/
def bare (subject : Term) : Rule := ⟨some subject, ∅, ∅, ∅, ∅, ∅, ∅⟩

/-- The rule with what one triple says of it. -/
def take (r : Rule) (t : Triple) : Rule :=
  match t.object.iri?, Vocab.ofIri? t.predicate with
  | some o, some .agent => { r with agents := r.agents.insert o }
  | some o, some .agentGroup => { r with agentGroups := r.agentGroups.insert o }
  | some o, some .agentClass => { r with agentClasses := r.agentClasses.insert o }
  | some o, some .accessTo => { r with accessTo := r.accessTo.insert o }
  | some o, some .default => { r with defaultScope := r.defaultScope.insert o }
  | some o, some .mode =>
    match Mode.ofIri? o with
    | some m => { r with modes := r.modes ∪ ModeSet.ofList [m] }
    | none => r
  | _, _ => r

/-- The rules of a graph: one pass over its triples, and one over each group. -/
def extractInPasses (ts : List Triple) : List Rule :=
  (Graph.groupsInOnePass ts).map fun group => group.2.foldl take (bare group.1)

variable {g : Graph} {s : Term} {ts : List Triple} {t : Triple}

/-- A name at the end of a list is inserted into the set of the names before it. -/
theorem names_concat (l : List String) (x : String) :
    NameSet.ofList (l ++ [x]) = (NameSet.ofList l).insert x := by
  apply NameSet.ext
  intro y
  simp [or_comm]

/-- A mode at the end of a list is added to the set of the modes before it. -/
theorem modes_concat (l : List Mode) (m : Mode) :
    ModeSet.ofList (l ++ [m]) = ModeSet.ofList l ∪ ModeSet.ofList [m] := by
  apply ModeSet.ext
  intro n
  simp

/-- A triple at the end of a list adds its object, if it is an IRI, under its own predicate. -/
theorem objectIris_concat (p : Vocab) (ts : List Triple) (t : Triple) :
    objectIris p (ts ++ [t]) =
      objectIris p ts ++ (if t.predicate = p.iri then t.object.iri? else none).toList := by
  rw [objectIris, List.filterMap_append, ← objectIris]
  cases h : if t.predicate = p.iri then t.object.iri? else none <;> simp [h]

/-- A triple whose object is no IRI, or whose predicate is no term, adds nothing anywhere. -/
theorem objectIris_concat_of_none (h : t.object.iri? = none ∨ Vocab.ofIri? t.predicate = none)
    (p : Vocab) (ts : List Triple) : objectIris p (ts ++ [t]) = objectIris p ts := by
  have hnone : (if t.predicate = p.iri then t.object.iri? else none) = none := by
    rcases h with hobject | hpredicate
    · rw [hobject, ite_self]
    · apply if_neg
      intro hp
      rw [hp, Vocab.ofIri?_iri] at hpredicate
      cases hpredicate
  rw [objectIris_concat, hnone, Option.toList_none, List.append_nil]

/-- Any other triple adds its object under its predicate. -/
theorem objectIris_concat_of_some {o : String} {q : Vocab} (hobject : t.object.iri? = some o)
    (hpredicate : Vocab.ofIri? t.predicate = some q) (p : Vocab) (ts : List Triple) :
    objectIris p (ts ++ [t]) = if q = p then objectIris p ts ++ [o] else objectIris p ts := by
  rw [Vocab.ofIri?_eq_some_iff] at hpredicate
  rw [objectIris_concat, hobject, ← hpredicate]
  by_cases h : q = p
  · rw [if_pos h, if_pos (congrArg Vocab.iri h), Option.toList_some]
  · rw [if_neg h, if_neg (mt Vocab.iri_injective h), Option.toList_none, List.append_nil]

/-- What a further triple says of the rule of the triples before it is what they say with it. -/
theorem take_ofTriples (s : Term) (ts : List Triple) (t : Triple) :
    (ofTriples s ts).take t = ofTriples s (ts ++ [t]) := by
  rcases hobject : t.object.iri? with _ | o
  · simp only [take, ofTriples, hobject, objectIris_concat_of_none (.inl hobject)]
  rcases hpredicate : Vocab.ofIri? t.predicate with _ | q
  · simp only [take, ofTriples, hobject, hpredicate, objectIris_concat_of_none (.inr hpredicate)]
  have hadded := fun p => objectIris_concat_of_some hobject hpredicate p ts
  -- The object goes into the one field of its term, if there is such a field; a mode is looked up
  -- once more before it does.
  cases q with
  | mode =>
    rcases hmode : Mode.ofIri? o with _ | m
    · simp [take, ofTriples, hobject, hpredicate, hadded, hmode]
    · simp [take, ofTriples, hobject, hpredicate, hadded, hmode, modes_concat]
  | _ => simp [take, ofTriples, hobject, hpredicate, hadded, names_concat]

/-- Taking the triples of a group one by one makes the rule that they state together. -/
theorem foldl_take (s : Term) (ts : List Triple) : ts.foldl take (bare s) = ofTriples s ts := by
  induction ts using List.reverseRecOn with
  | nil => rfl
  | append_singleton ts t ih =>
    rw [List.foldl_append, List.foldl_cons, List.foldl_nil, ih, take_ofTriples]

/-- The passes over a graph and over its groups yield the rules that are extracted from it. -/
theorem extractInPasses_eq (g : Graph) : extractInPasses g.triples = extract g := by
  simp only [extractInPasses, Graph.groupsInOnePass_eq, foldl_take]
  rfl

/-! ## What a rule says -/

/-- The rule says what the graph states of the subject, and nothing else. -/
structure ReadFrom (g : Graph) (s : Term) (rule : Rule) : Prop where
  subject : rule.subject = some s
  agents : ∀ o, o ∈ rule.agents ↔ g.States s .agent o
  agentGroups : ∀ o, o ∈ rule.agentGroups ↔ g.States s .agentGroup o
  agentClasses : ∀ o, o ∈ rule.agentClasses ↔ g.States s .agentClass o
  accessTo : ∀ o, o ∈ rule.accessTo ↔ g.States s .accessTo o
  defaultScope : ∀ o, o ∈ rule.defaultScope ↔ g.States s .default o
  modes : ∀ m, m ∈ rule.modes ↔ g.States s .mode m.iri

/-- The triple says something of a rule: it has an IRI under one of the terms of a rule, and where
this term is the one for modes, the IRI of a mode. -/
def Speaks (t : Triple) : Prop :=
  (∃ p ∈ [Vocab.agent, .agentGroup, .agentClass, .accessTo, .default], t.predicate = p.iri ∧
      ∃ o, t.object = .iri o) ∨
    t.predicate = Vocab.mode.iri ∧ ∃ m : Mode, t.object = .iri m.iri

/-- The rule about a subject says what the graph states of the subject, and nothing else. -/
theorem readFrom_about (g : Graph) (s : Term) : ReadFrom g s (about g s) where
  subject := rfl
  agents _ := mem_agents_about
  agentGroups _ := mem_agentGroups_about
  agentClasses _ := NameSet.mem_ofList.trans mem_objectIris_about
  accessTo _ := NameSet.mem_ofList.trans mem_objectIris_about
  defaultScope _ := NameSet.mem_ofList.trans mem_objectIris_about
  modes _ := mem_modes_about

/-- Graphs that agree on the triples about a subject that say something of a rule yield one rule. -/
theorem ReadFrom.eq_of_agree {g' : Graph} {rule rule' : Rule} (h : ReadFrom g s rule)
    (h' : ReadFrom g' s rule')
    (hagree : ∀ t, t.subject = s → Speaks t → (t ∈ g.triples ↔ t ∈ g'.triples)) :
    rule' = rule := by
  have hnames : ∀ p ∈ [Vocab.agent, .agentGroup, .agentClass, .accessTo, .default], ∀ o,
      g'.States s p o ↔ g.States s p o :=
    fun p hp o => (hagree ⟨s, p.iri, .iri o⟩ rfl (.inl ⟨p, hp, rfl, o, rfl⟩)).symm
  have hmodes : ∀ m : Mode, g'.States s .mode m.iri ↔ g.States s .mode m.iri :=
    fun m => (hagree ⟨s, Vocab.mode.iri, .iri m.iri⟩ rfl (.inr ⟨rfl, m, rfl⟩)).symm
  have hfield : ∀ p ∈ [Vocab.agent, .agentGroup, .agentClass, .accessTo, .default],
      ∀ names names' : NameSet, (∀ o, o ∈ names ↔ g.States s p o) →
        (∀ o, o ∈ names' ↔ g'.States s p o) → names' = names := by
    intro p hp names names' hnames₁ hnames₂
    apply NameSet.ext
    intro o
    rw [hnames₁, hnames₂, hnames p hp]
  obtain ⟨subject, agents, agentGroups, agentClasses, accessTo, defaultScope, modes⟩ := rule
  obtain ⟨subject', agents', agentGroups', agentClasses', accessTo', defaultScope', modes'⟩ := rule'
  congr 1
  · exact h'.subject.trans h.subject.symm
  · exact hfield .agent (by decide) _ _ h.agents h'.agents
  · exact hfield .agentGroup (by decide) _ _ h.agentGroups h'.agentGroups
  · exact hfield .agentClass (by decide) _ _ h.agentClasses h'.agentClasses
  · exact hfield .accessTo (by decide) _ _ h.accessTo h'.accessTo
  · exact hfield .default (by decide) _ _ h.defaultScope h'.defaultScope
  · apply ModeSet.ext
    intro m
    exact (h'.modes m).trans ((hmodes m).trans (h.modes m).symm)

/-- A rule is extracted from a graph exactly if it says what the graph states of one of its
subjects. -/
theorem mem_extract_iff {rule : Rule} :
    rule ∈ extract g ↔ ∃ s ∈ g.subjects, ReadFrom g s rule := by
  rw [mem_extract]
  constructor
  · rintro ⟨s, hs, rfl⟩
    exact ⟨s, hs, readFrom_about g s⟩
  · rintro ⟨s, hs, h⟩
    exact ⟨s, hs, h.eq_of_agree (readFrom_about g s) fun _ _ _ => Iff.rfl⟩

/-- The rules of a graph come in the order in which their subjects first occur. -/
theorem subject_extract (g : Graph) :
    (extract g).map (·.subject) = (g.triples.map (·.subject)).eraseDups.map some := by
  rw [extract, Graph.bySubject, Graph.subjects_eq, List.map_map, List.map_map]
  rfl

/-- Repetitions of a triple make no difference to the rules. -/
theorem extract_ofList (g : Graph) : extract (Graph.ofList g.triples) = extract g := by
  have hsubjects : (Graph.ofList g.triples).subjects = g.subjects := by
    rw [Graph.subjects_eq, Graph.triples_ofList, Rdf.eraseDups_map_eraseDups, Graph.subjects_eq]
  have habout : ∀ s, about (Graph.ofList g.triples) s = about g s := by
    intro s
    apply (readFrom_about g s).eq_of_agree (readFrom_about _ s)
    intro t _ _
    rw [Graph.triples_ofList, List.mem_eraseDups]
  rw [extract, Graph.bySubject, hsubjects, extract, Graph.bySubject, List.map_map, List.map_map]
  exact List.map_congr_left fun s _ => habout s

/-- For any triples, with repetitions or without: the passes over them yield the rules of the graph,
and these stay the same when repetitions are dropped first. There is one rule for each subject, in
the order in which the subjects occur first, and it says exactly what the graph states of its
subject. The groups are those of the same subjects in the same order; each consists of the triples
about its subject in the order of the graph, and every triple stands in exactly one of them.
Whatever another graph holds, a subject has the same rule there if the graphs agree on the triples
about it that say something of a rule. -/
theorem extraction_is_exact (g : Graph) :
    extractInPasses g.triples = extract g ∧ extract (Graph.ofList g.triples) = extract g ∧
      (extract g).map (·.subject) = (g.triples.map (·.subject)).eraseDups.map some ∧
      (∀ rule ∈ extract g, ∃ s, ReadFrom g s rule) ∧
      g.bySubject.map (·.1) = (g.triples.map (·.subject)).eraseDups ∧
      (∀ group ∈ g.bySubject, group.2 = g.triples.filter fun t => t.subject = group.1) ∧
      (∀ t ∈ g.triples, ∃! group, group ∈ g.bySubject ∧ t ∈ group.2) ∧
      ∀ g', ∀ rule ∈ extract g, ∀ rule' ∈ extract g', ∀ s, rule.subject = some s →
        rule'.subject = some s →
        (∀ t, t.subject = s → Speaks t → (t ∈ g.triples ↔ t ∈ g'.triples)) → rule' = rule := by
  refine ⟨extractInPasses_eq g, extract_ofList g, subject_extract g, ?_, ?_, ?_, ?_, ?_⟩
  · intro rule hrule
    obtain ⟨s, -, hs⟩ := mem_extract_iff.1 hrule
    exact ⟨s, hs⟩
  · rw [Graph.bySubject, List.map_map, Graph.subjects_eq]
    exact List.map_id _
  · intro group hgroup
    exact (Graph.mem_bySubject.1 hgroup).2
  · intro t ht
    exact Graph.existsUnique_group ht
  · intro g' rule hrule rule' hrule' s hs hs' hagree
    obtain ⟨u, -, hu⟩ := mem_extract_iff.1 hrule
    obtain ⟨u', -, hu'⟩ := mem_extract_iff.1 hrule'
    obtain rfl : u = s := Option.some.inj (hu.subject.symm.trans hs)
    obtain rfl : u' = u := Option.some.inj (hu'.subject.symm.trans hs')
    exact hu.eq_of_agree hu' hagree

/-- Statements about two subjects in turns. Of the first it is stated twice that it grants reading,
and once that it admits everyone; the others about it have a literal, a mode that is none, or a
predicate that is none. -/
def mixedGraph : Graph :=
  ⟨[⟨.blank "open", Vocab.mode.iri, .iri Mode.read.iri⟩,
    ⟨.blank "owner", Vocab.mode.iri, .iri Mode.control.iri⟩,
    ⟨.blank "open", Vocab.agent.iri, .literal "alice"⟩,
    ⟨.blank "open", Vocab.mode.iri, .iri "urn:fly"⟩,
    ⟨.blank "open", "urn:unknown", .iri "alice"⟩,
    ⟨.blank "open", Vocab.agentClass.iri, .iri Vocab.foafAgent.iri⟩,
    ⟨.blank "open", Vocab.mode.iri, .iri Mode.read.iri⟩]⟩

/-- The statements about the first subject that say something of a rule. -/
def openGraph : Graph :=
  ⟨[⟨.blank "open", Vocab.agentClass.iri, .iri Vocab.foafAgent.iri⟩,
    ⟨.blank "open", Vocab.mode.iri, .iri Mode.read.iri⟩]⟩

/-- Its rule is the same in both graphs. -/
theorem open_rule_of_mixed_graph :
    let rule := about mixedGraph (.blank "open")
    let group := (Term.blank "open", mixedGraph.about (.blank "open"))
    let t : Triple := ⟨.blank "owner", Vocab.mode.iri, .iri Mode.control.iri⟩
    (rule ∈ extract mixedGraph ∧ ∃ s, ReadFrom mixedGraph s rule) ∧
      (group ∈ mixedGraph.bySubject ∧ group.2.length = 6 ∧
        group.2 = mixedGraph.triples.filter fun t => t.subject = group.1) ∧
      (t ∈ mixedGraph.triples ∧ ∃! group, group ∈ mixedGraph.bySubject ∧ t ∈ group.2) ∧
      about openGraph (.blank "open") ∈ extract openGraph ∧
      about openGraph (.blank "open") = rule := by
  intro rule group t
  have hrule : rule ∈ extract mixedGraph := by decide +kernel
  have hgroup : group ∈ mixedGraph.bySubject := by decide +kernel
  have ht : t ∈ mixedGraph.triples := by decide +kernel
  have hopen : about openGraph (.blank "open") ∈ extract openGraph := by decide +kernel
  obtain ⟨-, -, -, hread, -, hgroups, htriples, hother⟩ := extraction_is_exact mixedGraph
  refine ⟨⟨hrule, hread _ hrule⟩, ⟨hgroup, by decide +kernel, hgroups _ hgroup⟩,
    ⟨ht, htriples t ht⟩, hopen, hother openGraph _ hrule _ hopen (.blank "open") rfl rfl ?_⟩
  have hliteral : ¬Speaks ⟨.blank "open", Vocab.agent.iri, .literal "alice"⟩ := by
    rintro (⟨-, -, -, o, ho⟩ | ⟨-, m, hm⟩)
    · cases ho
    · cases hm
  have hfly : ¬Speaks ⟨.blank "open", Vocab.mode.iri, .iri "urn:fly"⟩ := by
    rintro (⟨p, hp, hsame, -⟩ | ⟨-, m, hm⟩)
    · obtain rfl : .mode = p := Vocab.iri_injective hsame
      exact absurd hp (by decide)
    · obtain hm := Term.iri.inj hm
      cases m <;> exact absurd hm (by decide)
  have hunknown : ¬Speaks ⟨.blank "open", "urn:unknown", .iri "alice"⟩ := by
    have hterm : ∀ p : Vocab, "urn:unknown" ≠ p.iri := by
      intro p
      cases p <;> decide
    rintro (⟨p, -, hp, -⟩ | ⟨hp, -⟩)
    · exact hterm p hp
    · exact hterm .mode hp
  intro t hsubject hspeaks
  constructor
  · intro hmem
    simp only [mixedGraph, List.mem_cons, List.not_mem_nil, or_false] at hmem
    rcases hmem with rfl | rfl | rfl | rfl | rfl | rfl | rfl
    · decide +kernel
    · exact absurd hsubject (by decide)
    · exact absurd hspeaks hliteral
    · exact absurd hspeaks hfly
    · exact absurd hspeaks hunknown
    · decide +kernel
    · decide +kernel
  · intro hmem
    simp only [openGraph, List.mem_cons, List.not_mem_nil, or_false] at hmem
    rcases hmem with rfl | rfl <;> decide +kernel

end Rule

end WebAccess
