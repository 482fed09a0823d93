import Mathlib.Logic.Equiv.Basic
import WebAccess.Proofs.Failures

/-!
# Graphs as sets of statements

An access-control graph may list its statements in another order and call its subjects by other
names (`Rdf.Graph.Restates`), and the content of a resource may be listed in another order; stores
that differ in nothing else are rearranged (`Store.Rearranged`). The library reads a graph in its
order: rules stand in first-seen order of their subjects, and the first rule that cannot be decided
stops it. So a rearranged store may report another fault. Whether there is one, how far the walk
goes and which modes are granted stays the same (`Store.resolution_of_rearranged`).

The rules of a restated graph are, but for the names of their subjects, the same rules in another
order (`Rule.sameRules_of_restates`). Of a list of rules, the modes that are granted and whether
they can be decided depend on nothing else (`Store.Rearranged.grantedModes`).
-/

set_option autoImplicit false

namespace WebAccess

open Rdf (Graph Term)

/-! ## Graphs -/

namespace Rdf.Graph

/-- The statements of `g'` are those of `g` in some order, with their subjects renamed. -/
structure Renames (rename : Term → Term) (g g' : Graph) : Prop where
  /-- Different subjects have different names. -/
  injective : Function.Injective rename
  /-- The statements are the same but for the names. -/
  perm : g'.triples.Perm (g.triples.map fun t => { t with subject := rename t.subject })

/-- The second graph has the statements of the first, in any order and under other names of their
subjects. -/
def Restates (g g' : Graph) : Prop := ∃ rename, Renames rename g g'

variable {rename : Term → Term} {g g' : Graph} {p : Vocab} {o r : String} {k : Nat} {u : Term}

/-- A renamed graph states something of a subject exactly if the graph states it of one that is
renamed to it. -/
theorem Renames.states_iff (h : Renames rename g g') :
    g'.States u p o ↔ ∃ s, rename s = u ∧ g.States s p o := by
  unfold States
  rw [h.perm.mem_iff, List.mem_map]
  constructor
  · rintro ⟨⟨s, q, x⟩, ht, heq⟩
    cases heq
    exact ⟨s, rfl, ht⟩
  · rintro ⟨s, rfl, hs⟩
    exact ⟨_, hs, rfl⟩

/-- A subject of which a renamed graph states something is the new name of one. -/
theorem Renames.exists_of_states (h : Renames rename g g') (hu : g'.States u p o) :
    ∃ s, rename s = u := by
  obtain ⟨s, hs, -⟩ := h.states_iff.1 hu
  exact ⟨s, hs⟩

/-- A renamed graph states of the new name what the graph states of the old one. -/
theorem Renames.states (h : Renames rename g g') (s : Term) :
    g'.States (rename s) p o ↔ g.States s p o := by
  rw [h.states_iff]
  constructor
  · rintro ⟨s', hsame, hs'⟩
    rwa [h.injective hsame] at hs'
  · intro hs
    exact ⟨s, rfl, hs⟩

/-- The new name of a subject governs exactly if the subject does. -/
theorem Renames.governs (h : Renames rename g g') (s : Term) :
    g'.Governs r k (rename s) ↔ g.Governs r k s := by
  have hnone : (∀ u, ¬g'.States u .default r) ↔ ∀ s, ¬g.States s .default r := by
    constructor
    · intro hnone s hs
      exact hnone (rename s) ((h.states s).2 hs)
    · intro hnone u hu
      obtain ⟨s, -, hs⟩ := h.states_iff.1 hu
      exact hnone s hs
  unfold Governs
  rw [h.states, h.states, hnone]

/-- A subject that governs in a renamed graph is the new name of one. -/
theorem Renames.exists_of_governs (h : Renames rename g g') (hu : g'.Governs r k u) :
    ∃ s, rename s = u := by
  rcases hu with ⟨-, hu⟩ | ⟨-, hu⟩ | ⟨-, -, hu⟩
  · exact h.exists_of_states hu
  · exact h.exists_of_states hu
  · exact h.exists_of_states hu

end Rdf.Graph

/-! ## Rules -/

namespace Rule

/-- Both rules admit the same agents and grant the same modes. -/
structure Alike (rule rule' : Rule) : Prop where
  agents : rule'.agents = rule.agents
  agentGroups : rule'.agentGroups = rule.agentGroups
  agentClasses : rule'.agentClasses = rule.agentClasses
  modes : rule'.modes = rule.modes

/-- Each rule of one list has one like it in the other. -/
def SameRules (rules rules' : List Rule) : Prop :=
  (∀ rule ∈ rules, ∃ rule' ∈ rules', rule.Alike rule') ∧
    ∀ rule' ∈ rules', ∃ rule ∈ rules, rule.Alike rule'

/-- Of two lists of the same rules, both are empty or neither is. -/
theorem SameRules.nil_iff {rules rules' : List Rule} (h : SameRules rules rules') :
    rules = [] ↔ rules' = [] := by
  constructor
  · rintro rfl
    apply List.eq_nil_iff_forall_not_mem.2
    intro rule' hrule'
    obtain ⟨rule, hrule, -⟩ := h.2 rule' hrule'
    exact List.not_mem_nil hrule
  · rintro rfl
    apply List.eq_nil_iff_forall_not_mem.2
    intro rule hrule
    obtain ⟨rule', hrule', -⟩ := h.1 rule hrule
    exact List.not_mem_nil hrule'

/-- The rules of a subject and of its new name admit the same agents and grant the same modes. -/
theorem alike_about {rename : Term → Term} {g g' : Graph} (h : Graph.Renames rename g g')
    (s : Term) : (about g s).Alike (about g' (rename s)) := by
  have hnames : ∀ {p : Vocab} {x : String},
      x ∈ NameSet.ofList (objectIris p (g'.about (rename s))) ↔
        x ∈ NameSet.ofList (objectIris p (g.about s)) := by
    intro p x
    rw [NameSet.mem_ofList, NameSet.mem_ofList, mem_objectIris_about, mem_objectIris_about,
      h.states]
  refine ⟨NameSet.ext fun x => hnames, NameSet.ext fun x => hnames, NameSet.ext fun x => hnames,
    ModeSet.ext fun m => ?_⟩
  rw [mem_modes_about, mem_modes_about, h.states]

/-- A graph that is restated has the same applicable rules. -/
theorem sameRules_of_restates {g g' : Graph} (h : g.Restates g') (r : Identifier) (top : Bool) :
    SameRules (applicable (extract g) r top) (applicable (extract g') r top) := by
  obtain ⟨rename, h⟩ := h
  obtain ⟨k, rfl⟩ : ∃ k : Nat, top = decide (k = 0) := by
    cases top with
    | true => exact ⟨0, rfl⟩
    | false => exact ⟨1, rfl⟩
  constructor
  · intro rule hrule
    obtain ⟨s, hs, rfl⟩ := mem_applicable_extract.1 hrule
    exact ⟨_, mem_applicable_extract.2 ⟨rename s, (h.governs s).2 hs, rfl⟩, alike_about h s⟩
  · intro rule' hrule'
    obtain ⟨u, hu, rfl⟩ := mem_applicable_extract.1 hrule'
    obtain ⟨s, rfl⟩ := h.exists_of_governs hu
    exact ⟨_, mem_applicable_extract.2 ⟨s, (h.governs s).1 hu, rfl⟩, alike_about h s⟩

end Rule

/-! ## Stores -/

/-- The second resource has the content of the first in some order, and its access-control graph is
restated, if there is one. -/
structure Resource.Rearranged (r r' : Resource) : Prop where
  identifier : r'.identifier = r.identifier
  content : r'.content.triples.Perm r.content.triples
  acl : Option.Rel Graph.Restates r.acl r'.acl

namespace Store

open Rule (SameRules)

/-- Two readings fail alike, find nothing, or find a resource and the same resource rearranged. -/
inductive ReadsRearranged :
    Except Fault (Option Resource) → Except Fault (Option Resource) → Prop
  | fails (fault : Fault) : ReadsRearranged (.error fault) (.error fault)
  | absent : ReadsRearranged (.ok none) (.ok none)
  | found {r r' : Resource} (h : r.Rearranged r') : ReadsRearranged (.ok (some r)) (.ok (some r'))

/-- The stores differ in the order of statements and in the names of the subjects of rules, and in
nothing else. -/
structure Rearranged (s s' : Store) : Prop where
  container : s'.container = s.container
  horizon : s'.horizon = s.horizon
  read : ∀ id, ReadsRearranged (s.read id) (s'.read id)

variable {s s' : Store} {anonymous agent : String} {rules rules' : List Rule}

/-! ### Members and admission -/

/-- Graphs with the same triples in another order contain the same. -/
theorem contains_of_perm {g g' : Graph} (h : g'.triples.Perm g.triples) (t : Rdf.Triple) :
    g'.contains t = g.contains t := by
  rw [Bool.eq_iff_iff, Graph.contains_iff, Graph.contains_iff, h.mem_iff]

/-- Whether a group lists an agent is answered alike over both stores. -/
theorem Rearranged.answer_isMember (h : s.Rearranged s') (group : String) :
    (s'.isMember group agent).answer = (s.isMember group agent).answer := by
  rw [Store.answer_isMember, Store.answer_isMember]
  have hread := h.read (Identifier.groupDocument group)
  generalize s.read (Identifier.groupDocument group) = x at hread ⊢
  generalize s'.read (Identifier.groupDocument group) = y at hread ⊢
  cases hread with
  | fails fault => rfl
  | absent => rfl
  | found hr => simp only [contains_of_perm hr.content]

/-- Whether rules that are alike admit an agent is answered alike over both stores. -/
theorem Rearranged.answer_admits (h : s.Rearranged s') {rule rule' : Rule}
    (hrules : rule.Alike rule') :
    (s'.admits anonymous rule' agent).answer = (s.admits anonymous rule agent).answer := by
  have hmember : (s'.anyMember agent rule.agentGroups.toList).answer =
      (s.anyMember agent rule.agentGroups.toList).answer :=
    anyMember_eq_of_groups fun group _ => h.answer_isMember group
  unfold admits Rule.hasClass
  rw [hrules.agentClasses, hrules.agents, hrules.agentGroups]
  split
  · rfl
  · exact hmember

/-! ### Granted modes -/

/-- A question about a group stops only with a fault. -/
theorem exists_fault_of_isMember {group : String} {stop : Stop}
    (h : (s.isMember group agent).answer = .error stop) : ∃ fault, stop = .failed fault := by
  obtain ⟨cause, -, rfl⟩ := isMember_eq_error_iff.1 h
  exact ⟨_, rfl⟩

/-- A question about a rule stops only with a fault. -/
theorem exists_fault_of_admits {rule : Rule} {stop : Stop}
    (h : (s.admits anonymous rule agent).answer = .error stop) : ∃ fault, stop = .failed fault := by
  unfold admits at h
  split at h
  · cases h
  · obtain ⟨-, group, -, -, hgroup, -⟩ := anyMember_eq_error_iff.1 h
    exact exists_fault_of_isMember hgroup

/-- The modes of some rules are decided exactly if each of them is, in whatever order they stand. -/
theorem exists_grantedModes_iff :
    (∃ modes, (s.grantedModes anonymous agent rules).answer = .ok modes) ↔
      ∀ rule ∈ rules, ∃ b, (s.admits anonymous rule agent).answer = .ok b := by
  constructor
  · rintro ⟨modes, hmodes⟩
    exact (grantedModes_eq_ok hmodes).1
  · intro hdecided
    cases hanswer : (s.grantedModes anonymous agent rules).answer with
    | ok modes => exact ⟨modes, rfl⟩
    | error stop =>
      obtain ⟨before, rule, after, rfl, herror, -⟩ := grantedModes_eq_error_iff.1 hanswer
      obtain ⟨b, hb⟩ := hdecided rule (by simp)
      rw [herror] at hb
      cases hb

/-- Collecting the modes of rules stops only with a fault. -/
theorem exists_fault_of_grantedModes {stop : Stop}
    (h : (s.grantedModes anonymous agent rules).answer = .error stop) :
    ∃ fault, stop = .failed fault := by
  obtain ⟨-, rule, -, -, hrule, -⟩ := grantedModes_eq_error_iff.1 h
  exact exists_fault_of_admits hrule

/-- The same rules grant the same modes, or fail both times. -/
theorem Rearranged.grantedModes (h : s.Rearranged s') (hrules : SameRules rules rules') :
    (∃ modes, (s.grantedModes anonymous agent rules).answer = .ok modes ∧
        (s'.grantedModes anonymous agent rules').answer = .ok modes) ∨
      ∃ fault fault', (s.grantedModes anonymous agent rules).answer = .error (.failed fault) ∧
        (s'.grantedModes anonymous agent rules').answer = .error (.failed fault') := by
  have hdecided : (∀ rule ∈ rules, ∃ b, (s.admits anonymous rule agent).answer = .ok b) ↔
      ∀ rule' ∈ rules', ∃ b, (s'.admits anonymous rule' agent).answer = .ok b := by
    constructor
    · intro hall rule' hrule'
      obtain ⟨rule, hrule, halike⟩ := hrules.2 rule' hrule'
      rw [h.answer_admits halike]
      exact hall rule hrule
    · intro hall rule hrule
      obtain ⟨rule', hrule', halike⟩ := hrules.1 rule hrule
      rw [← h.answer_admits halike]
      exact hall rule' hrule'
  rw [← exists_grantedModes_iff, ← exists_grantedModes_iff] at hdecided
  cases hanswer : (s.grantedModes anonymous agent rules).answer with
  | ok modes =>
    obtain ⟨modes', hmodes'⟩ := hdecided.1 ⟨modes, hanswer⟩
    have hmem := (grantedModes_eq_ok hanswer).2
    have hmem' := (grantedModes_eq_ok hmodes').2
    obtain rfl : modes' = modes := by
      apply ModeSet.ext
      intro m
      rw [hmem, hmem']
      constructor
      · rintro ⟨rule', hrule', hadmits, hm⟩
        obtain ⟨rule, hrule, halike⟩ := hrules.2 rule' hrule'
        rw [h.answer_admits halike] at hadmits
        rw [halike.modes] at hm
        exact ⟨rule, hrule, hadmits, hm⟩
      · rintro ⟨rule, hrule, hadmits, hm⟩
        obtain ⟨rule', hrule', halike⟩ := hrules.1 rule hrule
        rw [← h.answer_admits halike] at hadmits
        rw [← halike.modes] at hm
        exact ⟨rule', hrule', hadmits, hm⟩
    exact .inl ⟨modes', rfl, hmodes'⟩
  | error stop =>
    obtain ⟨fault, rfl⟩ := exists_fault_of_grantedModes hanswer
    cases hanswer' : (s'.grantedModes anonymous agent rules').answer with
    | ok modes' =>
      obtain ⟨modes, hmodes⟩ := hdecided.2 ⟨modes', hanswer'⟩
      rw [hanswer] at hmodes
      cases hmodes
    | error stop' =>
      obtain ⟨fault', rfl⟩ := exists_fault_of_grantedModes hanswer'
      exact .inr ⟨fault, fault', rfl, rfl⟩

/-! ### The walk -/

/-- At each place both stores fail to be read alike, or yield the same rules. -/
theorem Rearranged.rulesAt (h : s.Rearranged s') (top : Bool) (id : Identifier) :
    (∃ stop, (s.rulesAt top id).answer = .error stop ∧ (s'.rulesAt top id).answer = .error stop) ∨
      ∃ rules rules', SameRules rules rules' ∧ (s.rulesAt top id).answer = .ok rules ∧
        (s'.rulesAt top id).answer = .ok rules' := by
  have hnothing : SameRules [] [] := ⟨nofun, nofun⟩
  rw [answer_rulesAt, answer_rulesAt]
  have hread := h.read id
  generalize s.read id = x at hread ⊢
  generalize s'.read id = y at hread ⊢
  cases hread with
  | fails fault => exact .inl ⟨_, rfl, rfl⟩
  | absent => exact .inr ⟨[], [], hnothing, rfl, rfl⟩
  | @found r r' hr =>
    refine .inr ⟨governing r top, governing r' top, ?_, rfl, rfl⟩
    unfold governing
    rw [hr.identifier]
    have hacl := hr.acl
    generalize r.acl = x at hacl ⊢
    generalize r'.acl = y at hacl ⊢
    cases hacl with
    | none => exact hnothing
    | some hgraph => exact Rule.sameRules_of_restates hgraph r.identifier top

/-- From each place both stores lead up alike. -/
theorem Rearranged.ascent_eq (h : s.Rearranged s') (visited : List Identifier) (id : Identifier) :
    s'.ascent visited id = s.ascent visited id := by
  unfold ascent
  rw [h.container]

/-- Two searches stop alike, find nothing, or find the same rules at the same place. -/
inductive SearchesRearranged :
    Except Stop (Option (Identifier × List Rule)) →
      Except Stop (Option (Identifier × List Rule)) → Prop
  | stops (stop : Stop) : SearchesRearranged (.error stop) (.error stop)
  | nothing : SearchesRearranged (.ok none) (.ok none)
  | found (w : Identifier) {rules rules' : List Rule} (h : SameRules rules rules') :
    SearchesRearranged (.ok (some (w, rules))) (.ok (some (w, rules')))

/-- A round of the walk comes to the same over both stores if the walk above does. -/
theorem Rearranged.round (h : s.Rearranged s') {top : Bool} {visited : List Identifier}
    {id : Identifier} {steps : Nat}
    (hup : ∀ parent rest, steps = rest + 1 →
      SearchesRearranged (s.search false (id :: visited) parent rest).answer
        (s'.search false (id :: visited) parent rest).answer) :
    SearchesRearranged (s.search top visited id steps).answer
      (s'.search top visited id steps).answer := by
  rw [answer_search, answer_search, h.ascent_eq]
  rcases h.rulesAt top id with ⟨stop, hs, hs'⟩ | ⟨rules, rules', hrules, hs, hs'⟩
  · rw [hs, hs']
    exact .stops stop
  · rw [hs, hs']
    -- Both walks stop here, or neither does, since both lists are empty or neither is.
    cases rules with
    | cons rule rules =>
      cases rules' with
      | cons rule' rules' => exact .found id hrules
      | nil => exact absurd (hrules.nil_iff.2 rfl) (List.cons_ne_nil _ _)
    | nil =>
      obtain rfl := hrules.nil_iff.1 rfl
      cases s.ascent visited id with
      | root => exact .nothing
      | selfContained => exact .nothing
      | cycle parent => exact .stops _
      | up parent =>
        cases steps with
        | zero => exact .stops _
        | succ rest => exact hup parent rest rfl

/-- Both walks take the same steps and end at the same place, by induction on the steps. -/
theorem Rearranged.search (h : s.Rearranged s') (top : Bool) (visited : List Identifier)
    (id : Identifier) (steps : Nat) :
    SearchesRearranged (s.search top visited id steps).answer
      (s'.search top visited id steps).answer := by
  induction steps generalizing top visited id with
  | zero => exact h.round nofun
  | succ steps ih =>
    apply h.round
    intro parent rest hrest
    obtain rfl := Nat.succ.inj hrest
    exact ih false (id :: visited) parent

/-! ### Resolution -/

/-- On rearranged stores resolution answers the same place and the same modes, or fails on both, for
faults that may differ. It is given up on both where the horizon of the walk is too near. -/
theorem resolution_of_rearranged (h : s.Rearranged s') (anonymous : String) (id : Identifier)
    (agent : String) :
    (∃ outcome, (s.resolve anonymous id agent).answer = .ok outcome ∧
        (s'.resolve anonymous id agent).answer = .ok outcome) ∨
      (∃ fault fault', (s.resolve anonymous id agent).answer = .error (.failed fault) ∧
        (s'.resolve anonymous id agent).answer = .error (.failed fault')) ∨
      ((s.resolve anonymous id agent).answer = .error .unfinished ∧
        (s'.resolve anonymous id agent).answer = .error .unfinished) := by
  rw [answer_resolve, answer_resolve, h.horizon]
  have hsearch := h.search true [] id (s.horizon id)
  generalize (s.search true [] id (s.horizon id)).answer = x at hsearch ⊢
  generalize (s'.search true [] id (s.horizon id)).answer = y at hsearch ⊢
  cases hsearch with
  | stops stop =>
    cases stop with
    | failed fault => exact .inr (.inl ⟨fault, fault, rfl, rfl⟩)
    | unfinished => exact .inr (.inr ⟨rfl, rfl⟩)
  | nothing => exact .inl ⟨_, rfl, rfl⟩
  | found w hrules =>
    rcases @Rearranged.grantedModes s s' anonymous agent _ _ h hrules with
      ⟨modes, hs, hs'⟩ | ⟨fault, fault', hs, hs'⟩
    · left
      simp [hs, hs']
    · right
      left
      simp [hs, hs']

/-- A graph in which each of two teams may read `/`. -/
def twoTeams : Graph :=
  ⟨[⟨.blank "first", Vocab.accessTo.iri, .iri "/"⟩,
    ⟨.blank "first", Vocab.agentGroup.iri, .iri "/teams/a"⟩,
    ⟨.blank "first", Vocab.mode.iri, .iri Mode.read.iri⟩,
    ⟨.blank "second", Vocab.accessTo.iri, .iri "/"⟩,
    ⟨.blank "second", Vocab.agentGroup.iri, .iri "/teams/b"⟩,
    ⟨.blank "second", Vocab.mode.iri, .iri Mode.read.iri⟩]⟩

/-- The same in the reverse order, with the names of the subjects exchanged. -/
def twoTeamsReversed : Graph :=
  ⟨[⟨.blank "first", Vocab.mode.iri, .iri Mode.read.iri⟩,
    ⟨.blank "first", Vocab.agentGroup.iri, .iri "/teams/b"⟩,
    ⟨.blank "first", Vocab.accessTo.iri, .iri "/"⟩,
    ⟨.blank "second", Vocab.mode.iri, .iri Mode.read.iri⟩,
    ⟨.blank "second", Vocab.agentGroup.iri, .iri "/teams/a"⟩,
    ⟨.blank "second", Vocab.accessTo.iri, .iri "/"⟩]⟩

/-- A store in which only `/` can be read. -/
def rootOnly (acl : Graph) : Store where
  read id := if id = "/" then .ok (some ⟨"/", ∅, some acl⟩) else .error (.lookup id "no answer")
  container := Identifier.parent?
  horizon id := id.length

/-- Neither team can be read. The one whose rule comes first is reported, so the faults differ. -/
theorem reversed_teams_fail_as_well :
    (rootOnly twoTeams).Rearranged (rootOnly twoTeamsReversed) ∧
      ((rootOnly twoTeams).resolve "nobody" "/" "alice").answer =
        .error (.failed (.group "/teams/a" "failed to load resource /teams/a: no answer")) ∧
      ∃ fault', ((rootOnly twoTeamsReversed).resolve "nobody" "/" "alice").answer =
          .error (.failed fault') ∧
        fault' = .group "/teams/b" "failed to load resource /teams/b: no answer" := by
  have hrenames : Graph.Renames (Equiv.swap (.blank "first") (.blank "second")) twoTeams
      twoTeamsReversed := ⟨Equiv.injective _, by decide +kernel⟩
  have hrearranged : (rootOnly twoTeams).Rearranged (rootOnly twoTeamsReversed) := by
    refine ⟨rfl, rfl, ?_⟩
    intro id
    unfold rootOnly
    by_cases hid : id = "/"
    · simp only [hid, if_true]
      exact .found ⟨rfl, .refl _, .some ⟨_, hrenames⟩⟩
    · simp only [hid, if_false]
      exact .fails _
  have hfails : ((rootOnly twoTeams).resolve "nobody" "/" "alice").answer =
      .error (.failed (.group "/teams/a" "failed to load resource /teams/a: no answer")) := by
    decide +kernel
  refine ⟨hrearranged, hfails, ?_⟩
  rcases resolution_of_rearranged hrearranged "nobody" "/" "alice" with
    ⟨outcome, hok, -⟩ | ⟨fault, fault', -, hfails'⟩ | ⟨hstop, -⟩
  · cases hfails.symm.trans hok
  · refine ⟨fault', hfails', ?_⟩
    have hteam : ((rootOnly twoTeamsReversed).resolve "nobody" "/" "alice").answer =
        .error (.failed (.group "/teams/b" "failed to load resource /teams/b: no answer")) := by
      decide +kernel
    cases hfails'.symm.trans hteam
    rfl
  · cases hfails.symm.trans hstop

end Store

end WebAccess
