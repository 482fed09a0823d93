import Mathlib
import WebAccess.Proofs.NearestRules
import WebAccess.Proofs.WalkPlaces

/-!
# When resolution fails

A store may fail to read something without any harm: resolution reads a place only when the walk
comes to it, and the document of a group only when nothing before it has decided the rule. Twice it
goes through a list and stops at the first member that cannot be decided: through the groups of a
rule in the order of their names, and through the rules in the order in which their subjects were
first seen. Both are described by `ReachedIn`, past members that pass to one that is hit.

A subject is undecided for an agent (`Store.UndecidedFor`) if it does not admit the agent directly
and one of its groups fails before any lists the agent (`Store.admits_about_eq_error_iff`). Main
statement: resolution fails for the fault of the walk, or for that of the first subject that is
undecided at the nearest place with rules, and else it answers (`Store.resolve_fails_iff`).
-/

set_option autoImplicit false

namespace WebAccess

open Rdf (Graph Term)

/-! ## Going through a list -/

section ReachedIn

variable {α : Type} {pass hit : α → Prop}

/-- Going through the list, one comes to a member that is hit, past members that pass. -/
def ReachedIn (pass hit : α → Prop) (l : List α) : Prop :=
  ∃ before a after, l = before ++ a :: after ∧ hit a ∧ ∀ b ∈ before, pass b

/-- In an empty list there is nothing to come to. -/
@[simp] theorem not_reachedIn_nil : ¬ReachedIn pass hit [] := by
  rintro ⟨before, a, after, hl, -⟩
  simp at hl

/-- In a list one comes to a hit at the first member or, if this one passes, behind it. -/
theorem reachedIn_cons {a : α} {l : List α} :
    ReachedIn pass hit (a :: l) ↔ hit a ∨ (pass a ∧ ReachedIn pass hit l) := by
  constructor
  · rintro ⟨before, b, after, hl, hb, hbefore⟩
    cases before with
    | nil =>
      obtain ⟨rfl, -⟩ := List.cons.inj hl
      exact .inl hb
    | cons c before =>
      obtain ⟨rfl, rfl⟩ := List.cons.inj hl
      right
      refine ⟨hbefore a List.mem_cons_self, before, b, after, rfl, hb, ?_⟩
      intro d hd
      exact hbefore d (List.mem_cons_of_mem a hd)
  · rintro (ha | ⟨ha, before, b, after, rfl, hb, hbefore⟩)
    · exact ⟨[], a, l, rfl, ha, by simp⟩
    · exact ⟨a :: before, b, after, rfl, hb, List.forall_mem_cons.2 ⟨ha, hbefore⟩⟩

/-- A mapped list is gone through as the list is, with the images in place of the members. -/
theorem reachedIn_map {β : Type} (f : β → α) {l : List β} :
    ReachedIn pass hit (l.map f) ↔ ReachedIn (fun b => pass (f b)) (fun b => hit (f b)) l := by
  induction l with
  | nil => simp
  | cons b l ih => rw [List.map_cons, reachedIn_cons, reachedIn_cons, ih]

/-- A filtered list is gone through as the list is, where a member that is filtered out passes and
is no hit. -/
theorem reachedIn_filter (keep : α → Bool) {l : List α} :
    ReachedIn pass hit (l.filter keep) ↔
      ReachedIn (fun a => keep a = true → pass a) (fun a => keep a = true ∧ hit a) l := by
  induction l with
  | nil => simp
  | cons a l ih =>
    rw [reachedIn_cons, ← ih]
    by_cases ha : keep a = true
    · rw [List.filter_cons_of_pos ha, reachedIn_cons]
      simp [ha]
    · rw [List.filter_cons_of_neg ha]
      simp [ha]

/-- In a set of names, which are gone through in rising order, the members passed are the smaller
ones. -/
theorem reachedIn_toList_iff {pass hit : String → Prop} {names : NameSet} :
    ReachedIn pass hit names.toList ↔
      ∃ x ∈ names, hit x ∧ ∀ y ∈ names, y < x → pass y := by
  constructor
  · rintro ⟨before, x, after, hl, hx, hbefore⟩
    have hsorted := names.sorted
    rw [hl, List.pairwise_append, List.pairwise_cons] at hsorted
    have hmem : ∀ y, y ∈ names ↔ y ∈ before ∨ y = x ∨ y ∈ after := by
      intro y
      rw [← NameSet.mem_toList, hl, List.mem_append, List.mem_cons]
    refine ⟨x, (hmem x).2 (.inr (.inl rfl)), hx, ?_⟩
    intro y hy hlt
    rcases (hmem y).1 hy with hin | rfl | hin
    · exact hbefore y hin
    · exact absurd hlt (String.lt_irrefl y)
    · exact absurd hlt (String.lt_asymm (hsorted.2.1.1 y hin))
  · rintro ⟨x, hx, hhit, hpass⟩
    obtain ⟨before, after, hl⟩ := List.append_of_mem (NameSet.mem_toList.2 hx)
    have hsorted := names.sorted
    rw [hl, List.pairwise_append] at hsorted
    refine ⟨before, x, after, hl, hhit, ?_⟩
    intro y hy
    apply hpass y
    · rw [← NameSet.mem_toList, hl]
      exact List.mem_append_left _ hy
    · exact hsorted.2.2 y hy x List.mem_cons_self

end ReachedIn

/-! ## Rules that cannot be decided -/

/-- The subject admits the agent by a class or by name, whatever its groups. -/
def Rdf.Graph.AdmitsDirectly (g : Graph) (anonymous agent : String) (subject : Term) : Prop :=
  g.States subject .agentClass Vocab.foafAgent.iri ∨
    (g.States subject .agentClass Vocab.authenticatedAgent.iri ∧ agent ≠ anonymous) ∨
    g.States subject .agent agent

namespace Store

open Identifier (path groupDocument)

variable {s : Store} {anonymous agent : String}

/-- The document of the group can be read, if only to find it missing, and does not list the
agent. -/
def PassesOver (s : Store) (agent group : String) : Prop :=
  (∃ found, s.read (groupDocument group) = .ok found) ∧ ¬s.ListsMember group agent

/-- It cannot be decided whether the subject admits the agent. It does not do so directly, and among
its groups in the order of their names one whose document cannot be read comes before any that lists
the agent; the fault names this group. -/
def UndecidedFor (s : Store) (anonymous agent : String) (g : Graph) (subject : Term)
    (fault : Fault) : Prop :=
  ¬g.AdmitsDirectly anonymous agent subject ∧
    ∃ group cause, g.States subject .agentGroup group ∧
      s.read (groupDocument group) = .error cause ∧ fault = .group group cause.message ∧
      ∀ other, g.States subject .agentGroup other → other < group → s.PassesOver agent other

/-- A group fails to answer exactly if its document cannot be read, and the fault names the group
and why. -/
theorem isMember_eq_error_iff {group : String} {stop : Stop} :
    (s.isMember group agent).answer = .error stop ↔
      ∃ cause, s.read (groupDocument group) = .error cause ∧
        stop = .failed (.group group cause.message) := by
  rw [answer_isMember]
  cases hread : s.read (groupDocument group) with
  | error cause => simp [eq_comm]
  | ok found => cases found <;> simp

/-- A group is answered not to have the agent as a member exactly if its document can be read and
does not list the agent. -/
theorem isMember_eq_false_iff {group : String} :
    (s.isMember group agent).answer = .ok false ↔ s.PassesOver agent group := by
  constructor
  · intro h
    refine ⟨?_, ?_⟩
    · cases hread : s.read (groupDocument group) with
      | ok found => exact ⟨found, rfl⟩
      | error cause =>
        rw [answer_isMember, hread] at h
        cases h
    · intro hlists
      exact Bool.false_ne_true ((isMember_eq_ok h).2 hlists)
  · rintro ⟨⟨found, hread⟩, hnot⟩
    cases hanswer : (s.isMember group agent).answer with
    | error stop =>
      obtain ⟨cause, hfails, -⟩ := isMember_eq_error_iff.1 hanswer
      rw [hread] at hfails
      cases hfails
    | ok b =>
      cases b with
      | false => rfl
      | true => exact absurd ((isMember_eq_ok hanswer).1 rfl) hnot

/-- Going through groups fails at a group that cannot be read, past groups that do not list the
agent. -/
theorem anyMember_eq_error_iff {groups : List String} {stop : Stop} :
    (s.anyMember agent groups).answer = .error stop ↔
      ReachedIn (s.PassesOver agent) (fun group => (s.isMember group agent).answer = .error stop)
        groups := by
  induction groups with
  | nil => simp [anyMember]
  | cons group groups ih =>
    rw [answer_anyMember_cons, reachedIn_cons, ← ih, ← isMember_eq_false_iff, bind_eq_error]
    simp

/-- The rule of a subject admits an agent without looking at groups exactly if the subject admits it
directly. -/
theorem admitsDirectly_about_iff {g : Graph} {subject : Term} :
    ((Rule.about g subject).hasClass .foafAgent = true ∨
        ((Rule.about g subject).hasClass .authenticatedAgent = true ∧ agent ≠ anonymous) ∨
        agent ∈ (Rule.about g subject).agents) ↔ g.AdmitsDirectly anonymous agent subject := by
  rw [Rule.hasClass_about, Rule.hasClass_about, Rule.mem_agents_about]
  rfl

/-- Whether the rule of a subject admits the agent fails to be decided exactly if what the subject
states leaves it open. -/
theorem admits_about_eq_error_iff {g : Graph} {subject : Term} {stop : Stop} :
    (s.admits anonymous (Rule.about g subject) agent).answer = .error stop ↔
      ∃ fault, stop = .failed fault ∧ s.UndecidedFor anonymous agent g subject fault := by
  by_cases hdirect : g.AdmitsDirectly anonymous agent subject
  · have hadmits : s.admits anonymous (Rule.about g subject) agent = pure true :=
      if_pos (admitsDirectly_about_iff.2 hdirect)
    rw [hadmits]
    apply iff_of_false (by simp)
    rintro ⟨fault, -, hnot, -⟩
    exact hnot hdirect
  · have hgroups : s.admits anonymous (Rule.about g subject) agent =
        s.anyMember agent (Rule.about g subject).agentGroups.toList :=
      if_neg (mt admitsDirectly_about_iff.1 hdirect)
    rw [hgroups, anyMember_eq_error_iff, reachedIn_toList_iff]
    simp only [Rule.mem_agentGroups_about, isMember_eq_error_iff]
    constructor
    · rintro ⟨group, hgroup, ⟨cause, hread, rfl⟩, hbefore⟩
      exact ⟨_, rfl, hdirect, group, cause, hgroup, hread, rfl, hbefore⟩
    · rintro ⟨fault, rfl, -, group, cause, hgroup, hread, rfl, hbefore⟩
      exact ⟨group, hgroup, ⟨cause, hread, rfl⟩, hbefore⟩

/-- It is decided whether the rule of a subject admits the agent exactly if what the subject states
leaves nothing open. -/
theorem admits_about_decided_iff {g : Graph} {subject : Term} :
    (∃ b, (s.admits anonymous (Rule.about g subject) agent).answer = .ok b) ↔
      ∀ fault, ¬s.UndecidedFor anonymous agent g subject fault := by
  constructor
  · rintro ⟨b, hok⟩ fault hundecided
    have herror := admits_about_eq_error_iff.2 ⟨fault, rfl, hundecided⟩
    rw [hok] at herror
    cases herror
  · intro hnone
    cases hanswer : (s.admits anonymous (Rule.about g subject) agent).answer with
    | ok b => exact ⟨b, rfl⟩
    | error stop =>
      obtain ⟨fault, -, hundecided⟩ := admits_about_eq_error_iff.1 hanswer
      exact absurd hundecided (hnone fault)

/-- Collecting modes fails at a rule that cannot be decided, past rules that can. -/
theorem grantedModes_eq_error_iff {rules : List Rule} {stop : Stop} :
    (s.grantedModes anonymous agent rules).answer = .error stop ↔
      ReachedIn (fun rule => ∃ b, (s.admits anonymous rule agent).answer = .ok b)
        (fun rule => (s.admits anonymous rule agent).answer = .error stop) rules := by
  induction rules with
  | nil => simp [grantedModes]
  | cons rule rules ih =>
    rw [answer_grantedModes_cons, reachedIn_cons, ← ih, bind_eq_error]
    simp [bind_eq_error]

end Store

namespace Rdf.Graph

variable {g : Graph} {r : Identifier} {k : Nat} {subject : Term}

/-- At the requested resource, and above it where no subject is a default for the container, the
subjects that give access to the place govern. -/
theorem governs_iff_covering (h : k = 0 ∨ ∀ u, ¬g.States u .default r) :
    g.Governs r k subject ↔ g.States subject .accessTo r := by
  unfold Governs
  rcases Nat.eq_zero_or_pos k with rfl | hpos
  · simp
  · have hnone := h.resolve_left (Nat.ne_of_gt hpos)
    simp [Nat.ne_of_gt hpos, hpos, hnone]

/-- Anywhere else the subjects that are a default for the place govern. -/
theorem governs_iff_inherited (h : ¬(k = 0 ∨ ∀ u, ¬g.States u .default r)) :
    g.Governs r k subject ↔ g.States subject .default r := by
  obtain ⟨hk, hsome⟩ := not_or.1 h
  have hpos : 0 < k := Nat.pos_of_ne_zero hk
  unfold Governs
  simp only [hk, hpos, hsome, false_and, true_and, false_or, or_false]

end Rdf.Graph

open Classical in
/-- The applicable rules of a graph are those of its governing subjects, in first-seen order. -/
theorem Rule.applicable_extract_eq (g : Graph) (r : Identifier) (k : Nat) :
    applicable (extract g) r (decide (k = 0)) =
      (g.subjects.filter fun subject => g.Governs r k subject).map (about g) := by
  have hrules : extract g = g.subjects.map (about g) := by
    simp [extract, Graph.bySubject, about]
  have hempty := isEmpty_inherited_iff (g := g) (r := r)
  unfold applicable
  by_cases htop : k = 0 ∨ ∀ u, ¬g.States u .default r
  · have hcover : (decide (k = 0) || ((extract g).filter (·.isDefaultFor r)).isEmpty) = true := by
      simpa only [Bool.or_eq_true, decide_eq_true_iff, hempty] using htop
    rw [if_pos hcover, hrules, List.filter_map]
    congr 1
    apply List.filter_congr
    intro subject _
    rw [Bool.eq_iff_iff, decide_eq_true_iff, Graph.governs_iff_covering htop]
    exact appliesTo_about
  · have hinherit :
        ¬(decide (k = 0) || ((extract g).filter (·.isDefaultFor r)).isEmpty) = true := by
      simpa only [Bool.or_eq_true, decide_eq_true_iff, hempty] using htop
    rw [if_neg hinherit, hrules, List.filter_map]
    congr 1
    apply List.filter_congr
    intro subject _
    rw [Bool.eq_iff_iff, decide_eq_true_iff, Graph.governs_iff_inherited htop]
    exact isDefaultFor_about

/-! ## Resolution -/

namespace Store

open Identifier (path groupDocument)

variable {s : Store} {anonymous agent : String} {id : Identifier}

/-- Going through the subjects that govern at the nearest place in first-seen order, one comes to a
subject for which it cannot be decided whether it admits the agent, for this fault. -/
def LeavesUndecided (s : Store) (anonymous agent : String) (id : Identifier) (fault : Fault) :
    Prop :=
  ∃ k w r g, s.Reaches id k w ∧ s.CarriesAt s.container id k w r g ∧
    ReachedIn
      (fun subject => g.Governs r.identifier k subject →
        ∀ other, ¬s.UndecidedFor anonymous agent g subject other)
      (fun subject => g.Governs r.identifier k subject ∧
        s.UndecidedFor anonymous agent g subject fault)
      g.subjects

/-- The modes of the rules that govern a place fail to be collected exactly if one comes to a
subject for which nothing can be decided. -/
theorem grantedModes_applicable_eq_error_iff {g : Graph} {r : Identifier} {k : Nat} {stop : Stop} :
    (s.grantedModes anonymous agent
        (Rule.applicable (Rule.extract g) r (decide (k = 0)))).answer = .error stop ↔
      ∃ fault, stop = .failed fault ∧
        ReachedIn
          (fun subject => g.Governs r k subject →
            ∀ other, ¬s.UndecidedFor anonymous agent g subject other)
          (fun subject => g.Governs r k subject ∧ s.UndecidedFor anonymous agent g subject fault)
          g.subjects := by
  classical
  rw [Rule.applicable_extract_eq, grantedModes_eq_error_iff, reachedIn_map, reachedIn_filter]
  simp only [admits_about_decided_iff, decide_eq_true_iff]
  constructor
  · rintro ⟨before, subject, after, hlist, ⟨hgoverns, herror⟩, hbefore⟩
    obtain ⟨fault, rfl, hundecided⟩ := admits_about_eq_error_iff.1 herror
    exact ⟨fault, rfl, before, subject, after, hlist, ⟨hgoverns, hundecided⟩, hbefore⟩
  · rintro ⟨fault, rfl, before, subject, after, hlist, ⟨hgoverns, hundecided⟩, hbefore⟩
    have herror := admits_about_eq_error_iff.2 ⟨fault, rfl, hundecided⟩
    exact ⟨before, subject, after, hlist, ⟨hgoverns, herror⟩, hbefore⟩

/-- Resolution fails if the search does, or if its rules leave something undecided. -/
theorem resolve_eq_error_iff
    (hends : (s.search true [] id (s.horizon id)).answer ≠ .error .unfinished) {stop : Stop} :
    (s.resolve anonymous id agent).answer = .error stop ↔
      (s.search true [] id (s.horizon id)).answer = .error stop ∨
        ∃ fault, stop = .failed fault ∧ s.LeavesUndecided anonymous agent id fault := by
  rw [answer_resolve, bind_eq_error]
  apply or_congr_right
  constructor
  · rintro ⟨found, hsearch, hmodes⟩
    obtain ⟨k, -, w, hw, hend⟩ := (answer_search_eq_iff (by simp)).1 hsearch
    cases hend with
    | top => cases hmodes
    | @governed r g hcarries hgoverned =>
      have herror : (s.grantedModes anonymous agent
          (Rule.applicable (Rule.extract g) r.identifier (decide (k = 0)))).answer =
            .error stop := by
        simpa [bind_eq_error] using hmodes
      obtain ⟨fault, hstop, hreached⟩ := grantedModes_applicable_eq_error_iff.1 herror
      exact ⟨fault, hstop, k, w, r, g, hw, hcarries, hreached⟩
  · rintro ⟨fault, rfl, k, w, r, g, hw, hcarries, hreached⟩
    have hgoverned : ∃ subject, g.Governs r.identifier k subject := by
      obtain ⟨-, subject, -, -, ⟨hgoverns, -⟩, -⟩ := hreached
      exact ⟨subject, hgoverns⟩
    have hsearch := (answer_search_eq_iff (by simp)).2
      ⟨k, hw.le_of_finished hends, w, hw, .governed hcarries hgoverned⟩
    refine ⟨_, hsearch, ?_⟩
    have herror := grantedModes_applicable_eq_error_iff.2 ⟨fault, rfl, hreached⟩
    simp only [bind_eq_error]
    exact .inl herror

/-- Where every reading answers, nothing is left undecided. -/
theorem not_leavesUndecided (hreads : ∀ w fault, s.read w ≠ .error fault) {fault : Fault} :
    ¬s.LeavesUndecided anonymous agent id fault := by
  rintro ⟨-, -, -, -, -, -, -, -, -, -, ⟨-, -, group, cause, -, hread, -⟩, -⟩
  exact hreads _ cause hread

/-- Resolution of a walk that ends fails for exactly these faults: the one of the first reading on
the walk that fails, the cycle to which the containers lead back, and the first group that cannot be
read where it is needed to decide a rule. Without them it answers. So a reading that finds nothing
is no fault. -/
theorem resolve_fails_iff
    (hends : (s.search true [] id (s.horizon id)).answer ≠ .error .unfinished) :
    (∀ fault, (s.resolve anonymous id agent).answer = .error (.failed fault) ↔
        (s.FailsToRead id fault ∨ ∃ p, fault = .cycle p ∧ s.ReturnsTo id p) ∨
          s.LeavesUndecided anonymous agent id fault) ∧
      ((∃ outcome, (s.resolve anonymous id agent).answer = .ok outcome) ↔
        ∀ fault, ¬((s.FailsToRead id fault ∨ ∃ p, fault = .cycle p ∧ s.ReturnsTo id p) ∨
          s.LeavesUndecided anonymous agent id fault)) ∧
      ((∀ w fault, s.read w ≠ .error fault) → (∀ p, ¬s.ReturnsTo id p) →
        ∃ outcome, (s.resolve anonymous id agent).answer = .ok outcome) := by
  have hfails : ∀ fault, (s.resolve anonymous id agent).answer = .error (.failed fault) ↔
      (s.FailsToRead id fault ∨ ∃ p, fault = .cycle p ∧ s.ReturnsTo id p) ∨
        s.LeavesUndecided anonymous agent id fault := by
    intro fault
    rw [resolve_eq_error_iff hends, answer_search_eq_failed_iff hends]
    simp
  have hanswers : (∃ outcome, (s.resolve anonymous id agent).answer = .ok outcome) ↔
      ∀ fault, ¬((s.FailsToRead id fault ∨ ∃ p, fault = .cycle p ∧ s.ReturnsTo id p) ∨
        s.LeavesUndecided anonymous agent id fault) := by
    simp only [← hfails]
    cases hanswer : (s.resolve anonymous id agent).answer with
    | ok outcome => simp
    | error stop =>
      cases stop with
      | failed fault => simp
      | unfinished =>
        rw [resolve_eq_error_iff hends] at hanswer
        rcases hanswer with hstop | ⟨fault, hstop, -⟩
        · exact absurd hstop hends
        · cases hstop
  refine ⟨hfails, hanswers, ?_⟩
  intro hreads hnoreturn
  rw [hanswers]
  rintro fault ((⟨k, w, -, hread⟩ | ⟨p, -, hreturns⟩) | hundecided)
  · exact hreads w fault hread
  · exact hnoreturn p hreturns
  · exact not_leavesUndecided hreads hundecided

/-- A graph whose first subject lets everyone read below `/`, and whose second lets the members of
three teams write. -/
def teamRules : Graph :=
  Graph.ofList
    [⟨.blank "all", Vocab.agentClass.iri, .iri Vocab.foafAgent.iri⟩,
      ⟨.blank "all", Vocab.default.iri, .iri "/"⟩,
      ⟨.blank "all", Vocab.mode.iri, .iri Mode.read.iri⟩,
      ⟨.blank "teams", Vocab.agentGroup.iri, .iri "/teams/c#x"⟩,
      ⟨.blank "teams", Vocab.agentGroup.iri, .iri "/teams/b#x"⟩,
      ⟨.blank "teams", Vocab.agentGroup.iri, .iri "/teams/a#x"⟩,
      ⟨.blank "teams", Vocab.default.iri, .iri "/"⟩,
      ⟨.blank "teams", Vocab.mode.iri, .iri Mode.write.iri⟩]

/-- A store with these rules in which the first team does not exist, the second cannot be read and
the third lists `alice`. -/
def brokenTeam : Overlay :=
  { Overlay.ofMemory <|
      (Memory.empty.put ⟨"/", ∅, some teamRules⟩).put
        ⟨"/teams/c", Graph.ofList [⟨.iri "/teams/c#x", Vocab.hasMember.iri, .iri "alice"⟩], none⟩
    with readFaults := [("/teams/b", "backend unavailable")] }

/-- The second team is needed before the third is read, so `alice` gets no answer, although the
first subject admits her. -/
theorem second_team_is_reported :
    (brokenTeam.toStore.search true [] "/doc" (brokenTeam.horizon "/doc")).answer ≠
        .error .unfinished ∧
      (brokenTeam.toStore.resolve "nobody" "/doc" "alice").answer =
        .error (.failed (.group "/teams/b#x"
          "failed to load resource /teams/b: backend unavailable")) ∧
      brokenTeam.toStore.LeavesUndecided "nobody" "alice" "/doc"
        (.group "/teams/b#x" "failed to load resource /teams/b: backend unavailable") := by
  have hanswer : (brokenTeam.toStore.resolve "nobody" "/doc" "alice").answer =
      .error (.failed (.group "/teams/b#x"
        "failed to load resource /teams/b: backend unavailable")) := by decide +kernel
  have hends : (brokenTeam.toStore.search true [] "/doc"
      (brokenTeam.toStore.horizon "/doc")).answer ≠ .error .unfinished := by
    intro hstop
    rw [answer_resolve, hstop] at hanswer
    cases hanswer
  refine ⟨hends, hanswer, ?_⟩
  have hfails := @resolve_fails_iff brokenTeam.toStore "nobody" "alice" "/doc" hends
  rcases (hfails.1 _).1 hanswer with (⟨k, w, -, hread⟩ | ⟨p, hcycle, -⟩) | h
  · obtain ⟨reason, hreason⟩ := Overlay.exists_reason_of_read hread
    cases hreason
  · cases hcycle
  · exact h

end Store

end WebAccess
