import WebAccess.Proofs.Walk

/-!
# Whom a rule admits

A rule admits an agent by a class, by name or as a member of a group, and looks into groups one by
one only where the rest does not decide. Whenever this look-up answers, the answer is the one that
the statements give all at once: `Store.AdmittedBy` asks a graph and the group documents in no
order. Main statement: the modes granted by the rules of some subjects are those that an admitting
subject states (`Store.mem_of_grantedModes`).
-/

set_option autoImplicit false

namespace WebAccess

open Rdf (Graph Term)

namespace Store

variable {s : Store} {anonymous agent : String}

/-- The document of the group exists and lists the agent as a member, of the group or of the
document. -/
def ListsMember (s : Store) (group agent : String) : Prop :=
  ∃ document, s.read (Identifier.groupDocument group) = .ok (some document) ∧
    (document.content.States (.iri group) .hasMember agent ∨
      document.content.States (.iri (Identifier.groupDocument group)) .hasMember agent)

/-- The subject admits the agent: every agent, every identified agent, this agent, or the members
of a group that lists it. -/
def AdmittedBy (s : Store) (anonymous agent : String) (g : Graph) (subject : Term) : Prop :=
  g.States subject .agentClass Vocab.foafAgent.iri ∨
    (g.States subject .agentClass Vocab.authenticatedAgent.iri ∧ agent ≠ anonymous) ∨
    g.States subject .agent agent ∨
    ∃ group, g.States subject .agentGroup group ∧ s.ListsMember group agent

/-- Whether a group has a member is answered from the document of the group alone. Without a
document it has none, and a document that cannot be read is a fault of the group. -/
theorem answer_isMember (group : String) :
    (s.isMember group agent).answer =
      match s.read (Identifier.groupDocument group) with
      | .error fault => .error (.failed (.group group fault.message))
      | .ok none => .ok false
      | .ok (some document) =>
        .ok (document.content.contains ⟨.iri group, Vocab.hasMember.iri, .iri agent⟩ ||
          document.content.contains
            ⟨.iri (Identifier.groupDocument group), Vocab.hasMember.iri, .iri agent⟩) := by
  unfold isMember
  cases hr : s.read (Identifier.groupDocument group) with
  | error fault => simp only [hr]; rfl
  | ok found => cases found <;> simp only [hr] <;> rfl

/-- If it is answered at all whether a group has the agent as a member, the answer is right. -/
theorem isMember_eq_ok {group : String} {b : Bool} (h : (s.isMember group agent).answer = .ok b) :
    b = true ↔ s.ListsMember group agent := by
  rw [answer_isMember] at h
  unfold ListsMember
  split at h
  · simp at h
  · next hr =>
    obtain rfl := Except.ok.inj h
    simp [hr]
  · next document hr =>
    obtain rfl := Except.ok.inj h
    simp [hr, Graph.States]

/-- The first of several groups is asked first, and the others only if it has no such member. -/
theorem answer_anyMember_cons (group : String) (groups : List String) :
    (s.anyMember agent (group :: groups)).answer =
      (s.isMember group agent).answer >>= fun first =>
        if first then .ok true else (s.anyMember agent groups).answer := by
  rw [anyMember, Inquiry.answer_bind]
  congr 1
  funext first
  cases first <;> rfl

/-- If a list of groups is decided, then by whether one of them lists the agent: a group behind the
first that does is never read. -/
theorem anyMember_eq_ok {groups : List String} {b : Bool}
    (h : (s.anyMember agent groups).answer = .ok b) :
    b = true ↔ ∃ group ∈ groups, s.ListsMember group agent := by
  induction groups with
  | nil =>
    obtain rfl := Except.ok.inj h
    simp
  | cons group groups ih =>
    rw [answer_anyMember_cons] at h
    obtain ⟨first, hm, hrest⟩ := bind_eq_ok.1 h
    have hfirst := isMember_eq_ok hm
    cases first with
    | true =>
      obtain rfl := Except.ok.inj hrest
      exact iff_of_true rfl ⟨group, List.mem_cons_self, hfirst.1 rfl⟩
    | false =>
      have hnot : ¬s.ListsMember group agent := fun hl => Bool.false_ne_true (hfirst.2 hl)
      simp [ih hrest, hnot]

/-- If it is decided whether the rule of a subject admits the agent, then by what the subject
states. -/
theorem admits_about_eq_ok {g : Graph} {subject : Term} {b : Bool}
    (h : (s.admits anonymous (Rule.about g subject) agent).answer = .ok b) :
    b = true ↔ s.AdmittedBy anonymous agent g subject := by
  unfold admits at h
  unfold AdmittedBy
  split at h
  · next hdirect =>
    rw [Rule.hasClass_about, Rule.hasClass_about, Rule.mem_agents_about] at hdirect
    have hb : b = true := by simpa [eq_comm] using h
    refine iff_of_true hb ?_
    rcases hdirect with hfoaf | hauth | hname
    · exact .inl hfoaf
    · exact .inr (.inl hauth)
    · exact .inr (.inr (.inl hname))
  · next hdirect =>
    rw [Rule.hasClass_about, Rule.hasClass_about, Rule.mem_agents_about, not_or, not_or] at hdirect
    obtain ⟨hfoaf, hauth, hname⟩ := hdirect
    rw [anyMember_eq_ok h, or_iff_right hfoaf, or_iff_right hauth, or_iff_right hname]
    exact exists_congr fun group => and_congr_left' Rule.mem_agentGroups_about

/-- The first of several rules adds its modes to those of the others if it admits the agent, and a
rule that cannot be decided stops them all. -/
theorem answer_grantedModes_cons (rule : Rule) (rules : List Rule) :
    (s.grantedModes anonymous agent (rule :: rules)).answer =
      (s.admits anonymous rule agent).answer >>= fun admitted =>
        (s.grantedModes anonymous agent rules).answer >>= fun rest =>
          .ok (if admitted then rule.modes ∪ rest else rest) := by
  rw [grantedModes, Inquiry.answer_bind]
  congr 1
  funext admitted
  cases admitted with
  | true =>
    rw [if_pos rfl, Inquiry.answer_bind, Inquiry.answer_event, ok_bind, Inquiry.answer_bind]
    rfl
  | false => cases h : (s.grantedModes anonymous agent rules).answer <;> simp [h]

/-- Stores that answer alike for each of the groups answer alike for all of them. -/
theorem anyMember_eq_of_groups {s' : Store} {groups : List String}
    (h : ∀ group ∈ groups, (s'.isMember group agent).answer = (s.isMember group agent).answer) :
    (s'.anyMember agent groups).answer = (s.anyMember agent groups).answer := by
  induction groups with
  | nil => rfl
  | cons group groups ih =>
    obtain ⟨hfirst, hrest⟩ := List.forall_mem_cons.1 h
    rw [answer_anyMember_cons, answer_anyMember_cons, hfirst, ih hrest]

/-- Stores that answer alike about the groups of some rules grant the same modes by them. -/
theorem grantedModes_eq_of_groups {s' : Store} {rules : List Rule}
    (h : ∀ rule ∈ rules, ∀ group ∈ rule.agentGroups,
      (s'.isMember group agent).answer = (s.isMember group agent).answer) :
    (s'.grantedModes anonymous agent rules).answer =
      (s.grantedModes anonymous agent rules).answer := by
  induction rules with
  | nil => rfl
  | cons rule rules ih =>
    obtain ⟨hfirst, hrest⟩ := List.forall_mem_cons.1 h
    have hadmits : (s'.admits anonymous rule agent).answer =
        (s.admits anonymous rule agent).answer := by
      unfold admits
      split
      · rfl
      · exact anyMember_eq_of_groups hfirst
    rw [answer_grantedModes_cons, answer_grantedModes_cons, hadmits, ih hrest]

/-- If the modes of some rules are decided, then each rule is, and a mode is granted exactly if a
rule that admits the agent grants it. -/
theorem grantedModes_eq_ok {rules : List Rule} {modes : ModeSet}
    (h : (s.grantedModes anonymous agent rules).answer = .ok modes) :
    (∀ rule ∈ rules, ∃ b, (s.admits anonymous rule agent).answer = .ok b) ∧
      ∀ m, m ∈ modes ↔
        ∃ rule ∈ rules, (s.admits anonymous rule agent).answer = .ok true ∧ m ∈ rule.modes := by
  induction rules generalizing modes with
  | nil =>
    obtain rfl := Except.ok.inj h
    simp
  | cons rule rules ih =>
    rw [answer_grantedModes_cons] at h
    obtain ⟨admitted, ha, hbind⟩ := bind_eq_ok.1 h
    obtain ⟨rest, hrest, hmodes⟩ := bind_eq_ok.1 hbind
    obtain ⟨hdecided, hmem⟩ := ih hrest
    refine ⟨?_, fun m => ?_⟩
    · rintro other (_ | ⟨_, hother⟩)
      · exact ⟨admitted, ha⟩
      · exact hdecided other hother
    · obtain rfl := Except.ok.inj hmodes
      cases admitted <;> simp [ha, hmem]

/-- The modes that the rules of some subjects grant are those that an admitting subject states. -/
theorem mem_of_grantedModes {g : Graph} {subjects : Term → Prop} {rules : List Rule}
    {modes : ModeSet} (hrules : ∀ rule, rule ∈ rules ↔ ∃ t, subjects t ∧ Rule.about g t = rule)
    (h : (s.grantedModes anonymous agent rules).answer = .ok modes) (m : Mode) :
    m ∈ modes ↔
      ∃ t, subjects t ∧ g.States t .mode m.iri ∧ s.AdmittedBy anonymous agent g t := by
  obtain ⟨hdecided, hmem⟩ := grantedModes_eq_ok h
  rw [hmem]
  constructor
  · rintro ⟨rule, hrule, hadmits, hm⟩
    obtain ⟨t, ht, rfl⟩ := (hrules rule).1 hrule
    exact ⟨t, ht, Rule.mem_modes_about.1 hm, (admits_about_eq_ok hadmits).1 rfl⟩
  · rintro ⟨t, ht, hm, hadmitted⟩
    have hrule : Rule.about g t ∈ rules := (hrules _).2 ⟨t, ht, rfl⟩
    obtain ⟨b, hb⟩ := hdecided _ hrule
    obtain rfl : b = true := (admits_about_eq_ok hb).2 hadmitted
    exact ⟨_, hrule, hb, Rule.mem_modes_about.2 hm⟩

end Store

end WebAccess
